import Reconcile.Chunk
import Reconcile.Net.Error
import Reconcile.Store

/-!
# Listing a range of the leader

The leader's items of a range come in pages. The first page starts after the range's marker, each
further one after the last object key of the page before it. Since a page may be shorter than
asked for, only an empty page, or one that reaches the end of the range, ends the listing. A page
that fails changes nothing: the next request is the same again.

A `Leader` is whoever answers the requests, as a function of a state that the answers may change.
Its answers always come to an end: if pages keep coming, a bound on how many more there can be
goes down.
-/

namespace Reconcile

/-- The object key at which a page ends, after which the next one starts. -/
def lastObjectKey? (page : List Item) : Option String :=
  page.getLast?.bind Item.objectKey?

/-- Whoever answers listing requests, from a state of type `σ`. -/
structure Leader (σ : Type) where
  /-- Answers a request. -/
  list : ListRequest → σ → Except NetError (List Item) × σ
  /-- A bound on the number of pages with an end that a listing from here on still has. -/
  pagesLeft : ListRequest → σ → Nat
  /-- Each page with an end lowers the bound for the request that follows it. -/
  pagesLeft_lt : ∀ {request : ListRequest} {state next : σ} {page : List Item} {key : String},
    list request state = (.ok page, next) → lastObjectKey? page = some key →
      pagesLeft { request with after := some key } next < pagesLeft request state

/-- The state of a listing. -/
structure Listing where
  /-- The request for the next page. -/
  request : ListRequest
  /-- Whether the range is exhausted. -/
  done : Bool
  deriving DecidableEq, Repr

namespace Listing

/-- Before the first page of a range; pages of 0 items count as pages of 1. -/
def start (range : Range) (pageSize : Nat) : Listing :=
  ⟨⟨range.bucket, range.marker, range.last, max pageSize 1⟩, false⟩

/-- Fetches the next page; none once the range is exhausted. -/
def next {σ : Type} (listing : Listing) (leader : Leader σ) (state : σ) :
    Except NetError (Option (List Item)) × Listing × σ :=
  if listing.done then (.ok none, listing, state)
  else
    match leader.list listing.request state with
    | (.error error, state) => (.error error, listing, state)
    | (.ok page, state) =>
      match lastObjectKey? page with
      | none => (.ok none, { listing with done := true }, state)
      | some key =>
        (.ok (some page),
          { request := { listing.request with after := some key }
            done := listing.request.upTo == some key },
          state)

/-- A bound on the number of pages still to come. -/
def pagesLeft {σ : Type} (listing : Listing) (leader : Leader σ) (state : σ) : Nat :=
  if listing.done then 0 else leader.pagesLeft listing.request state + 1

/-- Each page lowers the bound on those still to come. -/
theorem pagesLeft_lt {σ : Type} {listing following : Listing} {leader : Leader σ}
    {state after : σ} {page : List Item}
    (h : listing.next leader state = (.ok (some page), following, after)) :
    following.pagesLeft leader after < listing.pagesLeft leader state := by
  unfold next at h
  split at h
  · cases h
  next hdone =>
    split at h
    · cases h
    next page' state' hlist =>
      split at h
      · cases h
      next key hkey =>
        cases h
        have := leader.pagesLeft_lt hlist hkey
        simp only [pagesLeft, hdone, Bool.false_eq_true, if_false]
        split <;> omega

/-- **What is shown of a listing from that of its next page**, is shown of all listings. -/
theorem induction_next {σ : Type} (leader : Leader σ) {motive : Listing → σ → Prop}
    (step : ∀ listing state, (∀ page following after,
      listing.next leader state = (.ok (some page), following, after) →
        motive following after) → motive listing state)
    (listing : Listing) (state : σ) : motive listing state :=
  step listing state fun _ following after _ => induction_next leader step following after
  termination_by listing.pagesLeft leader state
  decreasing_by exact pagesLeft_lt ‹listing.next leader state = _›

end Listing

end Reconcile

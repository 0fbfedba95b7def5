import Reconcile.Listing

/-!
# Leaders whose contents are known

A leader that answers from stores: each request finds the next store of a sequence, whose last one
stays, so that others may write to the leader while it is listed. Or one that gives pages of a
script whatever it is asked. In either case requests may fail by their number, a cap may hold the
pages below the size asked for, and all requests are recorded.

Listings of such a leader end. Each page uses up a store or a page of the script, or it comes from
the last store and moves the marker past one of its items.
-/

namespace Reconcile

/-- Where the pages of a leader come from. -/
inductive PageSource where
  /-- From one store after the other; the last one stays. -/
  | stores (now : Store) (later : List Store)
  /-- From a script; after its end all pages are empty. -/
  | script (pages : List (List Item))
  deriving Repr, Inhabited

/-- The state of a leader whose contents are known. -/
structure Served where
  source : PageSource
  /-- The requests so far, the failed ones included. -/
  requests : Array ListRequest

/-- How a leader answers. -/
structure Serving where
  /-- The greatest number of items of a page, if there is one. -/
  cap : Option Nat
  /-- How the request of a number fails, counted from 0. -/
  fault : Nat → Option NetError

namespace PageSource

/-- The next page, and what the pages after it come from. -/
def page (cap : Option Nat) (request : ListRequest) : PageSource → List Item × PageSource
  | .stores now [] => (now.list cap request, .stores now [])
  | .stores now (next :: later) => (now.list cap request, .stores next later)
  | .script [] => ([], .script [])
  | .script (page :: pages) => (page, .script pages)

/-- A bound on the number of pages that a listing still has. -/
def pagesLeft (request : ListRequest) : PageSource → Nat
  | .stores now later => later.length + ((later.getLastD now).inRange request).length
  | .script pages => pages.length

end PageSource

/-- The request that follows a page which ends with an object key asks for no item that was not
asked for before. -/
theorem ListRequest.covers_of_following {request : ListRequest} {key : String} {item : Item}
    (hkey : request.admits key = true)
    (hitem : ({ request with after := some key } : ListRequest).covers item = true) :
    request.covers item = true := by
  unfold ListRequest.covers at *
  split at hitem
  next bucket objectKey hsplit =>
    simp only [ListRequest.admits, Option.all_some, Bool.and_eq_true, beq_iff_eq,
      decide_eq_true_eq] at *
    obtain ⟨hbucket, hafter, hupTo⟩ := hitem
    refine ⟨hbucket, ?_, hupTo⟩
    cases hmarker : request.after with
    | none => rfl
    | some marker =>
      rw [hmarker] at hkey
      simp only [Option.all_some, decide_eq_true_eq] at *
      exact String.lt_trans hkey.1 hafter
  next => cases hitem

/-- The last item of a page from a store is one that was asked for. -/
theorem Store.lastObjectKey?_list {store : Store} {cap : Option Nat} {request : ListRequest}
    {key : String} (h : lastObjectKey? (store.list cap request) = some key) :
    ∃ item ∈ store.items, request.covers item = true ∧ item.objectKey? = some key := by
  obtain ⟨item, hlast, hkey⟩ := Option.bind_eq_some_iff.1 h
  have hmem := List.mem_of_mem_take (List.mem_of_getLast? hlast)
  obtain ⟨hitem, hcovers⟩ := List.mem_filter.1 hmem
  exact ⟨item, hitem, hcovers, hkey⟩

/-- The object key of an item that is asked for lies between the bounds. -/
theorem ListRequest.admits_of_covers {request : ListRequest} {item : Item} {key : String}
    (hcovers : request.covers item = true) (hkey : item.objectKey? = some key) :
    request.admits key = true := by
  unfold ListRequest.covers at hcovers
  obtain ⟨⟨bucket, objectKey⟩, hsplit, rfl⟩ := Option.map_eq_some_iff.1 hkey
  rw [hsplit] at hcovers
  simp only [Bool.and_eq_true] at hcovers
  exact hcovers.2

/-- The request that follows a page asks for no more than the request before it. -/
theorem Store.length_inRange_le (store : Store) {request : ListRequest} {key : String}
    (hkey : request.admits key = true) :
    (store.inRange { request with after := some key }).length ≤
      (store.inRange request).length := by
  unfold Store.inRange
  rw [← List.countP_eq_length_filter, ← List.countP_eq_length_filter]
  exact List.countP_mono_left fun item _ h => ListRequest.covers_of_following hkey h

/-- The request that follows a page asks for less, in a store that holds the page's last item. -/
theorem Store.length_inRange_lt {store : Store} {request : ListRequest} {item : Item}
    {key : String} (hmem : item ∈ store.items) (hcovers : request.covers item = true)
    (hkey : item.objectKey? = some key) :
    (store.inRange { request with after := some key }).length <
      (store.inRange request).length := by
  have hadmits := ListRequest.admits_of_covers hcovers hkey
  have hself : ({ request with after := some key } : ListRequest).covers item = false := by
    obtain ⟨⟨bucket, objectKey⟩, hsplit, rfl⟩ := Option.map_eq_some_iff.1 hkey
    simp only [ListRequest.covers, hsplit, ListRequest.admits, Option.all_some,
      decide_eq_false (String.lt_irrefl objectKey), Bool.false_and, Bool.and_false]
  obtain ⟨before, after, hsplit⟩ := List.append_of_mem hmem
  unfold Store.inRange
  rw [← List.countP_eq_length_filter, ← List.countP_eq_length_filter, hsplit,
    List.countP_append, List.countP_append, List.countP_cons, List.countP_cons, hself, hcovers]
  have hle (list : List Item) :
      List.countP ({ request with after := some key } : ListRequest).covers list ≤
        List.countP request.covers list :=
    List.countP_mono_left fun item _ h => ListRequest.covers_of_following hadmits h
  have := hle before
  have := hle after
  simp only [Bool.false_eq_true, if_false, if_true]
  omega

/-- Each page with an end lowers the bound on the pages that are left. -/
theorem PageSource.pagesLeft_lt {cap : Option Nat} {request : ListRequest} {key : String}
    {source : PageSource} (hkey : lastObjectKey? (source.page cap request).1 = some key) :
    (source.page cap request).2.pagesLeft { request with after := some key } <
      source.pagesLeft request := by
  match source with
  | .stores now [] =>
    obtain ⟨item, hmem, hcovers, hitem⟩ := Store.lastObjectKey?_list hkey
    have := Store.length_inRange_lt hmem hcovers hitem
    simpa [page, pagesLeft] using this
  | .stores now (next :: later) =>
    obtain ⟨item, hmem, hcovers, hitem⟩ := Store.lastObjectKey?_list hkey
    have := Store.length_inRange_le (later.getLastD next)
      (ListRequest.admits_of_covers hcovers hitem)
    simp only [page, pagesLeft, List.length_cons, List.getLastD_cons] at *
    omega
  | .script [] => simp [page, lastObjectKey?] at hkey
  | .script (page :: pages) => simp [PageSource.page, pagesLeft]

namespace Serving

/-- Answers a request: records it, uses up a store or page, and fails if the request's number
says so. -/
def answer (serving : Serving) (request : ListRequest) (state : Served) :
    Except NetError (List Item) × Served :=
  let (page, source) := state.source.page serving.cap request
  let next : Served := ⟨source, state.requests.push request⟩
  match serving.fault state.requests.size with
  | some error => (.error error, next)
  | none => (.ok page, next)

/-- The leader that answers so. -/
def leader (serving : Serving) : Leader Served where
  list := serving.answer
  pagesLeft request state := state.source.pagesLeft request
  pagesLeft_lt := by
    intro request state next page key hlist hkey
    simp only [answer] at hlist
    split at hlist
    · cases hlist
    · cases hlist
      exact PageSource.pagesLeft_lt hkey

end Serving

end Reconcile

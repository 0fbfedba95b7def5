import Mathlib.Algebra.Order.Floor.Div
import Reconcile.Proofs.ChunkCount
import Reconcile.Proofs.CutScan

/-!
# Calling for pages, again and again

A listing is called for its next page, again and again, whatever the answers are: after a failure
the same call is made anew. `Listing.turns` are such calls. Of a leader that holds a store and may
fail in any pattern, `RangeListing.IsExact` says what they come to:

* the pages have the items of the range, in their order and once each;
* a call that fails changes nothing, and the next one repeats its request;
* the number of requests that succeed depends on the number of items alone, and on whether the range
  ends with one of them. After these, no call makes a request any more.

One call is `Listing.turn_request`, and `Goes` says how calls go on from the items that are left,
one call at a time (`Goes.step`). A run is split by `Goes.split` where one likes; what is said of
all calls is read off there. The main result is `RangeListing.isExact_of_ascending`.
-/

namespace Reconcile

namespace Listing

/-! ### Turns -/

/-- A call for the next page of a listing. -/
structure Turn (σ : Type) where
  /-- The listing that the call finds. -/
  listing : Listing
  /-- The state of the leader that the call finds. -/
  state : σ
  answer : Except NetError (Option (List Item))
  /-- The listing that the call leaves. -/
  following : Listing
  /-- The state of the leader that the call leaves. -/
  after : σ

namespace Turn

variable {σ : Type}

/-- The page of an answer. -/
def page? (turn : Turn σ) : Option (List Item) :=
  turn.answer.toOption.join

/-- Whether the call failed. -/
def failed (turn : Turn σ) : Bool :=
  !turn.answer.isOk

/-- The requests that the call made. -/
def made (turn : Turn Served) : List ListRequest :=
  turn.after.requests.toList.drop turn.state.requests.size

/-- Whether the call made a request, and it was answered. -/
def succeeded (turn : Turn Served) : Bool :=
  !turn.made.isEmpty && turn.answer.isOk

end Turn

section

variable {σ : Type}

/-- The next call. -/
def turn (listing : Listing) (leader : Leader σ) (state : σ) : Turn σ :=
  let (answer, following, after) := listing.next leader state
  ⟨listing, state, answer, following, after⟩

/-- Some calls, one after the other. -/
def turns (leader : Leader σ) : Nat → Listing → σ → List (Turn σ)
  | 0, _, _ => []
  | n + 1, listing, state =>
    let turn := listing.turn leader state
    turn :: turns leader n turn.following turn.after

/-- The pages that some calls gave. -/
def pagesOf (turns : List (Turn σ)) : List (List Item) :=
  turns.filterMap Turn.page?

/-- The items of a run are those of its first turn and those of the others. -/
theorem flatten_pagesOf_cons (turn : Turn σ) (turns : List (Turn σ)) :
    (pagesOf (turn :: turns)).flatten = turn.page?.getD [] ++ (pagesOf turns).flatten := by
  rw [pagesOf, List.filterMap_cons, ← pagesOf]
  cases turn.page? <;> rfl

/-- A run has as many turns as it is allowed. -/
theorem length_turns (leader : Leader σ) (n : Nat) (listing : Listing) (state : σ) :
    (turns leader n listing state).length = n := by
  induction n generalizing listing state with
  | zero => rfl
  | succ n ih => exact congrArg Nat.succ (ih _ _)

/-- **What every call preserves holds wherever calls are split**, and calls go on from there. -/
theorem exists_of_turns {leader : Leader σ} {P : List (Turn σ) → Listing → σ → Prop}
    (hstep : ∀ before listing state, P before listing state →
      P (before ++ [listing.turn leader state]) (listing.turn leader state).following
        (listing.turn leader state).after)
    {n : Nat} {listing : Listing} {state : σ} (hstart : P [] listing state)
    {before later : List (Turn σ)} (h : turns leader n listing state = before ++ later) :
    ∃ m listing' state', P before listing' state' ∧ later = turns leader m listing' state' := by
  induction before generalizing n listing state P with
  | nil => exact ⟨n, listing, state, hstart, h.symm⟩
  | cons first before ih =>
      obtain _ | n := n
      · cases h
      · obtain ⟨rfl, hrest⟩ := List.cons.inj h
        exact ih (P := fun before => P (listing.turn leader state :: before))
          (fun before => hstep (_ :: before)) (hstep [] listing state hstart) hrest

/-- Each call finds the listing as the call before has left it. -/
theorem listing_eq_following {leader : Leader σ} {n : Nat} {listing : Listing} {state : σ}
    {before later : List (Turn σ)} {turn next : Turn σ}
    (h : turns leader n listing state = before ++ turn :: next :: later) :
    next.listing = turn.following := by
  obtain ⟨m, listing', state', -, hlater⟩ :=
    exists_of_turns (P := fun _ _ _ => True) (fun _ _ _ => id) trivial h
  obtain _ | _ | m := m
  · cases hlater
  · cases hlater
  · obtain ⟨rfl, hrest⟩ := List.cons.inj hlater
    obtain ⟨rfl, -⟩ := List.cons.inj hrest
    rfl

end

/-! ### One call -/

section

variable {σ : Type} {leader : Leader σ} {request : ListRequest} {state after : σ}

/-- Whatever is answered, the request leaves the leader in the same state. -/
theorem after_turn (leader : Leader σ) (request : ListRequest) (state : σ) :
    (turn ⟨request, false⟩ leader state).after = (leader.list request state).2 := by
  rw [turn, next, if_neg Bool.false_ne_true]
  rcases leader.list request state with ⟨error | page, after⟩
  · rfl
  · dsimp only
    cases lastObjectKey? page <;> rfl

/-- A request that fails leaves the listing as it is. -/
theorem turn_of_error {error : NetError}
    (hlist : leader.list request state = (.error error, after)) :
    turn ⟨request, false⟩ leader state =
      ⟨⟨request, false⟩, state, .error error, ⟨request, false⟩, after⟩ := by
  rw [turn, next, if_neg Bool.false_ne_true, hlist]

/-- An empty page ends the listing. -/
theorem turn_of_empty {page : List Item} (hlist : leader.list request state = (.ok page, after))
    (hkey : lastObjectKey? page = none) :
    turn ⟨request, false⟩ leader state =
      ⟨⟨request, false⟩, state, .ok none, ⟨request, true⟩, after⟩ := by
  simp only [turn, next, if_neg Bool.false_ne_true, hlist, hkey]

/-- After a page the listing goes on from its last object key, unless this is the end. -/
theorem turn_of_page {page : List Item} {key : String}
    (hlist : leader.list request state = (.ok page, after))
    (hkey : lastObjectKey? page = some key) :
    turn ⟨request, false⟩ leader state =
      ⟨⟨request, false⟩, state, .ok (some page),
        ⟨{ request with after := some key }, request.upTo == some key⟩, after⟩ := by
  simp only [turn, next, if_neg Bool.false_ne_true, hlist, hkey]

end

section

variable {store : Store} {cap : Option Nat} {fault : Nat → Option NetError} {limit : Nat}

/-- Whether a call makes the request of its listing, and fails if that request does. -/
structure Turn.Asks (fault : Nat → Option NetError) (turn : Turn Served) : Prop where
  /-- It makes one request, that of its listing. -/
  made_eq : turn.made = [turn.listing.request]
  /-- It fails exactly if that request does. -/
  failed_eq : turn.failed = (fault turn.state.requests.size).isSome

/-- A turn that asks succeeds or fails. -/
theorem Turn.Asks.succeeded_eq {turn : Turn Served} (h : turn.Asks fault) :
    turn.succeeded = !turn.failed := by
  rw [Turn.succeeded, h.made_eq, Turn.failed, Bool.not_not]
  rfl

/-- A turn with a page has not failed. -/
theorem Turn.failed_of_ok {σ : Type} {turn : Turn σ} {page : Option (List Item)}
    (h : turn.answer = .ok page) : turn.failed = false := by
  rw [Turn.failed, h]
  rfl

/-- A turn with an error has failed. -/
theorem Turn.failed_of_error {σ : Type} {turn : Turn σ} {error : NetError}
    (h : turn.answer = .error error) : turn.failed = true := by
  rw [Turn.failed, h]
  rfl

/-- **One call for a page of a store.** The request may fail, and nothing has changed. Or nothing is
left, and the listing is done. Or a page comes, and what is left lies after the object key that it
ends with. -/
theorem turn_request (hstore : store.Ascending) (hlimit : 1 ≤ pageLimit cap limit) (range : Range)
    (requests : List ListRequest) {turn : Turn Served}
    (hturn : Listing.turn ⟨range.request limit, false⟩ (Serving.leader ⟨cap, fault⟩)
      (.holding store requests) = turn) :
    turn.Asks fault ∧ turn.after = .holding store (requests ++ [range.request limit]) ∧
      ((∃ error, turn.answer = .error error ∧ turn.following = ⟨range.request limit, false⟩) ∨
        (store.items.filter range.covers = [] ∧ turn.answer = .ok none ∧
          turn.following = ⟨range.request limit, true⟩) ∨
        ∃ name : ObjectName,
          lastObjectKey? ((store.items.filter range.covers).take (pageLimit cap limit)) =
            some name.key ∧
          turn.answer =
            .ok (some ((store.items.filter range.covers).take (pageLimit cap limit))) ∧
          turn.following = ⟨(range.after name.key).request limit, range.last == some name.key⟩ ∧
          store.items.filter (range.after name.key).covers =
            (store.items.filter range.covers).drop (pageLimit cap limit)) := by
  have hmade : (requests ++ [range.request limit]).toArray.toList.drop requests.toArray.size =
      [range.request limit] := by
    rw [List.size_toArray, List.drop_left]
  have hasked : (Served.holding store requests).asked cap (range.request limit) =
      .holding store (requests ++ [range.request limit]) := by
    rw [Served.asked, Served.holding, List.push_toArray]
    rfl
  cases hfault : fault (Served.holding store requests).requests.size with
  | some error =>
      have hlist : (Serving.leader ⟨cap, fault⟩).list (range.request limit)
          (.holding store requests) = (.error error, .holding store (requests ++ [_])) :=
        (Serving.list_of_fault_eq_some _ hfault).trans (congrArg (Prod.mk _) hasked)
      rw [turn_of_error hlist] at hturn
      subst hturn
      exact ⟨⟨hmade, congrArg Option.isSome hfault.symm⟩, rfl, .inl ⟨error, rfl, rfl⟩⟩
  | none =>
      have hlist : (Serving.leader ⟨cap, fault⟩).list (range.request limit)
          (.holding store requests) =
            (.ok (store.list cap (range.request limit)), .holding store (requests ++ [_])) :=
        (Serving.list_of_fault_eq_none _ hfault).trans (congrArg (Prod.mk _) hasked)
      have hfailed : false = (fault (Served.holding store requests).requests.size).isSome :=
        congrArg Option.isSome hfault.symm
      rcases Store.list_cases hstore range hlimit with
        ⟨hnone, hpage⟩ | ⟨name, hkey, hcontains, hsplit⟩
      · rw [turn_of_empty hlist (congrArg lastObjectKey? hpage)] at hturn
        subst hturn
        exact ⟨⟨hmade, hfailed⟩, rfl, .inr (.inl ⟨hnone, rfl, rfl⟩)⟩
      · rw [turn_of_page hlist hkey] at hturn
        subst hturn
        refine ⟨⟨hmade, hfailed⟩, rfl, .inr (.inr ⟨name, hkey, rfl, rfl, ?_⟩)⟩
        refine List.append_cancel_left (hsplit.symm.trans ?_)
        exact (List.take_append_drop _ _).symm

end

/-! ### How calls go on -/

/-- Whether items end with the end of a range. -/
def endsAt (items : List Item) (last : Option String) : Bool :=
  last.any fun key => lastObjectKey? items = some key

/-- The number of requests that show some items up to the end of a range, in pages of a size. Where
the last page does not reach the end of the range, only an empty one tells that nothing follows. -/
def requestsFor (items : List Item) (last : Option String) (size : Nat) : Nat :=
  items.length ⌈/⌉ size + if endsAt items last then 0 else 1

/-- The number of requests that were answered. -/
def successes (turns : List (Turn Served)) : Nat :=
  turns.countP Turn.succeeded

/-- A turn without a request has not succeeded. -/
theorem Turn.succeeded_of_made {turn : Turn Served} (h : turn.made = []) :
    turn.succeeded = false := by
  rw [Turn.succeeded, h]
  rfl

/-- The successes of a run are counted turn by turn. -/
theorem successes_cons (turn : Turn Served) (turns : List (Turn Served)) :
    successes (turn :: turns) = (if turn.succeeded = true then 1 else 0) + successes turns := by
  rw [successes, List.countP_cons, Nat.add_comm, ← successes]

/-- The number of calls that failed. -/
def failures (turns : List (Turn Served)) : Nat :=
  turns.countP Turn.failed

/-- The failures of a run are counted turn by turn. -/
theorem failures_cons (turn : Turn Served) (turns : List (Turn Served)) :
    failures (turn :: turns) = (if turn.failed = true then 1 else 0) + failures turns := by
  rw [failures, List.countP_cons, Nat.add_comm, ← failures]

/-- **How calls go on**, from the items that are left; none are left once the range is exhausted. -/
inductive Goes (fault : Nat → Option NetError) (last : Option String) (size : Nat) :
    Option (List Item) → List (Turn Served) → Prop
  | nil {left : Option (List Item)} : Goes fault last size left []
  /-- A call that fails changes nothing. -/
  | failed {items : List Item} {turn : Turn Served} {later : List (Turn Served)}
      {error : NetError} :
      turn.Asks fault → turn.answer = .error error → turn.following = turn.listing →
      Goes fault last size (some items) later → Goes fault last size (some items) (turn :: later)
  /-- An empty page exhausts the range. -/
  | empty {turn : Turn Served} {later : List (Turn Served)} :
      turn.Asks fault → turn.answer = .ok none →
      Goes fault last size none later → Goes fault last size (some []) (turn :: later)
  /-- A page that ends with the end of the range exhausts it. -/
  | page {items : List Item} {turn : Turn Served} {later : List (Turn Served)} {key : String} :
      turn.Asks fault → turn.answer = .ok (some (items.take size)) →
      lastObjectKey? (items.take size) = some key → (last = some key → items.drop size = []) →
      Goes fault last size (if last = some key then none else some (items.drop size)) later →
      Goes fault last size (some items) (turn :: later)
  /-- A range that is exhausted is not asked for any more. -/
  | done {turn : Turn Served} {later : List (Turn Served)} :
      turn.made = [] → turn.answer = .ok none →
      Goes fault last size none later → Goes fault last size none (turn :: later)

section

variable {fault : Nat → Option NetError} {last : Option String} {size : Nat}
  {left : Option (List Item)} {before later calls : List (Turn Served)} {turn : Turn Served}

/-- A listing that is done stays so. -/
theorem goes_done (cap : Option Nat) (request : ListRequest) (n : Nat) (state : Served) :
    Goes fault last size none (turns (Serving.leader ⟨cap, fault⟩) n ⟨request, true⟩ state) := by
  induction n with
  | zero => exact .nil
  | succ n ih => exact .done (List.drop_eq_nil_iff.2 (Array.length_toList).le) rfl ih

/-- **The calls for the pages of a range** go on from the items of the range. -/
theorem goes_turns {store : Store} (hstore : store.Ascending) {cap : Option Nat} {limit : Nat}
    (hlimit : 1 ≤ pageLimit cap limit) (range : Range) (requests : List ListRequest) (n : Nat) :
    Goes fault range.last (pageLimit cap limit) (some (store.items.filter range.covers))
      (turns (Serving.leader ⟨cap, fault⟩) n ⟨range.request limit, false⟩
        (.holding store requests)) := by
  induction n generalizing range requests with
  | zero => exact .nil
  | succ n ih =>
      rw [turns]
      generalize hturn : Listing.turn ⟨range.request limit, false⟩ (Serving.leader ⟨cap, fault⟩)
        (.holding store requests) = turn
      obtain ⟨hasks, hafter, ⟨error, hanswer, hfollowing⟩ | ⟨hnone, hanswer, hfollowing⟩ |
        ⟨name, hkey, hanswer, hfollowing, hrest⟩⟩ := turn_request hstore hlimit range requests hturn
      · have hlisting : turn.following = turn.listing := by
          rw [hfollowing, ← hturn]
          rfl
        rw [hfollowing, hafter]
        exact .failed hasks hanswer hlisting (ih range _)
      · rw [hfollowing, hnone]
        exact .empty hasks hanswer (goes_done cap _ n _)
      · refine .page hasks hanswer hkey (fun hlast => ?_) ?_
        · rw [← hrest, filter_covers_after_last hlast]
        · rw [hfollowing, hafter]
          -- the last key of the range ends the listing without one more request
          by_cases hlast : range.last = some name.key
          · rw [if_pos hlast, hlast, beq_self_eq_true]
            exact goes_done cap _ n _
          · rw [if_neg hlast, beq_eq_false_iff_ne.2 hlast, ← hrest]
            exact ih (range.after name.key) _

/-- The items that are left. -/
def itemsLeft (left : Option (List Item)) : List Item :=
  left.getD []

/-- The number of requests that are left to succeed. -/
def requestsLeft (last : Option String) (size : Nat) (left : Option (List Item)) : Nat :=
  left.elim 0 fun items => requestsFor items last size

/-- A listing that is done needs no request. -/
theorem requestsLeft_none (last : Option String) (size : Nat) :
    requestsLeft last size none = 0 :=
  rfl

/-- A listing that is not done needs a request for each page of what is left. -/
theorem requestsLeft_some (last : Option String) (size : Nat) (items : List Item) :
    requestsLeft last size (some items) = requestsFor items last size :=
  rfl

/-- Nothing left still takes a request, which finds out. -/
theorem requestsFor_nil (last : Option String) (size : Nat) : requestsFor [] last size = 1 := by
  have hends : endsAt [] last = false := by cases last <;> rfl
  rw [requestsFor, hends, if_neg Bool.false_ne_true, List.length_nil, zero_ceilDiv]

/-- As long as a range is not exhausted, a request is left. -/
theorem requestsFor_pos (hsize : 1 ≤ size) (items : List Item) :
    1 ≤ requestsFor items last size := by
  cases items with
  | nil => exact (requestsFor_nil last size).ge
  | cons item items =>
      refine Nat.le_add_right_of_le ?_
      rw [Nat.ceilDiv_eq_add_pred_div, List.length_cons]
      exact Nat.div_pos (by omega) hsize

/-- Only a listing that is done needs no request. -/
theorem requestsLeft_eq_zero_iff (hsize : 1 ≤ size) :
    requestsLeft last size left = 0 ↔ left = none := by
  cases left with
  | none => exact ⟨fun _ => rfl, fun _ => rfl⟩
  | some items =>
      have hpos : 1 ≤ requestsFor items last size := requestsFor_pos hsize items
      rw [requestsLeft_some]
      exact ⟨fun hzero => by omega, nofun⟩

/-- A page is one of the requests, and those for what follows are the others. -/
theorem requestsFor_page (hsize : 1 ≤ size) {items : List Item} {key : String}
    (hkey : lastObjectKey? (items.take size) = some key)
    (hlast : last = some key → items.drop size = []) :
    requestsFor items last size =
      1 + requestsLeft last size (if last = some key then none else some (items.drop size)) := by
  have hpage : items ≠ [] := by
    rintro rfl
    rw [List.take_nil] at hkey
    cases hkey
  cases hdrop : items.drop size with
  | nil =>
      -- this is the last page, and it depends on its end whether an empty one follows
      have hle : items.length ≤ size := List.drop_eq_nil_iff.1 hdrop
      rw [List.take_of_length_le hle] at hkey
      have hone : items.length ⌈/⌉ size = 1 :=
        ceilDiv_eq_one (List.length_pos_iff.2 hpage) hle
      rw [requestsFor, hone]
      by_cases hends : last = some key
      · have hends' : endsAt items last = true := by
          rw [hends, endsAt, Option.any_some, hkey, decide_eq_true rfl]
        rw [hends', if_pos rfl, if_pos hends]
        rfl
      · have hends' : endsAt items last = false := by
          rw [endsAt, Option.any_eq_false]
          rintro other rfl
          rw [hkey]
          exact decide_eq_false fun heq => hends heq.symm
        rw [hends', if_neg Bool.false_ne_true, if_neg hends]
        exact congrArg (1 + ·) (requestsFor_nil last size).symm
  | cons item rest =>
      have hlast' : last ≠ some key := fun heq => nomatch hdrop.symm.trans (hlast heq)
      have hlength : items.length = size + (items.drop size).length := by
        have hcut := congrArg List.length (List.take_append_drop size items)
        have hpos : 0 < (items.drop size).length := by
          rw [hdrop]
          exact Nat.succ_pos _
        rw [List.length_drop] at hpos ⊢
        omega
      have hsame : lastObjectKey? items = lastObjectKey? (items.drop size) := by
        rw [lastObjectKey?, lastObjectKey?, List.getLast?_drop, if_neg]
        rw [hdrop, List.length_cons] at hlength
        omega
      rw [if_neg hlast', ← hdrop, requestsFor, endsAt, hsame, hlength, add_ceilDiv hsize,
        Nat.add_assoc]
      rfl

/-- A page and what follows it are what was left. -/
theorem take_append_itemsLeft {items : List Item} {key : String}
    (hlast : last = some key → items.drop size = []) :
    items.take size ++ itemsLeft (if last = some key then none else some (items.drop size)) =
      items := by
  by_cases hends : last = some key
  · rw [if_pos hends]
    exact (congrArg (items.take size ++ ·) (hlast hends)).symm.trans (List.take_append_drop _ _)
  · rw [if_neg hends]
    exact List.take_append_drop _ _

namespace Goes

/-- **One call of those that go on**: what it shows comes first of what was left, and if it succeeds
it is one of the requests that were left. -/
theorem step (hsize : 1 ≤ size) (h : Goes fault last size left (turn :: later)) :
    ∃ rest, Goes fault last size rest later ∧
      requestsLeft last size left =
        (if turn.succeeded = true then 1 else 0) + requestsLeft last size rest ∧
      itemsLeft left = turn.page?.getD [] ++ itemsLeft rest := by
  cases h with
  | failed hasks hanswer _ hlater =>
      refine ⟨_, hlater, ?_, ?_⟩
      · rw [hasks.succeeded_eq, Turn.failed_of_error hanswer]
        exact (Nat.zero_add _).symm
      · rw [Turn.page?, hanswer]
        rfl
  | empty hasks hanswer hlater =>
      refine ⟨_, hlater, ?_, ?_⟩
      · rw [hasks.succeeded_eq, Turn.failed_of_ok hanswer]
        exact requestsFor_nil last size
      · rw [Turn.page?, hanswer]
        rfl
  | page hasks hanswer hkey hlast hlater =>
      refine ⟨_, hlater, ?_, ?_⟩
      · rw [hasks.succeeded_eq, Turn.failed_of_ok hanswer]
        exact requestsFor_page hsize hkey hlast
      · rw [Turn.page?, hanswer]
        exact (take_append_itemsLeft hlast).symm
  | done hmade hanswer hlater =>
      refine ⟨_, hlater, ?_, ?_⟩
      · rw [Turn.succeeded_of_made hmade]
        rfl
      · rw [Turn.page?, hanswer]
        rfl

/-- **Calls may be split anywhere.** What the first of them have shown is the beginning of what was
left, and each of them that succeeded was one of the requests that were left. -/
theorem split (hsize : 1 ≤ size) (h : Goes fault last size left (before ++ later)) :
    ∃ rest, Goes fault last size rest later ∧
      requestsLeft last size left = successes before + requestsLeft last size rest ∧
      itemsLeft left = (pagesOf before).flatten ++ itemsLeft rest := by
  induction before generalizing left with
  | nil => exact ⟨left, h, (Nat.zero_add _).symm, rfl⟩
  | cons turn before ih =>
      obtain ⟨next, hnext, hone, hshown⟩ := h.step hsize
      obtain ⟨rest, hrest, hrequests, hitems⟩ := ih hnext
      refine ⟨rest, hrest, ?_, ?_⟩
      · rw [successes_cons, hone, hrequests, Nat.add_assoc]
      · rw [flatten_pagesOf_cons, hshown, hitems, List.append_assoc]

/-- As long as something may be left, a call makes the request of its listing. -/
theorem asks {items : List Item} (h : Goes fault last size (some items) (turn :: later)) :
    turn.Asks fault := by
  cases h with
  | failed hasks => exact hasks
  | empty hasks => exact hasks
  | page hasks => exact hasks

/-- Once the range is exhausted, a call makes no request and gives no page. -/
theorem stops (h : Goes fault last size none (turn :: later)) :
    turn.answer = .ok none ∧ turn.made = [] := by
  cases h with
  | done hmade hanswer => exact ⟨hanswer, hmade⟩

/-- **How many requests succeed**: each call that does not fail makes one, until none is left. -/
theorem successes_eq (hsize : 1 ≤ size) (h : Goes fault last size left calls) :
    successes calls = min (requestsLeft last size left) (calls.length - failures calls) := by
  induction calls generalizing left with
  | nil => exact (Nat.min_zero _).symm
  | cons turn calls ih =>
      obtain ⟨rest, hrest, hone, -⟩ := h.step hsize
      have hle : failures calls ≤ calls.length := List.countP_le_length
      rw [successes_cons, failures_cons, ih hrest, List.length_cons]
      cases left with
      | none =>
          rw [Turn.succeeded_of_made h.stops.2, if_neg Bool.false_ne_true] at hone ⊢
          rw [requestsLeft_none] at hone ⊢
          omega
      | some items =>
          rw [hone, h.asks.succeeded_eq]
          cases turn.failed with
          | true =>
              rw [if_neg (by decide), if_pos rfl]
              omega
          | false =>
              rw [if_pos Bool.not_false, if_neg Bool.false_ne_true]
              omega

/-- Each page has an item, and no more than a page may have. -/
theorem page_of_mem (h : Goes fault last size left calls) {page : List Item}
    (hpage : page ∈ pagesOf calls) : page ≠ [] ∧ page.length ≤ size := by
  induction h with
  | nil => cases hpage
  | failed _ hanswer _ _ ih =>
      rw [pagesOf, List.filterMap_cons, Turn.page?, hanswer] at hpage
      exact ih hpage
  | empty _ hanswer _ ih =>
      rw [pagesOf, List.filterMap_cons, Turn.page?, hanswer] at hpage
      exact ih hpage
  | @page items turn later key hasks hanswer hkey hlast _ ih =>
      rw [pagesOf, List.filterMap_cons, Turn.page?, hanswer] at hpage
      rcases List.mem_cons.1 hpage with rfl | hpage
      · refine ⟨fun hnil => ?_, List.length_take_le _ _⟩
        rw [hnil] at hkey
        cases hkey
      · exact ih hpage
  | done _ hanswer _ ih =>
      rw [pagesOf, List.filterMap_cons, Turn.page?, hanswer] at hpage
      exact ih hpage

/-- There is no page only if no item is left. -/
theorem itemsLeft_eq_nil (h : Goes fault last size left (turn :: later))
    (hnone : turn.answer = .ok none) : itemsLeft left = [] := by
  cases h with
  | failed _ hanswer => exact nomatch hnone.symm.trans hanswer
  | empty => rfl
  | page _ hanswer => exact nomatch hnone.symm.trans hanswer
  | done => rfl

/-- After a call that failed, what is left is the same. -/
theorem retries {error : NetError} (h : Goes fault last size left (turn :: later))
    (herror : turn.answer = .error error) :
    ∃ items, left = some items ∧ turn.following = turn.listing ∧
      Goes fault last size (some items) later := by
  cases h with
  | failed _ _ hfollowing hlater => exact ⟨_, rfl, hfollowing, hlater⟩
  | empty _ hanswer => exact nomatch herror.symm.trans hanswer
  | page _ hanswer => exact nomatch herror.symm.trans hanswer
  | done _ hanswer => exact nomatch herror.symm.trans hanswer

end Goes

end

end Listing

/-! ### A range that is listed -/

/-- A cap makes no page longer. -/
theorem pageLimit_le (cap : Option Nat) (limit : Nat) : pageLimit cap limit ≤ limit := by
  cases cap with
  | none => exact le_rfl
  | some n => exact min_le_left _ _

/-- A range of a leader that is listed, where requests may fail. -/
structure RangeListing where
  /-- What the leader holds. -/
  store : Store
  range : Range
  /-- The greatest number of items of a page that is asked for; 0 counts as 1. -/
  pageSize : Nat
  /-- The greatest number of items of a page that the leader gives, if there is one. -/
  cap : Option Nat
  /-- How the request of a number fails, counted from 0. -/
  fault : Nat → Option NetError

namespace RangeListing

open Listing

/-- Some calls for the next page, one after the other. -/
def turns (listing : RangeListing) (n : Nat) : List (Turn Served) :=
  Listing.turns (Serving.leader ⟨listing.cap, listing.fault⟩) n
    (.start listing.range listing.pageSize) (.holding listing.store [])

/-- The leader's items of the range. -/
def items (listing : RangeListing) : List Item :=
  listing.store.items.filter listing.range.covers

/-- The number of items of a page, but for the last. -/
def size (listing : RangeListing) : Nat :=
  pageLimit listing.cap (max listing.pageSize 1)

/-- The number of requests that show the range. -/
def requestsNeeded (listing : RangeListing) : Nat :=
  requestsFor listing.items listing.range.last listing.size

/-- **Wherever the calls are split, they go on** from the items that have not been shown. Nothing
goes on exactly if as many requests as needed were answered. -/
theorem exists_goes {listing : RangeListing} (hstore : listing.store.Ascending)
    (hsize : 1 ≤ listing.size) {n : Nat} {before later : List (Turn Served)}
    (h : listing.turns n = before ++ later) :
    ∃ rest, Goes listing.fault listing.range.last listing.size rest later ∧
      (successes before = listing.requestsNeeded ↔ rest = none) ∧
      listing.items = (pagesOf before).flatten ++ itemsLeft rest := by
  have hgoes : Goes listing.fault listing.range.last listing.size (some listing.items)
      (before ++ later) := h ▸ goes_turns hstore hsize listing.range [] n
  obtain ⟨rest, hrest, hrequests, hitems⟩ := hgoes.split hsize
  refine ⟨rest, hrest, ?_, hitems⟩
  change listing.requestsNeeded = _ at hrequests
  rw [← requestsLeft_eq_zero_iff hsize, hrequests, left_eq_add]

/-- **A range is listed exactly**, by any number of calls. -/
structure IsExact (listing : RangeListing) : Prop where
  /-- Pages are not empty, and no larger than they are asked for. -/
  page_of_mem : ∀ n, ∀ page ∈ pagesOf (listing.turns n),
    page ≠ [] ∧ page.length ≤ max listing.pageSize 1
  /-- The pages show the items in their order and once each. -/
  isPrefix : ∀ n, (pagesOf (listing.turns n)).flatten <+: listing.items
  /-- There is no page only when all items have been shown. -/
  shown : ∀ n before turn later, listing.turns n = before ++ turn :: later →
    turn.answer = .ok none → (pagesOf before).flatten = listing.items
  /-- When as many requests as needed were answered, all items have been shown. -/
  complete : ∀ n, successes (listing.turns n) = listing.requestsNeeded →
    (pagesOf (listing.turns n)).flatten = listing.items
  /-- Until then each call makes one request, and fails exactly if that fails. -/
  asks : ∀ n before turn later, listing.turns n = before ++ turn :: later →
    successes before < listing.requestsNeeded → turn.Asks listing.fault
  /-- From then on no call makes a request or gives a page. -/
  stops : ∀ n before turn later, listing.turns n = before ++ turn :: later →
    successes before = listing.requestsNeeded → turn.answer = .ok none ∧ turn.made = []
  /-- A call that fails changes nothing, and the next one repeats its request. -/
  retries : ∀ n before turn next later error,
    listing.turns n = before ++ turn :: next :: later → turn.answer = .error error →
      next.listing = turn.listing ∧ next.made = turn.made
  /-- Of the calls that do not fail, as many make a request as are needed. -/
  successes_eq : ∀ n, successes (listing.turns n) =
    min listing.requestsNeeded (n - failures (listing.turns n))

/-- **Listing a range is exact**, whichever requests fail.

`Goes` follows the turns by the items that are left: a failure leaves them, a page takes its own
off, and the last request finds none. -/
theorem isExact_of_ascending {listing : RangeListing} (hstore : listing.store.Ascending)
    (hcap : ∀ n, listing.cap = some n → 1 ≤ n) : listing.IsExact := by
  have hsize : 1 ≤ listing.size := one_le_pageLimit hcap (le_max_right _ _)
  -- Each turn finds the listing as `Goes` says, whichever of those before it have failed.
  have hgoes : ∀ n, Goes listing.fault listing.range.last listing.size (some listing.items)
      (listing.turns n) := fun n => goes_turns hstore hsize listing.range [] n
  exact
    { page_of_mem := by
        intro n page hpage
        obtain ⟨hne, hle⟩ := (hgoes n).page_of_mem hpage
        exact ⟨hne, hle.trans (pageLimit_le _ _)⟩
      isPrefix := by
        intro n
        obtain ⟨rest, -, -, hitems⟩ := exists_goes hstore hsize (List.append_nil _).symm
        exact ⟨itemsLeft rest, hitems.symm⟩
      shown := by
        intro n before turn later hturns hnone
        obtain ⟨rest, hrest, -, hitems⟩ := exists_goes hstore hsize hturns
        rw [hitems, hrest.itemsLeft_eq_nil hnone, List.append_nil]
      complete := by
        intro n hsuccesses
        obtain ⟨rest, -, hnone, hitems⟩ := exists_goes hstore hsize (List.append_nil _).symm
        rw [hitems, hnone.1 hsuccesses]
        exact (List.append_nil _).symm
      asks := by
        intro n before turn later hturns hlt
        obtain ⟨rest, hrest, hnone, -⟩ := exists_goes hstore hsize hturns
        obtain ⟨items, rfl⟩ := Option.ne_none_iff_exists'.1 fun h => hlt.ne (hnone.2 h)
        exact hrest.asks
      stops := by
        intro n before turn later hturns hsuccesses
        obtain ⟨rest, hrest, hnone, -⟩ := exists_goes hstore hsize hturns
        exact (hnone.1 hsuccesses ▸ hrest).stops
      retries := by
        intro n before turn next later error hturns herror
        obtain ⟨rest, hrest, -, -⟩ := exists_goes hstore hsize hturns
        obtain ⟨items, rfl, hfollowing, hlater⟩ := hrest.retries herror
        have hlisting : next.listing = turn.listing :=
          (listing_eq_following hturns).trans hfollowing
        refine ⟨hlisting, ?_⟩
        rw [hlater.asks.made_eq, hrest.asks.made_eq, hlisting]
      successes_eq := by
        intro n
        have hcount := (hgoes n).successes_eq hsize
        rw [turns, length_turns] at hcount
        exact hcount }

/-- Three items in the range and one after it. The server gives pages of two items, and the second
request fails. -/
def failing : RangeListing where
  store := ⟨[⟨"a/1", "x"⟩, ⟨"a/2", "x"⟩, ⟨"a/3", "x"⟩, ⟨"a/4", "x"⟩]⟩
  range := ⟨"a", none, some "3"⟩
  pageSize := 100
  cap := some 2
  fault n := if n = 1 then some (.transport .bodyCut) else none

/-- The statement holds of a listing whose second request fails. -/
theorem isExact_of_ascending_failing :
    failing.store.Ascending ∧ (∀ n, failing.cap = some n → 1 ≤ n) ∧ failing.IsExact :=
  have hstore : AscendingByKey Item.key failing.store.items := by decide
  have hcap : ∀ n, failing.cap = some n → 1 ≤ n := fun n hn => by
    obtain rfl := Option.some.inj hn
    decide
  ⟨hstore, hcap, isExact_of_ascending hstore hcap⟩

/-- The page that failed comes with the next call, and two requests had to be answered. -/
example :
    failing.requestsNeeded = 2 ∧ pagesOf (failing.turns 5) =
      [[⟨"a/1", "x"⟩, ⟨"a/2", "x"⟩], [⟨"a/3", "x"⟩]] := by
  cbv

end RangeListing

end Reconcile

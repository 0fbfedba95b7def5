import Mathlib
import Reconcile.Proofs.Scan

/-!
# A scan that is cut short

A scan may end early: a request of it fails, nobody receives its differences any more, the follower
cannot be read to its end, or a key of the follower has no bucket. Up to that point it does what the
scan does that nothing cuts short. So what it delivers is the beginning of what that scan delivers,
and its requests are the first ones of that scan.

The proof runs both scans side by side. `Output.limited` is an output as the scan finds it that will
receive only so many differences, `Clear` says that nothing has cut it short so far, and `Follows`
says how the two compare after a piece of their work: either they are still side by side, or the one
is cut short (`CutShort`), whatever the other goes on to do (`CutShort.mono`).

## Main results

* `Scan.scanFrom_follows`: a scan whose requests may fail, or whose output may close, follows the
  one that nothing cuts short;
* `Scan.endsEarly_scanFrom`: a scan whose source goes wrong does the beginning of that one;
* `Scan.cutsCleanly`: what becomes of a scan that any of these cuts short.
-/

namespace Reconcile

/-! ### Records that go on -/

section

variable {α : Type} {xs ys : Array α} (h : xs.toList <+: ys.toList)

include h

/-- A record that goes on is no shorter. -/
theorem size_le_of_isPrefix : xs.size ≤ ys.size := by
  have hlength := h.length_le
  rwa [Array.length_toList, Array.length_toList] at hlength

/-- A record that goes on has the same beginning. -/
theorem take_toList_of_isPrefix {n : Nat} (hn : n ≤ xs.size) :
    ys.toList.take n = xs.toList.take n := by
  obtain ⟨more, hmore⟩ := h
  rw [← hmore, List.take_append_of_le_length]
  rw [Array.length_toList]
  exact hn

end

/-! ### An output with limited room -/

namespace Output

/-- An output that will receive no more than so many differences in all. -/
def limited (limit : Option Nat) (output : Output) : Output :=
  { output with room := limit.map (· - output.delivered.size) }

/-- Whether an output has received no more than it will. -/
def Fits (limit : Option Nat) (output : Output) : Prop :=
  ∀ n, limit = some n → output.delivered.size ≤ n

/-- An output that has closed, beside one that has gone on. -/
def Closed (limit : Option Nat) (whole cut : Output) : Prop :=
  ∃ n, limit = some n ∧ n < whole.delivered.size ∧
    cut.delivered.toList = whole.delivered.toList.take n

variable {limit : Option Nat} {output whole cut after : Output}

/-- An open output without a limit is the output itself. -/
theorem limited_none (hopen : output.room = none) : output.limited none = output := by
  rw [limited, Option.map_none, ← hopen]

/-- What room a limited output has left: the limit less what it has received. -/
theorem room_limited (n : Nat) (output : Output) :
    (output.limited (some n)).room = some (n - output.delivered.size) :=
  rfl

/-- Counting scanned entries does not touch the limit. -/
theorem countScanned_limited (limit : Option Nat) (output : Output) :
    (output.limited limit).countScanned = output.countScanned.limited limit :=
  rfl

/-- Counting skipped entries does not touch the limit. -/
theorem countSkipped_limited (limit : Option Nat) (output : Output) (n : Nat) :
    (output.limited limit).countSkipped n = (output.countSkipped n).limited limit :=
  rfl

/-- A closed output stays the beginning of one that goes on. -/
theorem Closed.mono (h : Closed limit whole cut)
    (hafter : whole.delivered.toList <+: after.delivered.toList) : Closed limit after cut := by
  obtain ⟨n, hlimit, hlt, htake⟩ := h
  refine ⟨n, hlimit, hlt.trans_le (size_le_of_isPrefix hafter), ?_⟩
  rw [htake, take_toList_of_isPrefix hafter hlt.le]

/-- An output that receives differences keeps those it has. -/
theorem Received.isPrefix {found : List Difference} (h : output.Received found after) :
    output.delivered.toList <+: after.delivered.toList :=
  ⟨found, h.delivered_eq.symm⟩

/-- A difference that an open output receives is received by a limited one as well, or the limit is
reached. -/
theorem emit_limited (hopen : output.room = none) (hfits : output.Fits limit)
    (difference : Difference) (hemit : output.emit difference = (.ok (), after)) :
    ((output.limited limit).emit difference = (.ok (), after.limited limit) ∧ after.Fits limit) ∨
      ∃ cut, (output.limited limit).emit difference = (.error .sinkClosed, cut) ∧
        Closed limit after cut := by
  rw [emit_of_open hopen] at hemit
  obtain rfl := (Prod.mk.inj hemit).2
  cases limit with
  | none => exact .inl ⟨rfl, nofun⟩
  | some n =>
      -- The uncut output holds no more than the limit, so it is the limited one until it holds as
      -- much.
      have hle := hfits n rfl
      by_cases hlt : output.delivered.size < n
      · have hroom : (output.limited (some n)).room =
            some (n - (output.delivered.size + 1) + 1) := by
          rw [room_limited, Nat.sub_add_eq, Nat.sub_add_cancel (by omega)]
        refine .inl ⟨?_, fun m hm => ?_⟩
        · rw [emit, hroom]
          simp only [limited, Array.size_push, Option.map_some]
        · obtain rfl := Option.some.inj hm
          rw [Array.size_push]
          exact hlt
      · have hroom : (output.limited (some n)).room = some 0 := by
          rw [room_limited, Nat.sub_eq_zero_of_le (not_lt.1 hlt)]
        refine .inr ⟨⟨output.progress.record difference.kind, output.delivered, some 0⟩, ?_, n, rfl,
          ?_, ?_⟩
        · rw [emit, hroom]
          rfl
        · rw [Array.size_push]
          omega
        · have hsize : n = output.delivered.toList.length := by
            rw [Array.length_toList]
            omega
          rw [hsize, Array.toList_push, List.take_left]

/-- What an open output receives is received by a limited one as well, or the limit is reached. -/
theorem emitAll_limited (hopen : output.room = none) (hfits : output.Fits limit)
    {found : List Difference} (hemit : output.emitAll found = (.ok (), after)) :
    ((output.limited limit).emitAll found = (.ok (), after.limited limit) ∧ after.Fits limit) ∨
      ∃ cut, (output.limited limit).emitAll found = (.error .sinkClosed, cut) ∧
        Closed limit after cut := by
  induction found generalizing output with
  | nil =>
      obtain rfl := (Prod.mk.inj hemit).2
      exact .inl ⟨rfl, hfits⟩
  | cons difference found ih =>
      have hfirst := emit_of_open hopen difference
      rw [emitAll, hfirst] at hemit
      rcases emit_limited hopen hfits difference hfirst with ⟨hcut, hfits'⟩ | ⟨cut, hcut, hclosed⟩
      · rw [emitAll, hcut]
        exact ih hopen hfits' hemit
      · obtain ⟨after', hrest, hreceived⟩ := @exists_received_emitAll { output with
          progress := output.progress.record difference.kind
          delivered := output.delivered.push difference } hopen found
        obtain rfl := (Prod.mk.inj (hemit.symm.trans hrest)).2
        refine .inr ⟨cut, ?_, hclosed.mono hreceived.isPrefix⟩
        rw [emitAll, hcut]

end Output

namespace Comparison

/-- A page that is compared with an open output is compared in the same way with a limited one, or
the limit is reached. -/
theorem takePage_limited {limit : Option Nat} {output after : Output}
    (hopen : output.room = none) (hfits : output.Fits limit) {comparison following : Comparison}
    {page : List Item} (hpage : comparison.takePage output page = (.ok following, after)) :
    (comparison.takePage (output.limited limit) page = (.ok following, after.limited limit) ∧
      after.Fits limit) ∨
      ∃ cut, comparison.takePage (output.limited limit) page = (.error .sinkClosed, cut) ∧
        Output.Closed limit after cut := by
  induction page generalizing comparison output with
  | nil =>
      obtain ⟨hsame, rfl⟩ := Prod.mk.inj hpage
      obtain rfl := Except.ok.inj hsame
      exact .inl ⟨rfl, hfits⟩
  | cons item page ih =>
      obtain ⟨next, hnext, hreceived⟩ :=
        Output.exists_received_emitAll hopen (comparison.push item).1
      rw [takePage] at hpage
      dsimp only at hpage
      rw [hnext] at hpage
      rw [takePage]
      dsimp only
      rcases Output.emitAll_limited hopen hfits hnext with ⟨hcut, hfits'⟩ | ⟨cut, hcut, hclosed⟩
      · rw [hcut]
        exact ih hreceived.room_eq hfits' hpage
      · rw [hcut]
        -- the limited output closes here, and the open one only goes on
        obtain ⟨_, _, after', hrest, hmore, -⟩ :=
          exists_received_takePage hreceived.room_eq (comparison.push item).2 page []
        obtain rfl := (Prod.mk.inj (hpage.symm.trans hrest)).2
        exact .inr ⟨cut, rfl, hclosed.mono hmore.isPrefix⟩

end Comparison

/-! ### A leader that may fail -/

section

variable {cap : Option Nat} {fault : Nat → Option NetError} {listing following : Listing}
  {state next after : Served} {page : Option (List Item)}

/-- What a leader is left in by a request. -/
def Served.asked (cap : Option Nat) (request : ListRequest) (state : Served) : Served :=
  ⟨(state.source.page cap request).2, state.requests.push request⟩

/-- A steady leader answers each request with the page that its store has. -/
theorem Serving.list_steady (cap : Option Nat) (request : ListRequest) (state : Served) :
    (Serving.steady cap).leader.list request state =
      (.ok (state.source.page cap request).1, state.asked cap request) :=
  rfl

/-- Where no fault is due, a faulty leader answers like a steady one. -/
theorem Serving.list_of_fault_eq_none (request : ListRequest)
    (h : fault state.requests.size = none) :
    (Serving.leader ⟨cap, fault⟩).list request state =
      (Serving.steady cap).leader.list request state := by
  change Serving.answer ⟨cap, fault⟩ request state = _
  rw [Serving.answer]
  dsimp only
  rw [h]
  rfl

/-- Where a fault is due, the request fails, and counts as asked. -/
theorem Serving.list_of_fault_eq_some (request : ListRequest) {error : NetError}
    (h : fault state.requests.size = some error) :
    (Serving.leader ⟨cap, fault⟩).list request state = (.error error, state.asked cap request) := by
  change Serving.answer ⟨cap, fault⟩ request state = _
  rw [Serving.answer]
  dsimp only
  rw [h]
  rfl

/-- A steady leader answers a listing that is not done, and has its request on record. -/
theorem Listing.next_steady (hdone : listing.done = false) (state : Served) :
    ∃ page following, listing.next (Serving.steady cap).leader state =
      (.ok page, following, state.asked cap listing.request) := by
  rw [Listing.next, if_neg (by simp [hdone]), Serving.list_steady]
  dsimp only
  split
  · exact ⟨_, _, rfl⟩
  · exact ⟨_, _, rfl⟩

/-- The requests of a steady leader that would not fail with some faults either. -/
def Served.Unfailing (fault : Nat → Option NetError) (state : Served) : Prop :=
  ∀ n < state.requests.size, fault n = none

/-- One more request that no fault is due for leaves the record unfailing. -/
theorem Served.Unfailing.asked (h : state.Unfailing fault)
    (hfault : fault state.requests.size = none) (request : ListRequest) :
    (state.asked cap request).Unfailing fault := by
  intro n hn
  rw [Served.asked, Array.size_push] at hn
  rcases Nat.lt_succ_iff_lt_or_eq.1 hn with hlt | rfl
  · exact h n hlt
  · exact hfault

/-- **The next page** comes from a leader that may fail as it comes from a steady one, or the
request for it fails. The request is on record either way. -/
theorem Listing.next_fault (hstate : state.Unfailing fault)
    (hnext : listing.next (Serving.steady cap).leader state = (.ok page, following, next)) :
    (listing.next (Serving.leader ⟨cap, fault⟩) state = (.ok page, following, next) ∧
        next.Unfailing fault) ∨
      ∃ error, fault state.requests.size = some error ∧
        listing.next (Serving.leader ⟨cap, fault⟩) state = (.error error, listing, next) ∧
        next.requests = state.requests.push listing.request := by
  cases hdone : listing.done with
  | true =>
      rw [Listing.next, if_pos hdone] at hnext
      rw [Listing.next, if_pos hdone]
      obtain rfl := (Prod.mk.inj (Prod.mk.inj hnext).2).2
      exact .inl ⟨hnext, hstate⟩
  | false =>
      obtain ⟨_, _, hsteady⟩ := @Listing.next_steady cap listing hdone state
      obtain rfl := (Prod.mk.inj (Prod.mk.inj (hnext.symm.trans hsteady)).2).2
      have hopen : ¬listing.done = true := by simp [hdone]
      cases hfault : fault state.requests.size with
      | none =>
          refine .inl ⟨?_, hstate.asked hfault _⟩
          rw [Listing.next, if_neg hopen, Serving.list_of_fault_eq_none _ hfault]
          rw [Listing.next, if_neg hopen] at hnext
          exact hnext
      | some error =>
          refine .inr ⟨error, rfl, ?_, rfl⟩
          rw [Listing.next, if_neg hopen, Serving.list_of_fault_eq_some _ hfault]

/-- A steady leader keeps its requests on record. -/
theorem Listing.requests_isPrefix_next
    (hnext : listing.next (Serving.steady cap).leader state = (.ok page, following, next)) :
    state.requests.toList <+: next.requests.toList := by
  cases hdone : listing.done with
  | true =>
      rw [Listing.next, if_pos hdone] at hnext
      obtain rfl := (Prod.mk.inj (Prod.mk.inj hnext).2).2
      exact List.prefix_rfl
  | false =>
      obtain ⟨_, _, hsteady⟩ := @Listing.next_steady cap listing hdone state
      obtain rfl := (Prod.mk.inj (Prod.mk.inj (hnext.symm.trans hsteady)).2).2
      exact ⟨[listing.request], Array.toList_push.symm⟩

/-- A listing that yields items asks further requests and forgets none. -/
theorem Listing.Yields.requests_isPrefix {items : List Item}
    (h : listing.Yields (Serving.steady cap).leader state items after) :
    state.requests.toList <+: after.requests.toList := by
  induction h with
  | done hnext => exact Listing.requests_isPrefix_next hnext
  | page hnext _ ih => exact (Listing.requests_isPrefix_next hnext).trans ih

/-- A steady leader comes to the end of every listing. -/
theorem Listing.exists_yields (cap : Option Nat) (listing : Listing) (state : Served) :
    ∃ items after, listing.Yields (Serving.steady cap).leader state items after := by
  induction listing, state using Listing.induction_next (Serving.steady cap).leader with
  | step listing state ih =>
      have hanswer : ∃ page following next,
          listing.next (Serving.steady cap).leader state = (.ok page, following, next) := by
        cases hdone : listing.done with
        | true =>
            rw [Listing.next, if_pos hdone]
            exact ⟨_, _, _, rfl⟩
        | false =>
            obtain ⟨page, following, hnext⟩ := @Listing.next_steady cap listing hdone state
            exact ⟨page, following, _, hnext⟩
      obtain ⟨page, following, next, hnext⟩ := hanswer
      cases page with
      | none => exact ⟨[], next, .done hnext⟩
      | some page =>
          obtain ⟨items, after, hyields⟩ := ih page following next hnext
          exact ⟨page ++ items, after, .page hnext hyields⟩

end

/-! ### Two scans side by side -/

/-- How far a scan has come: the leader's state and the output. -/
abbrev ScanState := Served × Output

namespace ScanState

/-- One state of a scan after another: no request and no difference is lost. -/
structure Grows (before after : ScanState) : Prop where
  /-- The requests go on. -/
  requests : before.1.requests.toList <+: after.1.requests.toList
  /-- The differences go on. -/
  delivered : before.2.delivered.toList <+: after.2.delivered.toList
  /-- The output receives as many as before. -/
  room_eq : after.2.room = before.2.room

/-- A state that nothing happens to grows. -/
theorem Grows.refl (state : ScanState) : state.Grows state :=
  ⟨List.prefix_rfl, List.prefix_rfl, rfl⟩

/-- Two stretches of a scan in turn are one. -/
theorem Grows.trans {before next after : ScanState} (h : before.Grows next)
    (h' : next.Grows after) : before.Grows after :=
  ⟨h.requests.trans h'.requests, h.delivered.trans h'.delivered, h'.room_eq.trans h.room_eq⟩

/-- An open output that has received more, at a leader that has been asked for more. -/
theorem grows_of_received {state after : Served} {output output' : Output}
    {found : List Difference} (hrequests : state.requests.toList <+: after.requests.toList)
    (hopen : output.room = none) (h : output.Received found output') :
    Grows (state, output) (after, output') :=
  ⟨hrequests, h.isPrefix, h.room_eq.trans hopen.symm⟩

end ScanState

section

variable (fault : Nat → Option NetError) (limit : Option Nat)

/-- Whether nothing has cut a scan short so far. -/
structure ScanState.Clear (state : ScanState) : Prop where
  /-- None of the requests so far would have failed. -/
  unfailing : state.1.Unfailing fault
  /-- The limit has not been passed. -/
  fits : state.2.Fits limit
  /-- The output itself has none. -/
  isOpen : state.2.room = none

/-- What is open is clear of faults and limits that are not there. -/
theorem ScanState.clear_of_isOpen {state : ScanState} (hopen : state.2.room = none) :
    state.Clear (fun _ => none) none :=
  ⟨fun _ _ => rfl, nofun, hopen⟩

/-- **How a scan is cut short**, beside one that is not. -/
inductive CutShort (whole : ScanState) : ScanError → ScanState → Prop
  /-- A request has failed. It is the last one. -/
  | net {n : Nat} {error : NetError} {cut : ScanState} :
      (∀ i < n, fault i = none) → fault n = some error → n < whole.1.requests.size →
      cut.1.requests.toList = whole.1.requests.toList.take (n + 1) →
      cut.2.delivered.toList <+: whole.2.delivered.toList → CutShort whole (.net error) cut
  /-- The output has closed. -/
  | sink {cut : ScanState} :
      Output.Closed limit whole.2 cut.2 → cut.1.requests.toList <+: whole.1.requests.toList →
      CutShort whole .sinkClosed cut

/-- **How a scan that may be cut short follows one that is not** over a piece of work: both have
come to the same end of it, or the one was cut short in it. -/
inductive Follows : Except ScanError Unit × ScanState → Except ScanError Unit × ScanState → Prop
  | inStep {result : Except ScanError Unit} {whole : ScanState} : whole.Clear fault limit →
      Follows (result, whole) (result, whole.1, whole.2.limited limit)
  | cut {result : Except ScanError Unit} {whole cut : ScanState} {error : ScanError} :
      CutShort fault limit whole error cut → Follows (result, whole) (.error error, cut)

variable {fault limit}

/-- **Whatever the uncut scan goes on to do**, the cut one stays cut short of it. -/
theorem CutShort.mono {whole after cut : ScanState} {error : ScanError}
    (h : CutShort fault limit whole error cut) (hgrows : whole.Grows after) :
    CutShort fault limit after error cut := by
  cases h with
  | @net n _ _ hbefore hfault hlt hrequests hdelivered =>
      have hlonger := hlt.trans_le (size_le_of_isPrefix hgrows.requests)
      refine .net hbefore hfault hlonger ?_ (hdelivered.trans hgrows.delivered)
      rw [hrequests, take_toList_of_isPrefix hgrows.requests hlt]
  | sink hclosed hrequests =>
      exact .sink (hclosed.mono hgrows.delivered) (hrequests.trans hgrows.requests)

/-- **How a scan ends early** that has done the beginning of another one. -/
structure EndsEarly (whole : Except ScanError Unit × ScanState) (error : ScanError)
    (cut : Except ScanError Unit × ScanState) : Prop where
  /-- The error is the result. -/
  result : cut.1 = .error error
  /-- The requests are the first ones of the whole scan. -/
  requests : cut.2.1.requests.toList <+: whole.2.1.requests.toList
  /-- So are the differences. -/
  delivered : cut.2.2.delivered.toList <+: whole.2.2.delivered.toList

/-- What follows a scan makes the same requests up to one that fails. -/
theorem Follows.of_fault {fault : Nat → Option NetError}
    {whole cut : Except ScanError Unit × ScanState} (h : Follows fault none whole cut) {n : Nat}
    {error : NetError} (hbefore : ∀ i < n, fault i = none) (hfault : fault n = some error) :
    if n < whole.2.1.requests.size then
      EndsEarly whole (.net error) cut ∧
        cut.2.1.requests.toList = whole.2.1.requests.toList.take (n + 1)
    else cut = whole := by
  cases h with
  | @inStep _ whole hclear =>
      have hover : ¬n < whole.1.requests.size := fun hlt =>
        nomatch hfault.symm.trans (hclear.unfailing n hlt)
      rw [if_neg hover, Output.limited_none hclear.isOpen]
  | cut hshort =>
      cases hshort with
      | @net m error' cut hbefore' hfault' hlt hrequests hdelivered =>
          -- it is the first request that fails which cuts the scan, and there is only one first
          obtain rfl : n = m := by
            rcases Nat.lt_trichotomy n m with hm | hm | hm
            · cases hfault.symm.trans (hbefore' n hm)
            · exact hm
            · cases hfault'.symm.trans (hbefore m hm)
          obtain rfl := Option.some.inj (hfault.symm.trans hfault')
          rw [if_pos hlt]
          exact ⟨⟨rfl, hrequests ▸ List.take_prefix _ _, hdelivered⟩, hrequests⟩
      | sink hclosed =>
          obtain ⟨_, hlimit, -⟩ := hclosed
          cases hlimit

/-- What follows a scan delivers the same differences up to the one there is no room for. -/
theorem Follows.of_room {room : Nat} {whole cut : Except ScanError Unit × ScanState}
    (h : Follows (fun _ => none) (some room) whole cut) :
    if room < whole.2.2.delivered.size then
      EndsEarly whole .sinkClosed cut ∧
        cut.2.2.delivered.toList = whole.2.2.delivered.toList.take room
    else cut = (whole.1, whole.2.1, whole.2.2.limited (some room)) := by
  cases h with
  | inStep hclear => rw [if_neg (not_lt.2 (hclear.fits room rfl))]
  | cut hshort =>
      cases hshort with
      | net _ hfault => cases hfault
      | sink hclosed hrequests =>
          obtain ⟨n, hlimit, hlt, hdelivered⟩ := hclosed
          obtain rfl := Option.some.inj hlimit
          rw [if_pos hlt]
          exact ⟨⟨rfl, hrequests, hdelivered ▸ List.take_prefix _ _⟩, hdelivered⟩

/-! ### A comparison that may be cut short -/

/-- Where a listing fails, so does its comparison. -/
theorem Comparison.takeListing_of_error {σ : Type} {leader : Leader σ} {listing following : Listing}
    {state next : σ} {error : NetError}
    (h : listing.next leader state = (.error error, following, next)) (comparison : Comparison)
    (output : Output) :
    comparison.takeListing leader listing state output = (.error (.net error), next, output) := by
  rw [takeListing]
  split <;> rename_i h' <;> cases h.symm.trans h'
  rfl

/-- Where a page cannot be delivered, the comparison ends. -/
theorem Comparison.takeListing_of_page_error {σ : Type} {leader : Leader σ}
    {listing following : Listing} {state next : σ} {page : List Item}
    (h : listing.next leader state = (.ok (some page), following, next)) {comparison : Comparison}
    {output output' : Output} {error : ScanError}
    (hpage : comparison.takePage output page = (.error error, output')) :
    comparison.takeListing leader listing state output = (.error error, next, output') := by
  rw [takeListing]
  split <;> rename_i h' <;> cases h.symm.trans h'
  rw [hpage]

variable {cap : Option Nat}

/-- A request that fails cuts the comparison short that made it. -/
theorem Comparison.follows_of_next_error {listing : Listing} {state next after : Served}
    {output output' : Output} (hclear : ScanState.Clear fault limit (state, output))
    {error : NetError} (hfault : fault state.requests.size = some error)
    (hnext : listing.next (Serving.leader ⟨cap, fault⟩) state = (.error error, listing, next))
    (hrequest : next.requests = state.requests.push listing.request)
    (hgrows : ScanState.Grows (next, output) (after, output')) (result : Except ScanError Unit)
    (comparison : Comparison) :
    Follows fault limit (result, after, output')
      (comparison.takeListing (Serving.leader ⟨cap, fault⟩) listing state
        (output.limited limit)) := by
  rw [takeListing_of_error hnext]
  have hcut : CutShort fault limit (next, output) (.net error) (next, output.limited limit) := by
    refine .net hclear.unfailing hfault ?_ ?_ List.prefix_rfl
    · rw [hrequest, Array.size_push]
      exact Nat.lt_succ_self _
    · rw [List.take_of_length_le]
      rw [hrequest, Array.length_toList, Array.size_push]
  exact .cut (hcut.mono hgrows)

/-- **A comparison with a listing** that may be cut short follows the one that is not. -/
theorem Comparison.takeListing_follows {listing : Listing} {state after : Served}
    {items : List Item} (h : listing.Yields (Serving.steady cap).leader state items after)
    {output : Output} (hclear : ScanState.Clear fault limit (state, output))
    (comparison : Comparison) :
    ∃ output', comparison.takeListing (Serving.steady cap).leader listing state output =
        (.ok (), after, output') ∧
      ScanState.Grows (state, output) (after, output') ∧
      Follows fault limit (.ok (), after, output')
        (comparison.takeListing (Serving.leader ⟨cap, fault⟩) listing state
          (output.limited limit)) := by
  -- By induction on what the uncut listing yields. A page may fail to come, and what it gives may
  -- fail to go out; only if neither happens are the two scans still side by side.
  induction h generalizing comparison output with
  | @done listing following state after hnext =>
      obtain ⟨output', hemit, hreceived⟩ :=
        Output.exists_received_emitAll hclear.isOpen comparison.finish
      have hgrows := ScanState.grows_of_received (Listing.requests_isPrefix_next hnext)
        hclear.isOpen hreceived
      refine ⟨output', ?_, hgrows, ?_⟩
      · rw [takeListing_of_done hnext, hemit]
      rcases Listing.next_fault hclear.unfailing hnext with
        ⟨hcut, hunfailing⟩ | ⟨error, hfault, hcut, hrequest⟩
      · rw [takeListing_of_done hcut]
        rcases Output.emitAll_limited hclear.isOpen hclear.fits hemit with
          ⟨hlimited, hfits⟩ | ⟨cut, hlimited, hclosed⟩
        · rw [hlimited]
          exact .inStep ⟨hunfailing, hfits, hreceived.room_eq⟩
        · rw [hlimited]
          exact .cut (.sink hclosed List.prefix_rfl)
      · exact follows_of_next_error hclear hfault hcut hrequest
          (ScanState.grows_of_received List.prefix_rfl hclear.isOpen hreceived) _ _
  | @page listing following state next after page items hnext hyields ih =>
      obtain ⟨found, rest, output₁, hpage, hreceived, -⟩ :=
        exists_received_takePage hclear.isOpen comparison page items
      obtain ⟨output', hrest, hmore⟩ := takeListing_of_yields hyields hreceived.room_eq rest
      have hgrows := ScanState.grows_of_received hyields.requests_isPrefix hreceived.room_eq hmore
      have hfirst := ScanState.grows_of_received (Listing.requests_isPrefix_next hnext)
        hclear.isOpen hreceived
      refine ⟨output', (takeListing_of_page hnext hpage).trans hrest, hfirst.trans hgrows, ?_⟩
      rcases Listing.next_fault hclear.unfailing hnext with
        ⟨hcut, hunfailing⟩ | ⟨error, hfault, hcut, hrequest⟩
      · rcases takePage_limited hclear.isOpen hclear.fits hpage with
          ⟨hlimited, hfits⟩ | ⟨cut, hlimited, hclosed⟩
        · rw [takeListing_of_page hcut hlimited]
          obtain ⟨_, hrest', -, hfollows⟩ := ih ⟨hunfailing, hfits, hreceived.room_eq⟩ rest
          exact hrest.symm.trans hrest' ▸ hfollows
        · rw [takeListing_of_page_error hcut hlimited]
          -- the output closes at this page; what the uncut scan does after it changes nothing
          have hshort : CutShort fault limit (next, output₁) .sinkClosed (next, cut) :=
            .sink hclosed List.prefix_rfl
          exact .cut (hshort.mono hgrows)
      · exact follows_of_next_error hclear hfault hcut hrequest
          ((ScanState.grows_of_received List.prefix_rfl hclear.isOpen hreceived).trans hgrows) _ _

namespace Scan

variable {settings : ScanSettings}

/-- A chunk, if there is one, is compared to its end; what may be cut short follows. -/
theorem compare?_follows {state : ScanState} (hclear : state.Clear fault limit)
    (chunk : Option Chunk) :
    ∃ whole : ScanState,
      compare? (Serving.steady cap).leader settings state.1 state.2 chunk = (.ok (), whole) ∧
      state.Grows whole ∧
      Follows fault limit (.ok (), whole)
        (compare? (Serving.leader ⟨cap, fault⟩) settings state.1 (state.2.limited limit)
          chunk) := by
  cases chunk with
  | none => exact ⟨state, rfl, .refl state, .inStep hclear⟩
  | some chunk =>
      obtain ⟨items, after, hyields⟩ :=
        Listing.exists_yields cap (Listing.start chunk.range settings.pageSize) state.1
      obtain ⟨output, hrun, hgrows, hfollows⟩ :=
        @Comparison.takeListing_follows fault limit cap _ _ _ _ hyields state.2.countRange
          ⟨hclear.unfailing, hclear.fits, hclear.isOpen⟩
          (Comparison.start settings.bufferSize chunk.items)
      exact ⟨(after, output), hrun, ⟨hgrows.requests, hgrows.delivered, hgrows.room_eq⟩, hfollows⟩

/-- **A scan that may be cut short follows the one that is not**, to whatever end that comes. -/
theorem scanFrom_follows {state : ScanState} (hclear : state.Clear fault limit)
    (stop : Option DatabaseError) (chunker : Chunker) (items : List Item) :
    ∃ result, ∃ whole : ScanState,
      scanFrom (Serving.steady cap).leader settings stop chunker state.1 state.2 items =
        (result, whole) ∧
      state.Grows whole ∧
      Follows fault limit (result, whole)
        (scanFrom (Serving.leader ⟨cap, fault⟩) settings stop chunker state.1
          (state.2.limited limit) items) := by
  induction items generalizing chunker state fault limit with
  | nil =>
      cases stop with
      | some error => exact ⟨_, state, rfl, .refl state, .inStep hclear⟩
      | none =>
          obtain ⟨whole, hrun, hgrows, hfollows⟩ :=
            @compare?_follows fault limit cap settings state hclear chunker.finish.1
          exact ⟨_, whole, hrun, hgrows, hfollows⟩
  | cons item items ih =>
      rcases hadvance : chunker.advance item with ⟨error | chunk, following⟩
      · rw [scanFrom, scanFrom, hadvance]
        exact ⟨_, (state.1, state.2.countScanned), rfl, ⟨List.prefix_rfl, List.prefix_rfl, rfl⟩,
          .inStep ⟨hclear.unfailing, hclear.fits, hclear.isOpen⟩⟩
      · obtain ⟨next, hcompare, hnext, hfollows⟩ :=
          @compare?_follows fault limit cap settings
            (state.1, state.2.countScanned.countSkipped following.takeSkipped.1)
            ⟨hclear.unfailing, hclear.fits, hclear.isOpen⟩ chunk
        have hfirst : state.Grows next := ⟨hnext.requests, hnext.delivered, hnext.room_eq⟩
        -- The whole scan goes on, even where the other one is cut short in this chunk.
        obtain ⟨result, whole, hscan, hgrows, -⟩ :=
          ih (ScanState.clear_of_isOpen (hfirst.room_eq.trans hclear.isOpen))
            following.takeSkipped.2
        refine ⟨result, whole, (scanFrom_of_advance hadvance hcompare items).trans hscan,
          hfirst.trans hgrows, ?_⟩
        rw [scanFrom, hadvance]
        dsimp only at hfollows ⊢
        rw [Output.countScanned_limited, Output.countSkipped_limited]
        generalize compare? (Serving.leader ⟨cap, fault⟩) settings state.1 _ chunk = cut
          at hfollows ⊢
        cases hfollows with
        | inStep hclear' =>
            obtain ⟨_, _, hscan', -, hrest⟩ := ih hclear' following.takeSkipped.2
            exact hscan.symm.trans hscan' ▸ hrest
        | cut hshort => exact .cut (hshort.mono hgrows)

end Scan

end

/-! ### A source that comes to no good end -/

/-- An item whose key has no bucket is not taken. -/
theorem Chunker.advance_of_not_mem {item : Item} (h : '/' ∉ item.key.toList) (chunker : Chunker) :
    chunker.advance item = (.error (.missingBucket item.key), chunker) := by
  rw [advance, ObjectName.ofKey_of_not_mem h]

namespace Scan

/-- The chunks of a scan at a leader that never fails find something. -/
theorem exists_finds (cap : Option Nat) (settings : ScanSettings) (chunks : List Chunk)
    (state : Served) :
    ∃ found after, Finds (Serving.steady cap).leader settings chunks state found after := by
  induction chunks generalizing state with
  | nil => exact ⟨[], state, .nil state⟩
  | cons chunk chunks ih =>
      obtain ⟨items, next, hyields⟩ :=
        Listing.exists_yields cap (Listing.start chunk.range settings.pageSize) state
      obtain ⟨found, after, hrest⟩ := ih next
      exact ⟨_, after, .cons hyields hrest⟩

variable {cap : Option Nat} {settings : ScanSettings} {stop stop' : Option DatabaseError}
  {error : ScanError}

/-- A scan whose source goes wrong after some items does the beginning of every scan of a source
that has these items first. -/
theorem endsEarly_scanFrom {tail : List Item}
    (htail : ∀ (chunker : Chunker) (state : ScanState), ∃ output,
      scanFrom (Serving.steady cap).leader settings stop chunker state.1 state.2 tail =
          (.error error, state.1, output) ∧ output.delivered = state.2.delivered)
    {first : List Item} (hfirst : ∀ item ∈ first, '/' ∈ item.key.toList) (rest : List Item)
    (chunker : Chunker) {state : ScanState} (hopen : state.2.room = none) :
    EndsEarly
      (scanFrom (Serving.steady cap).leader settings stop' chunker state.1 state.2 (first ++ rest))
      error
      (scanFrom (Serving.steady cap).leader settings stop chunker state.1 state.2
        (first ++ tail)) := by
  -- By induction on the items that both sources have: both scans do the same with them.
  induction first generalizing chunker state with
  | nil =>
      obtain ⟨result, whole, hwhole, hgrows, -⟩ := @scanFrom_follows _ _ cap settings _
        (ScanState.clear_of_isOpen hopen) stop' chunker rest
      obtain ⟨output, hcut, hdelivered⟩ := htail chunker state
      rw [List.nil_append, List.nil_append, hwhole, hcut]
      exact ⟨rfl, hgrows.requests, hdelivered ▸ hgrows.delivered⟩
  | cons item first ih =>
      obtain ⟨name, hname⟩ := Item.exists_name?_eq_some_iff.2 (hfirst item List.mem_cons_self)
      have hadvance := @Chunker.advance_eq chunker item name hname
      obtain ⟨next, hcompare, hgrows, -⟩ := @compare?_follows _ _ cap settings
        (state.1, state.2.countScanned.countSkipped
          ((chunker.room name.bucket).take name item).takeSkipped.1)
        (ScanState.clear_of_isOpen hopen) (chunker.ended name.bucket)
      rw [List.cons_append, List.cons_append, scanFrom_of_advance hadvance hcompare,
        scanFrom_of_advance hadvance hcompare]
      have hrest := ih (fun other hother => hfirst other (List.mem_cons_of_mem _ hother))
        (chunker.following name item) (hgrows.room_eq.trans hopen)
      exact ⟨hrest.result, hrest.requests, hrest.delivered⟩

/-! ### Everything that cuts a scan short -/

section

variable (cap : Option Nat) (settings : ScanSettings) (digests : Option DigestIndex)
  (pages : PageSource) (progress : Progress)

/-- A scan of a source from its start. Its requests may fail by their numbers, and its output may
have room for so many differences only. -/
def attempt (fault : Nat → Option NetError) (room : Option Nat) (source : ItemSource) :
    Except ScanError Unit × ScanState :=
  run (Serving.leader ⟨cap, fault⟩) settings digests source ⟨pages, #[]⟩
    (Output.start progress room)

/-- The same scan where no request fails and all differences are received. -/
def uncut (source : ItemSource) : Except ScanError Unit × ScanState :=
  attempt cap settings digests pages progress (fun _ => none) none source

/-- **What becomes of a scan that is cut short.** Whatever it is that cuts it short, the scan ends
with the error for it, and has made the first requests and delivered the first differences of the
scan that nothing cuts short. Nothing changes if the scan is over before. -/
structure CutsCleanly (source : ItemSource) : Prop where
  /-- A scan that nothing cuts short ends well. -/
  result_uncut : source.fault = none → (∀ item ∈ source.items, '/' ∈ item.key.toList) →
    (uncut cap settings digests pages progress source).1 = .ok ()
  /-- A request that fails is the last one. -/
  request : ∀ (fault : Nat → Option NetError) (n : Nat) (error : NetError),
    (∀ i < n, fault i = none) → fault n = some error →
    let whole := uncut cap settings digests pages progress source
    let cut := attempt cap settings digests pages progress fault none source
    if n < whole.2.1.requests.size then
      EndsEarly whole (.net error) cut ∧
        cut.2.1.requests.toList = whole.2.1.requests.toList.take (n + 1)
    else cut = whole
  /-- An output that closes has received what it had room for. -/
  receiver : ∀ room : Nat,
    let whole := uncut cap settings digests pages progress source
    let cut := attempt cap settings digests pages progress (fun _ => none) (some room) source
    if room < whole.2.2.delivered.size then
      EndsEarly whole .sinkClosed cut ∧
        cut.2.2.delivered.toList = whole.2.2.delivered.toList.take room
    else cut = (whole.1, whole.2.1, whole.2.2.limited (some room))
  /-- A follower that cannot be read on after some items. -/
  database : ∀ (first : List Item) (error : DatabaseError), first <+: source.items →
    (∀ item ∈ first, '/' ∈ item.key.toList) →
    EndsEarly (uncut cap settings digests pages progress source) (.database error)
      (uncut cap settings digests pages progress ⟨first, some error⟩)
  /-- An item after some others whose key has no bucket. -/
  key : ∀ (first : List Item) (item : Item) (more : List Item) (stop : Option DatabaseError),
    first <+: source.items → (∀ item ∈ first, '/' ∈ item.key.toList) → '/' ∉ item.key.toList →
    EndsEarly (uncut cap settings digests pages progress source) (.key (.missingBucket item.key))
      (uncut cap settings digests pages progress ⟨first ++ item :: more, stop⟩)

variable {cap settings digests pages progress}

/-- A scan whose output has limited room follows, and so does one whose requests may fail. -/
theorem follows_attempt (fault : Nat → Option NetError) (room : Option Nat) (source : ItemSource) :
    Follows fault room (uncut cap settings digests pages progress source)
      (attempt cap settings digests pages progress fault room source) := by
  have hclear : ScanState.Clear fault room (⟨pages, #[]⟩, Output.start progress none) :=
    ⟨fun _ h => absurd h (Nat.not_lt_zero _), fun _ _ => Nat.zero_le _, rfl⟩
  obtain ⟨result, whole, hwhole, -, hfollows⟩ := @scanFrom_follows fault room cap settings
    _ hclear source.fault (.start settings.bufferSize digests) source.items
  have huncut : uncut cap settings digests pages progress source = (result, whole) := hwhole
  have hstart : (Output.start progress none).limited room = Output.start progress room := by
    cases room <;> rfl
  rw [huncut, attempt, run, ← hstart]
  exact hfollows

/-- The source of a scan goes wrong after some items. -/
theorem endsEarly_uncut {source : ItemSource} {first : List Item} (hfirst : first <+: source.items)
    (hnamed : ∀ item ∈ first, '/' ∈ item.key.toList) {tail : List Item}
    (htail : ∀ (chunker : Chunker) (state : ScanState), ∃ output,
      scanFrom (Serving.steady cap).leader settings stop chunker state.1 state.2 tail =
          (.error error, state.1, output) ∧ output.delivered = state.2.delivered) :
    EndsEarly (uncut cap settings digests pages progress source) error
      (uncut cap settings digests pages progress ⟨first ++ tail, stop⟩) := by
  obtain ⟨rest, hrest⟩ := hfirst
  rw [uncut, attempt, run, ← hrest]
  exact @endsEarly_scanFrom cap settings stop source.fault error tail htail first hnamed rest
    (.start settings.bufferSize digests) (⟨pages, #[]⟩, Output.start progress none) rfl

end

/-- **Every scan is cut short cleanly**, whatever the leader's pages come from and whatever digests
it goes by.

A failing request and a receiver that goes away are faults that the uncut scan is followed up to
(`follows_attempt`). A source that goes wrong is cut at an item, and the scans are the same before
it (`endsEarly_uncut`). -/
theorem cutsCleanly (cap : Option Nat) (settings : ScanSettings) (digests : Option DigestIndex)
    (pages : PageSource) (progress : Progress) (source : ItemSource) :
    CutsCleanly cap settings digests pages progress source where
  result_uncut hfault hnamed := by
    obtain ⟨found, after, hfinds⟩ := exists_finds cap settings
      ((Chunker.start settings.bufferSize digests).chunks source.items) ⟨pages, #[]⟩
    obtain ⟨output, hscan, -⟩ :=
      scanFrom_of_finds hnamed hfinds (rfl : (Output.start progress none).room = none)
    rw [uncut, attempt, run, hfault]
    exact congrArg Prod.fst hscan
  request fault n error hbefore hfault :=
    (follows_attempt fault none source).of_fault hbefore hfault
  receiver room := (follows_attempt _ (some room) source).of_room
  database first error hfirst hnamed := by
    have hends := @endsEarly_uncut (some error) _ cap settings digests pages progress source first
      hfirst hnamed [] fun chunker state => ⟨state.2, rfl, rfl⟩
    rw [List.append_nil] at hends
    exact hends
  key first item more stop hfirst hnamed hitem := by
    refine endsEarly_uncut hfirst hnamed fun chunker state => ⟨state.2.countScanned, ?_, rfl⟩
    rw [scanFrom, Chunker.advance_of_not_mem hitem]

/-- The second request of a scan fails, after one of its two differences has been delivered. -/
theorem cutsCleanly_second_request :
    let pages : PageSource := .stores ⟨[⟨"a/2", "x"⟩]⟩ []
    let source : ItemSource := ⟨[⟨"a/1", "x"⟩, ⟨"a/2", "y"⟩], none⟩
    let fault : Nat → Option NetError :=
      fun n => if n = 1 then some (.transport .bodyCut) else none
    let whole := uncut none ⟨1, 1⟩ none pages .zero source
    let cut := attempt none ⟨1, 1⟩ none pages .zero fault none source
    EndsEarly whole (.net (.transport .bodyCut)) cut ∧ whole.2.2.delivered.size = 2 ∧
      cut.2.2.delivered.toList = [.onlyOnFollower ⟨"a/1", "x"⟩] := by
  intro pages source fault whole cut
  have hbefore : ∀ i < 1, fault i = none := by decide
  have hsizes : (whole.2.1.requests.size, whole.2.2.delivered.size) = (3, 2) := by
    dsimp only [whole, source, pages]
    cbv
  obtain ⟨hrequests, hdelivered⟩ := Prod.mk.inj hsizes
  have hreached : 1 < whole.2.1.requests.size := hrequests ▸ by decide
  have hcut :=
    (cutsCleanly none ⟨1, 1⟩ none pages .zero source).request fault 1 _ hbefore rfl
  dsimp only at hcut
  rw [if_pos hreached] at hcut
  refine ⟨hcut.1, hdelivered, ?_⟩
  dsimp only [cut, fault, source, pages]
  cbv

end Scan

end Reconcile

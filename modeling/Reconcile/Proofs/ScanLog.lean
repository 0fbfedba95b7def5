import Reconcile.Proofs.ScanSteps

/-!
# The log of a scan

What happens in a scan does not depend on the output, up to the difference that the output refuses:
items are taken, items are skipped, comparisons of chunks are started, and differences are found.
The log of a scan lists these events, as they come if nothing is refused (`Scan.log`). The scan
itself plays the log to its output, where every event is counted and every difference is delivered
as well, up to the first one that is refused (`Output.play`, `Scan.done_run`).

So what a scan has counted is what its log says, up to that difference (`ScanEvent.upTo`), and what
the log says is a matter of the source and the leader alone.

## Main results

* `Scan.done_run`: a scan plays its log;
* `Output.played_play`: what is counted and delivered when a log is played;
* `Scan.takesFrom_logFrom`, `Scan.chunksOf_logFrom`: the items and the chunks on a log.
-/

namespace Reconcile

/-! ### Events -/

/-- What happens in a scan. -/
inductive ScanEvent where
  /-- An item is taken from the source. -/
  | taken (item : Item)
  /-- Items are skipped thanks to digests. -/
  | skipped (n : Nat)
  /-- The comparison of a chunk is started. -/
  | started (chunk : Chunk)
  /-- A difference is found and offered to the output. -/
  | found (difference : Difference)

namespace ScanEvent

/-- What an event counts. -/
def count : ScanEvent → Progress
  | .taken _ => { Progress.zero with keysScanned := 1 }
  | .skipped n => { Progress.zero with keysSkipped := n }
  | .started _ => { Progress.zero with rangeQueries := 1 }
  | .found difference => .one difference.kind

/-- The events up to the first difference that an output with some room refuses, and this one. -/
def upTo (room : Option Nat) : List ScanEvent → List ScanEvent
  | [] => []
  | .taken item :: events => .taken item :: upTo room events
  | .skipped n :: events => .skipped n :: upTo room events
  | .started chunk :: events => .started chunk :: upTo room events
  | .found difference :: events =>
    match room with
    | none => .found difference :: upTo none events
    | some 0 => [.found difference]
    | some (n + 1) => .found difference :: upTo (some n) events

/-- The items that are taken. -/
def itemsOf (events : List ScanEvent) : List Item :=
  events.filterMap fun
    | .taken item => some item
    | _ => none

/-- The chunks whose comparison is started. -/
def chunksOf (events : List ScanEvent) : List Chunk :=
  events.filterMap fun
    | .started chunk => some chunk
    | _ => none

/-- The differences that are found. -/
def differencesOf (events : List ScanEvent) : List Difference :=
  events.filterMap fun
    | .found difference => some difference
    | _ => none

/-- The number of items that are skipped. -/
def skippedIn (events : List ScanEvent) : Nat :=
  (events.map fun
    | .skipped n => n
    | _ => 0).sum

/-- **What events count**, in each place. -/
theorem sum_map_count (events : List ScanEvent) :
    (events.map count).sum = {
      keysScanned := (itemsOf events).length
      keysSkipped := skippedIn events
      onlyOnFollower := (differencesOf events).countP (·.kind = .onlyOnFollower)
      onlyOnLeader := (differencesOf events).countP (·.kind = .onlyOnLeader)
      differingValue := (differencesOf events).countP (·.kind = .differingValue)
      rangeQueries := (chunksOf events).length } := by
  induction events with
  | nil => rfl
  | cons event events ih =>
      rw [List.map_cons, List.sum_cons, ih, Progress.add_def]
      cases event with
      | taken item =>
          simp [count, itemsOf, skippedIn, differencesOf, chunksOf, Progress.zero, Nat.add_comm]
      | skipped n =>
          simp [count, itemsOf, skippedIn, differencesOf, chunksOf, Progress.zero]
      | started chunk =>
          simp [count, itemsOf, skippedIn, differencesOf, chunksOf, Progress.zero, Nat.add_comm]
      | found difference =>
          cases hkind : difference.kind <;>
            simp [count, itemsOf, skippedIn, differencesOf, chunksOf, Progress.one, Progress.zero,
              Progress.record, hkind, Nat.add_comm]

/-- The items of two pieces of a log come one after the other. -/
theorem itemsOf_append (events more : List ScanEvent) :
    itemsOf (events ++ more) = itemsOf events ++ itemsOf more :=
  List.filterMap_append

/-- So do the chunks. -/
theorem chunksOf_append (events more : List ScanEvent) :
    chunksOf (events ++ more) = chunksOf events ++ chunksOf more :=
  List.filterMap_append

/-- And the numbers of skipped items are added. -/
theorem skippedIn_append (events more : List ScanEvent) :
    skippedIn (events ++ more) = skippedIn events + skippedIn more := by
  rw [skippedIn, List.map_append, List.sum_append, ← skippedIn, ← skippedIn]

/-- No item is taken where differences are found. -/
theorem itemsOf_map_found (found : List Difference) : itemsOf (found.map .found) = [] := by
  rw [itemsOf, List.filterMap_map, List.filterMap_eq_nil_iff]
  exact fun _ _ => rfl

/-- No chunk is started there. -/
theorem chunksOf_map_found (found : List Difference) : chunksOf (found.map .found) = [] := by
  rw [chunksOf, List.filterMap_map, List.filterMap_eq_nil_iff]
  exact fun _ _ => rfl

/-- And nothing is skipped. -/
theorem skippedIn_map_found (found : List Difference) : skippedIn (found.map .found) = 0 := by
  rw [skippedIn, List.map_map, List.sum_eq_zero_iff]
  exact List.forall_mem_map.2 fun _ _ => rfl

/-- What happens up to a refused difference is a beginning of what would happen. -/
theorem upTo_isPrefix (room : Option Nat) (events : List ScanEvent) :
    upTo room events <+: events := by
  induction events generalizing room with
  | nil => exact List.nil_prefix
  | cons event events ih =>
      cases event with
      | found difference =>
          rcases room with _ | _ | n
          · exact (List.prefix_cons_inj _).2 (ih none)
          · exact (List.prefix_cons_inj _).2 List.nil_prefix
          · exact (List.prefix_cons_inj _).2 (ih (some n))
      | _ => exact (List.prefix_cons_inj _).2 (ih room)

end ScanEvent

namespace Output

/-- Counts events and delivers what is found, up to the first difference that is refused. -/
def play (output : Output) : List ScanEvent → Except ScanError Unit × Output
  | [] => (.ok (), output)
  | .taken _ :: events => output.countScanned.play events
  | .skipped n :: events => (output.countSkipped n).play events
  | .started _ :: events => output.countRange.play events
  | .found difference :: events =>
    match output.emit difference with
    | (.ok (), output) => output.play events
    | (.error error, output) => (.error error, output)

/-- A second piece is played only if the first one goes well. -/
theorem play_append (output : Output) (events more : List ScanEvent) :
    output.play (events ++ more) =
      match output.play events with
      | (.ok (), output) => output.play more
      | (.error error, output) => (.error error, output) := by
  induction events generalizing output with
  | nil => rfl
  | cons event events ih =>
      cases event with
      | found difference =>
          rw [List.cons_append, play, play]
          rcases output.emit difference with ⟨error | ⟨⟩, after⟩
          · rfl
          · exact ih after
      | _ => exact ih _

/-- Differences are played by offering them one after the other. -/
theorem play_map_found (output : Output) (found : List Difference) :
    output.play (found.map .found) = output.emitAll found := by
  induction found generalizing output with
  | nil => rfl
  | cons difference found ih =>
      rw [List.map_cons, play, emitAll]
      rcases output.emit difference with ⟨error | ⟨⟩, after⟩
      · rfl
      · exact ih after

/-- An output that receives all differences refuses none. -/
theorem play_fst_of_open {output : Output} (hopen : output.room = none)
    (events : List ScanEvent) : (output.play events).1 = .ok () := by
  induction events generalizing output with
  | nil => rfl
  | cons event events ih =>
      cases event with
      | found difference =>
          rw [play, emit_of_open hopen]
          exact ih hopen
      | _ => exact ih hopen

/-- **What is left when events are played**: what happened is counted, and what was found is
delivered, unless it is refused. -/
structure Played (output : Output) (events : List ScanEvent) (result : Except ScanError Unit)
    (after : Output) : Prop where
  /-- All events up to the end are counted. -/
  progress_eq : after.progress =
    output.progress + ((ScanEvent.upTo output.room events).map ScanEvent.count).sum
  /-- All differences are received; or one is refused, and those before it are received. -/
  delivered_eq : (result = .ok () ∧ ScanEvent.upTo output.room events = events ∧
      after.delivered.toList = output.delivered.toList ++ ScanEvent.differencesOf events) ∨
    result = .error .sinkClosed ∧ ∃ given refused,
      ScanEvent.differencesOf (ScanEvent.upTo output.room events) = given ++ [refused] ∧
        after.delivered.toList = output.delivered.toList ++ given

/-- An event that is no difference is counted. -/
theorem Played.cons {output next after : Output} {event : ScanEvent} {events : List ScanEvent}
    {result : Except ScanError Unit} (h : next.Played events result after)
    (hroom : next.room = output.room) (hprogress : next.progress = output.progress + event.count)
    (hdelivered : next.delivered = output.delivered)
    (hupTo : ∀ events, ScanEvent.upTo output.room (event :: events) =
      event :: ScanEvent.upTo output.room events)
    (hdifferences : ∀ events, ScanEvent.differencesOf (event :: events) =
      ScanEvent.differencesOf events) :
    output.Played (event :: events) result after := by
  obtain ⟨hcounted, hcases⟩ := h
  rw [hroom] at hcounted hcases
  rw [hdelivered] at hcases
  refine ⟨?_, ?_⟩
  · rw [hcounted, hprogress, hupTo, List.map_cons, List.sum_cons, add_assoc]
  · rw [hupTo, hdifferences, hdifferences]
    refine hcases.imp_left ?_
    rintro ⟨hresult, hevents, hafter⟩
    exact ⟨hresult, by rw [hevents], hafter⟩

/-- A difference that is received is counted and delivered. -/
theorem Played.cons_found {output next after : Output} {difference : Difference}
    {events : List ScanEvent} {result : Except ScanError Unit} (h : next.Played events result after)
    (hprogress : next.progress = output.progress + .one difference.kind)
    (hdelivered : next.delivered = output.delivered.push difference)
    (hupTo : ScanEvent.upTo output.room (.found difference :: events) =
      .found difference :: ScanEvent.upTo next.room events) :
    output.Played (.found difference :: events) result after := by
  obtain ⟨hcounted, hcases⟩ := h
  have hfound : ∀ events, ScanEvent.differencesOf (.found difference :: events) =
      difference :: ScanEvent.differencesOf events := fun _ => rfl
  rw [hdelivered, Array.toList_push] at hcases
  refine ⟨?_, ?_⟩
  · rw [hcounted, hprogress, hupTo, List.map_cons, List.sum_cons, add_assoc]
    rfl
  · rw [hupTo, hfound, hfound]
    rcases hcases with ⟨hresult, hevents, hafter⟩ | ⟨hresult, given, refused, hgiven, hafter⟩
    · refine .inl ⟨hresult, by rw [hevents], ?_⟩
      rw [hafter, List.append_assoc, List.singleton_append]
    · refine .inr ⟨hresult, difference :: given, refused, by rw [hgiven, List.cons_append], ?_⟩
      rw [hafter, List.append_assoc, List.singleton_append]

/-- **What is left when events are played** is what `Output.Played` says, by the kinds of the
events. -/
theorem played_play (output : Output) (events : List ScanEvent) :
    output.Played events (output.play events).1 (output.play events).2 := by
  induction events generalizing output with
  | nil => exact ⟨(add_zero _).symm, .inl ⟨rfl, rfl, (List.append_nil _).symm⟩⟩
  | cons event events ih =>
      cases event with
      | found difference =>
          rw [play, emit]
          rcases hroom : output.room with _ | _ | n
          · refine (ih _).cons_found (Progress.record_eq _ _) rfl ?_
            rw [hroom]
            rfl
          · refine ⟨?_, .inr ⟨rfl, [], difference, ?_, (List.append_nil _).symm⟩⟩
            · rw [hroom, ScanEvent.upTo, List.map_singleton, List.sum_singleton]
              exact Progress.record_eq _ _
            · rw [hroom]
              rfl
          · refine (ih _).cons_found (Progress.record_eq _ _) rfl ?_
            rw [hroom]
            rfl
      | _ => exact (ih _).cons rfl rfl rfl (fun _ => rfl) fun _ => rfl

end Output

/-! ### Logs -/

/-- What happens in a piece of a scan if nothing is refused. -/
structure ScanLog (σ : Type) where
  events : List ScanEvent
  /-- How the piece ends. -/
  ending : Except ScanError Unit
  /-- What the leader is left in. -/
  last : σ

namespace ScanLog

variable {σ : Type}

/-- A log with events before it. -/
def prepend (events : List ScanEvent) (log : ScanLog σ) : ScanLog σ :=
  { log with events := events ++ log.events }

/-- A log and what comes after it, if it ends well. -/
def andThen (first : ScanLog σ) (rest : σ → ScanLog σ) : ScanLog σ :=
  match first.ending with
  | .ok () => (rest first.last).prepend first.events
  | .error _ => first

/-- **How a piece of a scan goes by its log**: it ends as the log does, or with a difference that is
refused. -/
inductive Done (log : ScanLog σ) (output : Output) : Except ScanError Unit × σ × Output → Prop
  | whole {after : Output} : output.play log.events = (.ok (), after) →
      Done log output (log.ending, log.last, after)
  | refused {error : ScanError} {after : Output} (state : σ) :
      output.play log.events = (.error error, after) → Done log output (.error error, state, after)

variable {log : ScanLog σ} {events : List ScanEvent} {output next after : Output}

/-- Events in front that go well do not change how a piece ends. -/
theorem Done.prepend (hevents : output.play events = (.ok (), next))
    {result : Except ScanError Unit × σ × Output} (h : log.Done next result) :
    (log.prepend events).Done output result := by
  have hplay : output.play (events ++ log.events) = next.play log.events := by
    rw [Output.play_append, hevents]
  cases h with
  | whole h => exact .whole (hplay.trans h)
  | refused state h => exact .refused state (hplay.trans h)

/-- A difference in front that is refused ends the piece, whatever comes behind. -/
theorem done_prepend_of_error {error : ScanError}
    (hevents : output.play events = (.error error, after)) (log : ScanLog σ) (state : σ) :
    (log.prepend events).Done output (.error error, state, after) := by
  refine .refused state ?_
  rw [ScanLog.prepend, Output.play_append, hevents]

/-- A piece that goes well is gone on after. -/
theorem Done.andThen {state : σ} (h : log.Done output (.ok (), state, next)) {rest : σ → ScanLog σ}
    {result : Except ScanError Unit × σ × Output} (hrest : (rest state).Done next result) :
    (log.andThen rest).Done output result := by
  obtain ⟨events, ending, last⟩ := log
  cases h with
  | whole hplay => exact hrest.prepend hplay

/-- Nothing comes after a piece that goes wrong. -/
theorem Done.andThen_of_error {error : ScanError} {state : σ}
    (h : log.Done output (.error error, state, after)) (rest : σ → ScanLog σ) :
    (log.andThen rest).Done output (.error error, state, after) := by
  obtain ⟨events, ending, last⟩ := log
  cases h with
  | whole hplay => exact .whole hplay
  | refused _ hplay =>
      cases ending with
      | error other => exact .refused state hplay
      | ok _ => exact done_prepend_of_error hplay (rest last) state

/-- With an output that refuses nothing a piece ends as its log does. -/
theorem Done.fst_of_open {result : Except ScanError Unit × σ × Output} (h : log.Done output result)
    (hopen : output.room = none) : result.1 = log.ending := by
  have hplay := Output.play_fst_of_open hopen log.events
  cases h with
  | whole _ => rfl
  | refused state hrefused =>
      rw [hrefused] at hplay
      cases hplay

/-- **What is left of a piece of a scan**: what happened is counted, and what was found is
delivered, up to the difference that is refused if one is. -/
theorem Done.played {result : Except ScanError Unit × σ × Output} (h : log.Done output result) :
    result.2.2.progress =
        output.progress + ((ScanEvent.upTo output.room log.events).map ScanEvent.count).sum ∧
      ((result.1 = log.ending ∧ ScanEvent.upTo output.room log.events = log.events ∧
          result.2.2.delivered.toList =
            output.delivered.toList ++ ScanEvent.differencesOf log.events) ∨
        result.1 = .error .sinkClosed ∧ ∃ given refused,
          ScanEvent.differencesOf (ScanEvent.upTo output.room log.events) = given ++ [refused] ∧
            result.2.2.delivered.toList = output.delivered.toList ++ given) := by
  have hplayed := output.played_play log.events
  cases h with
  | whole hplay =>
      rw [hplay] at hplayed
      rcases hplayed.delivered_eq with ⟨-, hall⟩ | ⟨hrefused, -⟩
      · exact ⟨hplayed.progress_eq, .inl ⟨rfl, hall⟩⟩
      · cases hrefused
  | refused state hplay =>
      rw [hplay] at hplayed
      rcases hplayed.delivered_eq with ⟨hall, -⟩ | ⟨hrefused, hgiven⟩
      · cases hall
      · exact ⟨hplayed.progress_eq, .inr ⟨hrefused, hgiven⟩⟩

end ScanLog

namespace Comparison

/-- The log of a comparison with a listing. -/
def log {σ : Type} (comparison : Comparison) (leader : Leader σ) (listing : Listing) (state : σ) :
    ScanLog σ :=
  match _h : listing.next leader state with
  | (.error error, _, state) => ⟨[], .error (.net error), state⟩
  | (.ok none, _, state) => ⟨comparison.finish.map .found, .ok (), state⟩
  | (.ok (some page), following, after) =>
    let (found, comparison) := comparison.pushAll page
    (comparison.log leader following after).prepend (found.map .found)
  termination_by listing.pagesLeft leader state
  decreasing_by exact Listing.pagesLeft_lt ‹listing.next leader state = _›

/-- A page is compared by offering what it makes known. -/
theorem takePage_eq (comparison : Comparison) (output : Output) (page : List Item) :
    comparison.takePage output page =
      match output.play ((comparison.pushAll page).1.map .found) with
      | (.ok (), after) => (.ok (comparison.pushAll page).2, after)
      | (.error error, after) => (.error error, after) := by
  induction page generalizing comparison output with
  | nil => rfl
  | cons item page ih =>
      rw [takePage, pushAll]
      dsimp only
      rw [List.map_append, Output.play_append, Output.play_map_found]
      rcases output.emitAll (comparison.push item).1 with ⟨error | ⟨⟩, after⟩
      · rfl
      · exact ih _ after

section

variable {σ : Type} {leader : Leader σ} {listing following : Listing} {state next : σ}

/-- A page that fails ends the log of a comparison. -/
theorem log_of_error {error : NetError}
    (h : listing.next leader state = (.error error, following, next)) (comparison : Comparison) :
    comparison.log leader listing state = ⟨[], .error (.net error), next⟩ := by
  rw [log]
  split <;> rename_i h' <;> cases h.symm.trans h'
  rfl

/-- Behind the last page the rest of the chunk is found. -/
theorem log_of_done (h : listing.next leader state = (.ok none, following, next))
    (comparison : Comparison) :
    comparison.log leader listing state = ⟨comparison.finish.map .found, .ok (), next⟩ := by
  rw [log]
  split <;> rename_i h' <;> cases h.symm.trans h'
  rfl

/-- A page is compared, and the log goes on behind it. -/
theorem log_of_page {page : List Item}
    (h : listing.next leader state = (.ok (some page), following, next))
    (comparison : Comparison) :
    comparison.log leader listing state =
      ((comparison.pushAll page).2.log leader following next).prepend
        ((comparison.pushAll page).1.map .found) := by
  rw [log]
  split <;> rename_i h' <;> cases h.symm.trans h'
  rfl

/-- A comparison does nothing but find differences. -/
theorem exists_events_log_eq (leader : Leader σ) (comparison : Comparison) (listing : Listing)
    (state : σ) : ∃ found : List Difference,
      (comparison.log leader listing state).events = found.map .found := by
  induction listing, state using Listing.induction_next leader generalizing comparison with
  | step listing state ih =>
      rcases hnext : listing.next leader state with ⟨error | page?, following, next⟩
      · exact ⟨[], by rw [log_of_error hnext, List.map_nil]⟩
      cases page? with
      | none => exact ⟨comparison.finish, by rw [log_of_done hnext]⟩
      | some page =>
          obtain ⟨found, hfound⟩ := ih page following next hnext (comparison.pushAll page).2
          refine ⟨(comparison.pushAll page).1 ++ found, ?_⟩
          rw [log_of_page hnext, ScanLog.prepend, hfound, List.map_append]

/-- A comparison ends well, unless its listing fails. -/
theorem ending_log (leader : Leader σ) (comparison : Comparison) (listing : Listing) (state : σ) :
    (comparison.log leader listing state).ending = .ok () ∨
      ∃ error, (comparison.log leader listing state).ending = .error (.net error) := by
  induction listing, state using Listing.induction_next leader generalizing comparison with
  | step listing state ih =>
      rcases hnext : listing.next leader state with ⟨error | page?, following, next⟩
      · exact .inr ⟨error, by rw [log_of_error hnext]⟩
      cases page? with
      | none => exact .inl (by rw [log_of_done hnext])
      | some page =>
          rw [log_of_page hnext]
          exact ih page following next hnext _

/-- **A comparison with a listing goes by its log.** -/
theorem done_takeListing (leader : Leader σ) (comparison : Comparison) (listing : Listing)
    (state : σ) (output : Output) :
    (comparison.log leader listing state).Done output
      (comparison.takeListing leader listing state output) := by
  -- By induction on the listing, as the comparison goes: what a page finds is played to the output
  -- before the next one is asked for.
  induction listing, state using Listing.induction_next leader generalizing comparison output with
  | step listing state ih =>
      rcases hnext : listing.next leader state with ⟨error | page?, following, next⟩
      · rw [log_of_error hnext, takeListing_of_error hnext]
        exact .whole rfl
      cases page? with
      | none =>
          rw [log_of_done hnext, takeListing_of_done hnext]
          rcases hemit : output.emitAll comparison.finish with ⟨error | ⟨⟩, after⟩
          · exact .refused next ((Output.play_map_found _ _).trans hemit)
          · exact .whole ((Output.play_map_found _ _).trans hemit)
      | some page =>
          have hpage := takePage_eq comparison output page
          rw [log_of_page hnext]
          rcases hplay : output.play ((comparison.pushAll page).1.map .found) with
            ⟨error | ⟨⟩, after⟩
          · rw [hplay] at hpage
            rw [takeListing_of_page_error hnext hpage]
            exact ScanLog.done_prepend_of_error hplay _ next
          · rw [hplay] at hpage
            rw [takeListing_of_page hnext hpage]
            exact .prepend hplay (ih page following next hnext _ after)

end

end Comparison

/-- The log of the comparison of a chunk. -/
def Chunk.log {σ : Type} (chunk : Chunk) (leader : Leader σ) (settings : ScanSettings) (state : σ) :
    ScanLog σ :=
  ((Comparison.start settings.bufferSize chunk.items).log leader
    (Listing.start chunk.range settings.pageSize) state).prepend [.started chunk]

namespace Scan

variable {σ : Type} (leader : Leader σ) (settings : ScanSettings)

/-- The log of a chunk, if there is one. -/
def log? (state : σ) : Option Chunk → ScanLog σ
  | none => ⟨[], .ok (), state⟩
  | some chunk => chunk.log leader settings state

/-- The log of a scan from some item on. -/
def logFrom (fault : Option DatabaseError) (chunker : Chunker) (state : σ) : List Item → ScanLog σ
  | [] =>
    match fault with
    | some error => ⟨[], .error (.database error), state⟩
    | none => log? leader settings state chunker.finish.1
  | item :: items =>
    match chunker.advance item with
    | (.error error, _) => ⟨[.taken item], .error (.key error), state⟩
    | (.ok chunk, chunker) =>
      let (skipped, chunker) := chunker.takeSkipped
      ((log? leader settings state chunk).andThen fun state =>
        logFrom fault chunker state items).prepend [.taken item, .skipped skipped]

/-- The log of a scan. -/
def log (digests : Option DigestIndex) (source : ItemSource) (state : σ) : ScanLog σ :=
  logFrom leader settings source.fault (.start settings.bufferSize digests) state source.items

/-- The comparison of a chunk, or of none, goes by its log. -/
theorem done_compare? (state : σ) (output : Output) (chunk : Option Chunk) :
    (log? leader settings state chunk).Done output
      (compare? leader settings state output chunk) := by
  cases chunk with
  | none => exact .whole rfl
  | some chunk => exact .prepend rfl (Comparison.done_takeListing leader _ _ state _)

/-- **A scan goes by its log** from any item on. -/
theorem done_scanFrom (fault : Option DatabaseError) (chunker : Chunker) (state : σ)
    (output : Output) (items : List Item) :
    (logFrom leader settings fault chunker state items).Done output
      (scanFrom leader settings fault chunker state output items) := by
  induction items generalizing chunker state output with
  | nil =>
      cases fault with
      | some error => exact .whole rfl
      | none => exact done_compare? leader settings state output chunker.finish.1
  | cons item items ih =>
      rw [logFrom, scanFrom]
      rcases chunker.advance item with ⟨error | chunk, following⟩
      · exact .whole rfl
      · dsimp only
        refine .prepend rfl ?_
        have hdone := done_compare? leader settings state
          (output.countScanned.countSkipped following.takeSkipped.1) chunk
        rcases hcompare : compare? leader settings state
          (output.countScanned.countSkipped following.takeSkipped.1) chunk with
          ⟨error | ⟨⟩, next, after⟩
        · rw [hcompare] at hdone
          exact hdone.andThen_of_error _
        · rw [hcompare] at hdone
          exact hdone.andThen (ih following.takeSkipped.2 next after)

/-- **A scan goes by its log.** -/
theorem done_run (digests : Option DigestIndex) (source : ItemSource) (state : σ)
    (output : Output) :
    (log leader settings digests source state).Done output
      (run leader settings digests source state output) :=
  done_scanFrom leader settings source.fault _ state output source.items

/-! ### What is on a log -/

/-- The chunk of a log, if there is one, and nothing else is on it but what is found. -/
theorem events_log? (state : σ) (chunk : Option Chunk) :
    ScanEvent.itemsOf (log? leader settings state chunk).events = [] ∧
      ScanEvent.chunksOf (log? leader settings state chunk).events = chunk.toList ∧
      ScanEvent.skippedIn (log? leader settings state chunk).events = 0 := by
  cases chunk with
  | none => exact ⟨rfl, rfl, rfl⟩
  | some chunk =>
      obtain ⟨found, hfound⟩ := Comparison.exists_events_log_eq leader
        (.start settings.bufferSize chunk.items) (.start chunk.range settings.pageSize) state
      rw [log?, Chunk.log, ScanLog.prepend, hfound, ScanEvent.itemsOf_append,
        ScanEvent.chunksOf_append, ScanEvent.skippedIn_append, ScanEvent.itemsOf_map_found,
        ScanEvent.chunksOf_map_found, ScanEvent.skippedIn_map_found]
      exact ⟨rfl, rfl, rfl⟩

/-- A comparison ends well, or since a listing fails. -/
theorem ending_log? (state : σ) (chunk : Option Chunk) :
    (log? leader settings state chunk).ending = .ok () ∨
      ∃ error, (log? leader settings state chunk).ending = .error (.net error) := by
  cases chunk with
  | none => exact .inl rfl
  | some chunk => exact Comparison.ending_log leader _ _ state

variable {leader settings} {fault : Option DatabaseError} {chunker : Chunker} {item : Item}
  {items : List Item}

/-- **The log of an item and what comes after it**, unless a listing fails before that. -/
theorem logFrom_cons_cases {name : ObjectName} (hname : item.name? = some name) (state : σ) :
    (∃ last rest, rest = logFrom leader settings fault (chunker.following name item) last items ∧
        (logFrom leader settings fault chunker state (item :: items)).ending = rest.ending ∧
        ScanEvent.itemsOf (logFrom leader settings fault chunker state (item :: items)).events =
          item :: ScanEvent.itemsOf rest.events ∧
        ScanEvent.chunksOf (logFrom leader settings fault chunker state (item :: items)).events =
          (chunker.ended name.bucket).toList ++ ScanEvent.chunksOf rest.events ∧
        ScanEvent.skippedIn (logFrom leader settings fault chunker state (item :: items)).events =
          ((chunker.room name.bucket).take name item).skipped +
            ScanEvent.skippedIn rest.events) ∨
      (∃ error, (logFrom leader settings fault chunker state (item :: items)).ending =
          .error (.net error)) ∧
        ScanEvent.itemsOf (logFrom leader settings fault chunker state (item :: items)).events =
          [item] ∧
        ScanEvent.chunksOf (logFrom leader settings fault chunker state (item :: items)).events =
          (chunker.ended name.bucket).toList := by
  obtain ⟨hitems, hchunks, hskipped⟩ :=
    events_log? leader settings state (chunker.ended name.bucket)
  rw [logFrom, Chunker.advance_eq hname]
  dsimp only
  rw [ScanLog.andThen]
  -- The chunk that ends before the item, if one does, is compared first; the item is taken all the
  -- same.
  rcases ending_log? leader settings state (chunker.ended name.bucket) with
    hending | ⟨error, hending⟩
  · refine .inl ⟨(log? leader settings state (chunker.ended name.bucket)).last, _, rfl, ?_⟩
    rw [hending]
    dsimp only [ScanLog.prepend]
    have hfirst : ScanEvent.skippedIn [.taken item,
        .skipped ((chunker.room name.bucket).take name item).takeSkipped.1] =
          ((chunker.room name.bucket).take name item).skipped := Nat.zero_add _
    rw [ScanEvent.itemsOf_append, ScanEvent.itemsOf_append, hitems, ScanEvent.chunksOf_append,
      ScanEvent.chunksOf_append, hchunks, ScanEvent.skippedIn_append, ScanEvent.skippedIn_append,
      hskipped, Nat.zero_add, hfirst]
    exact ⟨rfl, rfl, rfl, rfl⟩
  · refine .inr ⟨⟨error, ?_⟩, ?_⟩
    · rw [hending]
      exact hending
    · rw [hending]
      dsimp only [ScanLog.prepend]
      rw [ScanEvent.itemsOf_append, hitems, ScanEvent.chunksOf_append, hchunks]
      exact ⟨rfl, rfl⟩

/-- The log of an item whose key has no bucket. -/
theorem logFrom_cons_of_not_mem (h : '/' ∉ item.key.toList) (state : σ) :
    logFrom leader settings fault chunker state (item :: items) =
      ⟨[.taken item], .error (.key (.missingBucket item.key)), state⟩ := by
  rw [logFrom, Chunker.advance_of_not_mem h]

/-- **How the items that are taken compare with those of the source**, by how the scan ends. -/
structure TakesFrom (items taken : List Item) (ending : Except ScanError Unit) : Prop where
  /-- They are the first ones. -/
  isPrefix : taken <+: items
  /-- All are taken if the scan comes to its end, or fails to read the source. -/
  all : (ending = .ok () ∨ ∃ error, ending = .error (.database error)) → taken = items
  /-- No key is at fault if the scan comes to its end. -/
  named : ending = .ok () → ∀ item ∈ taken, '/' ∈ item.key.toList
  /-- If a key is at fault, it is that of the last item taken. -/
  malformed : ∀ error, ending = .error (.key error) → ∃ before item, taken = before ++ [item] ∧
    '/' ∉ item.key.toList ∧ ∀ other ∈ before, '/' ∈ other.key.toList

/-- **The items on the log** are the first ones of the source. -/
theorem takesFrom_logFrom {state : σ} :
    TakesFrom items (ScanEvent.itemsOf (logFrom leader settings fault chunker state items).events)
      (logFrom leader settings fault chunker state items).ending := by
  -- By induction on the items. One that has no bucket is taken as well, and is the last.
  induction items generalizing chunker state with
  | nil =>
      cases fault with
      | some error => exact ⟨List.prefix_rfl, fun _ => rfl, nofun, nofun⟩
      | none =>
          rw [logFrom, (events_log? leader settings state chunker.finish.1).1]
          refine ⟨List.prefix_rfl, fun _ => rfl, fun _ => by simp, fun error hkey => ?_⟩
          rcases ending_log? leader settings state chunker.finish.1 with h | ⟨_, h⟩
          · exact nomatch h.symm.trans hkey
          · exact nomatch h.symm.trans hkey
  | cons item items ih =>
      by_cases hslash : '/' ∈ item.key.toList
      · obtain ⟨name, hname⟩ := Item.exists_name?_eq_some_iff.2 hslash
        rcases logFrom_cons_cases hname state with
          ⟨last, rest, rfl, hending, hitems, -, -⟩ | ⟨⟨error, hending⟩, hitems, -⟩
        · obtain ⟨hfirst, hall, hnamed, hmalformed⟩ := @ih (chunker.following name item) last
          rw [hitems, hending]
          refine ⟨(List.prefix_cons_inj _).2 hfirst, fun h => by rw [hall h],
            fun h => List.forall_mem_cons.2 ⟨hslash, hnamed h⟩, fun error h => ?_⟩
          obtain ⟨before, bad, hbefore, hbad, hothers⟩ := hmalformed error h
          exact ⟨item :: before, bad, by rw [hbefore, List.cons_append], hbad,
            List.forall_mem_cons.2 ⟨hslash, hothers⟩⟩
        · rw [hitems, hending]
          exact ⟨⟨items, rfl⟩, by simp, nofun, by simp⟩
      · rw [logFrom_cons_of_not_mem hslash]
        exact ⟨⟨items, rfl⟩, by simp, nofun, fun _ _ => ⟨[], item, rfl, hslash, by simp⟩⟩

/-- The end of a log is no matter of the output. -/
theorem ending_logFrom_ne {state : σ} :
    (logFrom leader settings fault chunker state items).ending ≠ .error .sinkClosed := by
  induction items generalizing chunker state with
  | nil =>
      cases fault with
      | some error => exact nofun
      | none =>
          rw [logFrom]
          rcases ending_log? leader settings state chunker.finish.1 with h | ⟨_, h⟩ <;> rw [h] <;>
            exact nofun
  | cons item items ih =>
      by_cases hslash : '/' ∈ item.key.toList
      · obtain ⟨name, hname⟩ := Item.exists_name?_eq_some_iff.2 hslash
        rcases logFrom_cons_cases hname state with
          ⟨last, rest, rfl, hending, -⟩ | ⟨⟨error, hending⟩, -⟩
        · rw [hending]
          exact ih
        · rw [hending]
          exact nofun
      · rw [logFrom_cons_of_not_mem hslash]
        exact nofun

/-- **The chunks on the log** are the first ones that the source is cut into, and all of them if the
scan comes to its end. -/
theorem chunksOf_logFrom {state : σ} :
    ScanEvent.chunksOf (logFrom leader settings fault chunker state items).events <+:
        chunker.chunks items ∧
      ((logFrom leader settings fault chunker state items).ending = .ok () →
        ScanEvent.chunksOf (logFrom leader settings fault chunker state items).events =
          chunker.chunks items) := by
  -- By induction on the items. The log stops where a listing fails or a key has no bucket, and what
  -- it has until then is the beginning.
  induction items generalizing chunker state with
  | nil =>
      have hchunks : chunker.chunks [] = chunker.finish.1.toList := by
        rw [Chunker.chunks, Chunker.tiles, List.filterMap_map]
        exact List.filterMap_some
      rw [hchunks]
      cases fault with
      | some error => exact ⟨List.nil_prefix, fun h => by cases h⟩
      | none =>
          rw [logFrom, (events_log? leader settings state chunker.finish.1).2.1]
          exact ⟨List.prefix_rfl, fun _ => rfl⟩
  | cons item items ih =>
      by_cases hslash : '/' ∈ item.key.toList
      · obtain ⟨name, hname⟩ := Item.exists_name?_eq_some_iff.2 hslash
        rw [Chunker.chunks_cons hname]
        rcases logFrom_cons_cases hname state with
          ⟨last, rest, rfl, hending, -, hchunks, -⟩ | ⟨⟨error, hending⟩, -, hchunks⟩
        · obtain ⟨hfirst, hall⟩ := @ih (chunker.following name item) last
          rw [hchunks, hending]
          exact ⟨(List.prefix_append_right_inj _).2 hfirst, fun h => congrArg _ (hall h)⟩
        · rw [hchunks, hending]
          exact ⟨List.prefix_append _ _, fun h => by cases h⟩
      · rw [logFrom_cons_of_not_mem hslash]
        exact ⟨List.nil_prefix, fun h => by cases h⟩

end Scan

end Reconcile

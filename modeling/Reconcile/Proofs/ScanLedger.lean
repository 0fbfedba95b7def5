import Reconcile.Proofs.ChunkCount
import Reconcile.Proofs.ScanLog

/-!
# What the counters of scans account for

Scans that are run one after the other count together. Each is entered in a ledger with the counters
that it starts from, and what happens in it, up to the difference that its output refuses, is known
from its log (`ScanRun.counted`, `ScanRun.after_eq`). So the counters are an exact account of the
ledger: of the items taken, of the comparisons started, and of the differences that were delivered
or refused (`ScanRun.accounts_inTurn`).

For a scan that comes to its end there is more to say: every item taken was skipped or was in a
chunk that was compared, and without digests the number of comparisons in a bucket is that of the
chunks that its items fill.

## Main results

* `Scan.skippedIn_logFrom_add`: what becomes of the items of a scan that comes to its end;
* `ScanRun.isExact`: what is exact of one scan;
* `ScanRun.accounts_inTurn`: what the counters account for.
-/

namespace Reconcile

/-! ### Items that are skipped or compared -/

/-- **Every item is skipped or compared**, if a scan comes to its end. -/
theorem Scan.skippedIn_logFrom_add {σ : Type} {leader : Leader σ} {settings : ScanSettings}
    {fault : Option DatabaseError} {chunker : Chunker} {state : σ} {items : List Item}
    (hskipped : chunker.skipped = 0) (hbegun : chunker.bucket = none → chunker.held = #[])
    (hending : (logFrom leader settings fault chunker state items).ending = .ok ()) :
    ScanEvent.skippedIn (logFrom leader settings fault chunker state items).events +
        ((ScanEvent.chunksOf (logFrom leader settings fault chunker state items).events).map
          (·.items.length)).sum =
      chunker.held.size + items.length := by
  -- By induction on the items. What is held counts as taken but not yet compared.
  induction items generalizing chunker state with
  | nil =>
      cases fault with
      | some error => cases hending
      | none =>
          obtain ⟨-, hchunks, hnone⟩ := events_log? leader settings state chunker.finish.1
          rw [logFrom, hchunks, hnone, Chunker.finish, Chunker.flush]
          cases hbucket : chunker.bucket with
          | none => simp [hbegun hbucket]
          | some bucket => simp
  | cons item items ih =>
      by_cases hslash : '/' ∈ item.key.toList
      · obtain ⟨name, hname⟩ := Item.exists_name?_eq_some_iff.2 hslash
        rcases logFrom_cons_cases hname state with
          ⟨last, rest, rfl, hrest, -, hchunks, hnext⟩ | ⟨⟨error, herror⟩, -, -⟩
        · obtain ⟨hroom, hkept⟩ := chunker.length_ended_add name.bucket
          have htake := (chunker.room name.bucket).size_take_add name item
          have hbucket : (chunker.following name item).bucket = some name.bucket :=
            Chunker.bucket_take _ name item
          have hleft := @ih (chunker.following name item) last rfl
            (fun h => by cases hbucket.symm.trans h) (hrest.symm.trans hending)
          have hheld : (chunker.following name item).held =
              ((chunker.room name.bucket).take name item).held := rfl
          rw [hheld] at hleft
          rw [hnext, hchunks, List.map_append, List.sum_append, List.length_cons]
          omega
        · cases herror.symm.trans hending
      · rw [logFrom_cons_of_not_mem hslash] at hending
        cases hending

/-! ### One scan -/

/-- A scan that is to be run: with any leader, with or without digests, and with an output that
receives all differences or only so many. -/
structure ScanJob : Type 1 where
  State : Type
  leader : Leader State
  state : State
  settings : ScanSettings
  digests : Option DigestIndex
  source : ItemSource
  room : Option Nat

namespace ScanJob

/-- Runs a scan that counts on from what has been counted. -/
def run (job : ScanJob) (before : Progress) : Except ScanError Unit × job.State × Output :=
  Scan.run job.leader job.settings job.digests job.source job.state (.start before job.room)

/-- The log of a scan. -/
def log (job : ScanJob) : ScanLog job.State :=
  Scan.log job.leader job.settings job.digests job.source job.state

/-- What happens in a scan, up to the difference that its output refuses. -/
def events (job : ScanJob) : List ScanEvent :=
  ScanEvent.upTo job.room job.log.events

/-- The items that are taken from the source. -/
def taken (job : ScanJob) : List Item :=
  ScanEvent.itemsOf job.events

/-- The chunks whose comparison is started. -/
def compared (job : ScanJob) : List Chunk :=
  ScanEvent.chunksOf job.events

/-- The same scan with an output that receives all differences. -/
def opened (job : ScanJob) : ScanJob :=
  { job with room := none }

end ScanJob

/-- A scan that is run, with what has been counted before it. -/
structure ScanRun : Type 1 where
  job : ScanJob
  before : Progress

namespace ScanRun

/-- How the scan ends. -/
def result (run : ScanRun) : Except ScanError Unit :=
  (run.job.run run.before).1

/-- The differences that are delivered. -/
def delivered (run : ScanRun) : List Difference :=
  (run.job.run run.before).2.2.delivered.toList

/-- What has been counted after it. -/
def after (run : ScanRun) : Progress :=
  (run.job.run run.before).2.2.progress

/-- The difference that could not be delivered. -/
def refused? (run : ScanRun) : Option Difference :=
  match run.result with
  | .error .sinkClosed => (ScanEvent.differencesOf run.job.events).getLast?
  | _ => none

/-- What the scan itself counts. -/
def counted (run : ScanRun) : Progress :=
  (run.job.events.map ScanEvent.count).sum

/-- What a run comes to is what its log says has been done. -/
theorem done (run : ScanRun) :
    run.job.log.Done (.start run.before run.job.room) (run.job.run run.before) :=
  Scan.done_run run.job.leader run.job.settings run.job.digests run.job.source run.job.state _

/-- **A scan counts what happens in it.** -/
theorem after_eq (run : ScanRun) : run.after = run.before + run.counted :=
  run.done.played.1

/-- How a scan ends: as its log does, and then all on the log has happened; or with a difference
that is refused. -/
theorem cases (run : ScanRun) :
    (run.result = run.job.log.ending ∧ run.job.events = run.job.log.events ∧
        run.refused? = none ∧ run.delivered = ScanEvent.differencesOf run.job.events) ∨
      run.result = .error .sinkClosed ∧ ∃ refused, run.refused? = some refused ∧
        ScanEvent.differencesOf run.job.events = run.delivered ++ [refused] := by
  have hending : run.job.log.ending ≠ .error .sinkClosed := Scan.ending_logFrom_ne
  rcases run.done.played.2 with ⟨hresult, hevents, hdelivered⟩ |
    ⟨hresult, given, refused, hgiven, hdelivered⟩
  · have hevents : run.job.events = run.job.log.events := hevents
    have hrefused : run.refused? = none := by
      rw [refused?]
      split
      · next hclosed => exact absurd (hresult.symm.trans hclosed) hending
      · rfl
    refine .inl ⟨hresult, hevents, hrefused, ?_⟩
    rw [hevents]
    exact hdelivered
  · have hresult : run.result = .error .sinkClosed := hresult
    have hgiven : ScanEvent.differencesOf run.job.events = given ++ [refused] := hgiven
    have hdelivered : run.delivered = given := hdelivered
    refine .inr ⟨hresult, refused, ?_, by rw [hgiven, hdelivered]⟩
    rw [refused?, hresult]
    dsimp only
    rw [hgiven, List.getLast?_concat]

/-- The differences that are found are delivered, but for the one that is refused. -/
theorem differencesOf_events (run : ScanRun) :
    ScanEvent.differencesOf run.job.events = run.delivered ++ run.refused?.toList := by
  rcases run.cases with ⟨-, -, hrefused, hdelivered⟩ | ⟨-, refused, hrefused, hfound⟩
  · rw [hrefused, hdelivered, Option.toList_none, List.append_nil]
  · rw [hrefused, hfound, Option.toList_some]

/-- An output that receives all differences refuses none. -/
theorem delivered_opened (run : ScanRun) :
    (ScanRun.mk run.job.opened run.before).delivered =
      ScanEvent.differencesOf run.job.log.events := by
  have hopened := (ScanRun.mk run.job.opened run.before).done.fst_of_open rfl
  rcases (ScanRun.mk run.job.opened run.before).cases with
    ⟨-, hevents, -, hdelivered⟩ | ⟨hclosed, -⟩
  · rw [hdelivered, hevents]
    rfl
  · exact absurd (hopened.symm.trans hclosed) Scan.ending_logFrom_ne

/-- **What is exact of one scan.** -/
structure IsExact (run : ScanRun) : Prop where
  /-- A difference is refused exactly if the scan ends since its output is closed. -/
  isSome_refused?_iff : run.refused?.isSome ↔ run.result = .error .sinkClosed
  /-- The differences that are delivered, and then the one that is refused, are the first ones that
  the scan delivers to an output that receives all. -/
  delivered_isPrefix :
    run.delivered ++ run.refused?.toList <+: (ScanRun.mk run.job.opened run.before).delivered
  /-- The items taken are the first ones of the source: all of them, or those up to a key that is at
  fault. -/
  takesFrom : Scan.TakesFrom run.job.source.items run.job.taken run.result
  /-- The chunks compared are the first ones that the source is cut into, and all of them if the
  scan comes to its end. -/
  compared_isPrefix : run.job.compared <+:
    (Chunker.start run.job.settings.bufferSize run.job.digests).chunks run.job.source.items
  /-- A scan that comes to its end has compared all of them. -/
  compared_eq : run.result = .ok () → run.job.compared =
    (Chunker.start run.job.settings.bufferSize run.job.digests).chunks run.job.source.items
  /-- If the scan comes to its end, every item was skipped or was in a chunk compared. -/
  keysSkipped_add : run.result = .ok () →
    run.after.keysSkipped + (run.job.compared.map (·.items.length)).sum =
      run.before.keysSkipped + run.job.taken.length
  /-- If it comes to its end without digests, and the keys ascend, there were as many comparisons in
  each bucket as chunks that its items fill. -/
  chunksIn_eq : run.result = .ok () → run.job.digests = none →
    AscendingByKey Item.key run.job.source.items → ∀ bucket,
      Chunker.chunksIn bucket run.job.compared =
        Chunker.countIn bucket run.job.source.items ⌈/⌉ max run.job.settings.bufferSize 1

/-- The items taken are known from how the scan ends. -/
theorem takesFrom (run : ScanRun) :
    Scan.TakesFrom run.job.source.items run.job.taken run.result := by
  have htakes : Scan.TakesFrom run.job.source.items (ScanEvent.itemsOf run.job.log.events)
      run.job.log.ending := Scan.takesFrom_logFrom
  rcases run.cases with ⟨hending, hsame, -⟩ | ⟨hclosed, -⟩
  · rw [hending, ScanJob.taken, hsame]
    exact htakes
  · have htaken : run.job.taken <+: ScanEvent.itemsOf run.job.log.events :=
      (ScanEvent.upTo_isPrefix _ _).filterMap _
    rw [hclosed]
    exact ⟨htaken.trans htakes.isPrefix, by simp, nofun, nofun⟩

/-- A scan that comes to its end has done all that is on its log. -/
theorem whole_of_ok {run : ScanRun} (h : run.result = .ok ()) :
    run.job.log.ending = .ok () ∧ run.job.events = run.job.log.events := by
  rcases run.cases with ⟨hending, hsame, -⟩ | ⟨hclosed, -⟩
  · exact ⟨hending.symm.trans h, hsame⟩
  · cases hclosed.symm.trans h

/-- It compares all chunks that the source is cut into. -/
theorem compared_of_ok {run : ScanRun} (h : run.result = .ok ()) : run.job.compared =
    (Chunker.start run.job.settings.bufferSize run.job.digests).chunks run.job.source.items := by
  obtain ⟨hending, hsame⟩ := whole_of_ok h
  rw [ScanJob.compared, hsame]
  exact Scan.chunksOf_logFrom.2 hending

/-- It skips or compares every item. -/
theorem keysSkipped_add_of_ok {run : ScanRun} (h : run.result = .ok ()) :
    run.after.keysSkipped + (run.job.compared.map (·.items.length)).sum =
      run.before.keysSkipped + run.job.taken.length := by
  obtain ⟨hending, hsame⟩ := whole_of_ok h
  have hskipped : ScanEvent.skippedIn run.job.log.events +
      ((ScanEvent.chunksOf run.job.log.events).map (·.items.length)).sum =
        run.job.source.items.length :=
    (Scan.skippedIn_logFrom_add rfl (fun _ => rfl) hending).trans (Nat.zero_add _)
  rw [after_eq, counted, ScanEvent.sum_map_count, run.takesFrom.all (.inl h), ScanJob.compared,
    hsame, Progress.add_def, ← hskipped]
  exact Nat.add_assoc _ _ _

/-- **Every scan is exact**, whatever its leader answers and however it ends. -/
theorem isExact (run : ScanRun) : run.IsExact := by
  have hevents : run.job.events <+: run.job.log.events := ScanEvent.upTo_isPrefix _ _
  constructor
  case isSome_refused?_iff =>
    rcases run.cases with ⟨hending, -, hrefused, -⟩ | ⟨hclosed, refused, hrefused, -⟩
    · rw [hrefused, hending]
      exact iff_of_false nofun Scan.ending_logFrom_ne
    · rw [hrefused]
      exact iff_of_true rfl hclosed
  case delivered_isPrefix =>
    rw [delivered_opened, ← differencesOf_events]
    exact hevents.filterMap _
  case takesFrom => exact run.takesFrom
  case compared_isPrefix => exact (hevents.filterMap _).trans Scan.chunksOf_logFrom.1
  case compared_eq => exact compared_of_ok
  case keysSkipped_add => exact keysSkipped_add_of_ok
  case chunksIn_eq =>
    intro hresult hdigests hascending bucket
    have hnamed := run.takesFrom.named hresult
    rw [run.takesFrom.all (.inl hresult)] at hnamed
    rw [compared_of_ok hresult, hdigests]
    exact Chunker.chunksIn_chunks_start hascending hnamed _ bucket

/-! ### Scans one after the other -/

/-- Scans that are run one after the other, each counting on from the one before it. -/
def inTurn (before : Progress) : List ScanJob → List ScanRun
  | [] => []
  | job :: jobs => ⟨job, before⟩ :: inTurn (job.run before).2.2.progress jobs

/-- What has been counted after scans that are run one after the other. -/
def total (before : Progress) (jobs : List ScanJob) : Progress :=
  jobs.foldl (fun progress job => (job.run progress).2.2.progress) before

/-- **What is counted is what each scan counts.** -/
theorem total_eq (before : Progress) (jobs : List ScanJob) :
    total before jobs = before + ((inTurn before jobs).map counted).sum := by
  induction jobs generalizing before with
  | nil => exact (add_zero before).symm
  | cons job jobs ih =>
      have hafter : (job.run before).2.2.progress = before + counted ⟨job, before⟩ :=
        after_eq ⟨job, before⟩
      rw [inTurn, List.map_cons, List.sum_cons, ← add_assoc, ← hafter]
      exact ih _

end ScanRun

/-- How many differences of a kind have been counted. -/
def Progress.found (progress : Progress) : DifferenceKind → Nat
  | .onlyOnFollower => progress.onlyOnFollower
  | .onlyOnLeader => progress.onlyOnLeader
  | .differingValue => progress.differingValue

namespace Progress

/-- Differences of a kind add up. -/
def foundHom (kind : DifferenceKind) : Progress →+ ℕ where
  toFun progress := progress.found kind
  map_zero' := by cases kind <;> rfl
  map_add' _ _ := by cases kind <;> rfl

/-- Items that are taken add up. -/
def keysScannedHom : Progress →+ ℕ where
  toFun := keysScanned
  map_zero' := rfl
  map_add' _ _ := rfl

/-- Comparisons that are started add up. -/
def rangeQueriesHom : Progress →+ ℕ where
  toFun := rangeQueries
  map_zero' := rfl
  map_add' _ _ := rfl

end Progress

namespace ScanRun

/-- **What the counters account for**, of scans that were run. -/
structure Accounts (runs : List ScanRun) (total : Progress) : Prop where
  /-- Of each kind, the differences that were delivered or refused. -/
  found : ∀ kind, total.found kind = (runs.map fun run =>
    (run.delivered ++ run.refused?.toList).countP (·.kind = kind)).sum
  /-- The items that were taken. -/
  keysScanned : total.keysScanned = (runs.map fun run => run.job.taken.length).sum
  /-- The chunks whose comparison was started. -/
  rangeQueries : total.rangeQueries = (runs.map fun run => run.job.compared.length).sum
  /-- What each run stands for is exact. -/
  isExact : ∀ run ∈ runs, run.IsExact

/-- **What adds up over all that is counted** adds up over the scans. -/
theorem map_total (f : Progress →+ ℕ) {number : ScanRun → ℕ} (h : ∀ run, f run.counted = number run)
    (jobs : List ScanJob) : f (total .zero jobs) = ((inTurn .zero jobs).map number).sum := by
  have hzero : f Progress.zero = 0 := map_zero f
  rw [total_eq, map_add, hzero, Nat.zero_add, map_list_sum, List.map_map]
  exact congrArg List.sum (List.map_congr_left fun run _ => h run)

/-- A run counts the differences it has found, the one that its output refused included. -/
theorem found_counted (run : ScanRun) (kind : DifferenceKind) : run.counted.found kind =
    (run.delivered ++ run.refused?.toList).countP (·.kind = kind) := by
  rw [counted, ScanEvent.sum_map_count, ← differencesOf_events]
  cases kind <;> rfl

/-- A run counts the items that it has taken. -/
theorem keysScanned_counted (run : ScanRun) :
    run.counted.keysScanned = run.job.taken.length := by
  rw [counted, ScanEvent.sum_map_count, ScanJob.taken]

/-- A run counts the ranges that it has compared. -/
theorem rangeQueries_counted (run : ScanRun) :
    run.counted.rangeQueries = run.job.compared.length := by
  rw [counted, ScanEvent.sum_map_count, ScanJob.compared]

/-- **The counters account exactly for the scans that share them**, however each of them ends.

The counters of a run are sums over its log, and those of several runs are sums over the runs, since
each counter adds up (`map_total`). -/
theorem accounts_inTurn (jobs : List ScanJob) :
    Accounts (inTurn .zero jobs) (total .zero jobs) where
  found kind := map_total (Progress.foundHom kind) (fun run => run.found_counted kind) jobs
  keysScanned := map_total Progress.keysScannedHom keysScanned_counted jobs
  rangeQueries := map_total Progress.rangeQueriesHom rangeQueries_counted jobs
  isExact run _ := run.isExact

end ScanRun

end Reconcile

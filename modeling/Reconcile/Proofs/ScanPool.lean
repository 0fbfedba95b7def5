import Reconcile.Proofs.ScanSteps
import Reconcile.Program

/-!
# Scans side by side

The databases of a run are scanned side by side, so many at a time. All scans count into the same
counters and send what they find through one queue, which holds so many differences, to the writer
of the difference file. The writer ends when the queue is empty and nobody is left who could send:
the scans that have been started are over, and no more will be. If a scan fails the others are
stopped.

A `ScanPool` is all of this at one moment, and `ScanPool.Step` is what can happen next, in any
order: each effect of a scan, each of its questions to the leader and each difference that the
writer takes is a step of its own.

What is true of every run is in `ScanPool.IsFaithful`, and `ScanPool.isFaithful_of_unchanging` shows
it if the leader does not change: no run gets stuck before the writer has ended, none goes on for
ever, and one that ends with all scans done leaves in the file an interleaving of what each database
gives when it is scanned alone, with the counters added up. The proof keeps, beside each scan of a
pool, what this scan has counted and sent so far (`ScanPool.Tracks`), so that the rest of the scan
always comes to what the scan alone comes to, and for the end of the run how many steps are left
(`ScanPool.Weighs`).

A scan one after the other, as in `Program.scanAll`, gives one of these interleavings
(`Program.interleaves_scanAll`).
-/

namespace Reconcile

/-! ### Interleavings -/

/-- A list that is made of others, each in its own order: the last element of the whole is the last
one of a part. -/
inductive Interleaves {α : Type} : List (List α) → List α → Prop
  | nil {parts : List (List α)} : (∀ part ∈ parts, part = []) → Interleaves parts []
  | concat {front back : List (List α)} {part all : List α} (x : α) :
      Interleaves (front ++ part :: back) all →
      Interleaves (front ++ (part ++ [x]) :: back) (all ++ [x])

namespace Interleaves

variable {α : Type} {parts : List (List α)} {all : List α}

/-- A part without elements changes nothing. -/
theorem concat_nil (h : Interleaves parts all) : Interleaves (parts ++ [[]]) all := by
  induction h with
  | nil h =>
      refine .nil fun part hpart => ?_
      rcases List.mem_append.1 hpart with hpart | hpart
      · exact h part hpart
      · exact List.mem_singleton.1 hpart
  | @concat front back part all x _ ih =>
      rw [List.append_assoc, List.cons_append] at ih ⊢
      exact .concat x ih

/-- A part goes on. -/
theorem append_last {front : List (List α)} {part : List α}
    (h : Interleaves (front ++ [part]) all) (more : List α) :
    Interleaves (front ++ [part ++ more]) (all ++ more) := by
  induction more generalizing part all with
  | nil => rwa [List.append_nil, List.append_nil]
  | cons x more ih =>
      rw [List.append_cons part, List.append_cons all]
      exact ih (.concat x h)

/-- A part that comes after all others. -/
theorem append (h : Interleaves parts all) (part : List α) :
    Interleaves (parts ++ [part]) (all ++ part) :=
  h.concat_nil.append_last part

/-- The parts together have as many elements as the whole. -/
theorem length_eq (h : Interleaves parts all) : all.length = (parts.map List.length).sum := by
  induction h with
  | @nil parts h =>
      have hzero : ∀ n ∈ parts.map List.length, n = 0 := by
        intro n hn
        obtain ⟨part, hpart, rfl⟩ := List.mem_map.1 hn
        rw [h part hpart, List.length_nil]
      rw [List.sum_eq_zero hzero, List.length_nil]
  | concat x _ ih =>
      simp only [List.map_append, List.map_cons, List.sum_append, List.sum_cons,
        List.length_append, List.length_singleton] at ih ⊢
      omega

end Interleaves

/-- A file grows with its differences. -/
theorem DifferenceFile.write_append (differences more : List Difference) :
    write (differences ++ more) = write differences ++ write more := by
  rw [write, write, write, List.flatMap_append]
  exact List.flatMap_append

/-! ### Pools -/

/-- What bounds the scans of a pool. -/
structure PoolLimits where
  /-- The greatest number of scans that run at a time; 0 counts as 1. -/
  scans : Nat
  /-- The greatest number of differences that wait to be written; 0 counts as 1. -/
  waiting : Nat
  deriving DecidableEq, Repr

/-- How far a scan of a pool has come. -/
inductive ScanPhase where
  /-- It may not run yet. -/
  | waiting
  | running
  /-- It has ended by itself, with a result. -/
  | finished
  /-- It was stopped since another one had failed. -/
  | stopped
  deriving DecidableEq, Repr

/-- A scan of a pool. -/
structure ScanWorker where
  source : ItemSource
  phase : ScanPhase
  /-- The effects that come before it goes on. -/
  pending : List Effect
  point : ScanPoint

/-- Some scans at one moment, with all that they share. -/
structure ScanPool (σ : Type) where
  /-- The sources of the scans that have not been started. -/
  left : List ItemSource
  /-- Whether more scans might be started. -/
  starting : Bool
  /-- The scans that have been started. -/
  workers : List ScanWorker
  leader : σ
  progress : Progress
  /-- The differences that wait to be written. -/
  queue : List Difference
  /-- What the writer has written. -/
  file : List UInt8
  /-- The number of differences that the writer has written. -/
  written : Nat
  /-- Whether the writer has ended. -/
  closed : Bool

namespace ScanWorker

/-- A scan that has just been started. -/
def start (settings : ScanSettings) (source : ItemSource) : ScanWorker :=
  ⟨source, .waiting, [], .reading (.start settings.bufferSize none) source.items⟩

/-- Whether a scan is over, so that it can send nothing any more. -/
def IsOver (worker : ScanWorker) : Prop :=
  worker.phase = .finished ∨ worker.phase = .stopped

/-- A running scan is in no other phase. -/
theorem ne_of_running {worker : ScanWorker} (h : worker.phase = .running) {phase : ScanPhase}
    (hne : ScanPhase.running ≠ phase) : worker.phase ≠ phase :=
  fun hphase => hne (h.symm.trans hphase)

/-- A running scan is not over. -/
theorem not_isOver_of_running {worker : ScanWorker} (h : worker.phase = .running) :
    ¬worker.IsOver :=
  not_or.2 ⟨ne_of_running h (by decide), ne_of_running h (by decide)⟩

/-- Whether a scan has ended by itself, with success. -/
def Succeeded (worker : ScanWorker) : Prop :=
  worker.phase = .finished ∧ worker.point = .ended (.ok ())

/-- Whether a scan has ended by itself, with a failure. -/
def Failed (worker : ScanWorker) : Prop :=
  worker.phase = .finished ∧ ∃ error, worker.point = .ended (.error error)

end ScanWorker

namespace ScanPool

variable {σ : Type}

/-- Before the first scan is started. -/
def start (sources : List ItemSource) (leader : σ) : ScanPool σ :=
  ⟨sources, true, [], leader, .zero, [], [], 0, false⟩

/-- The number of scans that are running. -/
def running (pool : ScanPool σ) : Nat :=
  pool.workers.countP (·.phase = .running)

/-- **What can happen next** in a pool. A scan may go on whenever nothing holds it back: the number
of running scans when it starts, the room in the queue when it sends. -/
inductive Step (leader : Leader σ) (settings : ScanSettings) (limits : PoolLimits) :
    ScanPool σ → ScanPool σ → Prop
  /-- A scan is started. It does not run yet. -/
  | start {pool : ScanPool σ} {source : ItemSource} {left : List ItemSource} :
      pool.left = source :: left →
      Step leader settings limits pool
        { pool with left, workers := pool.workers ++ [.start settings source] }
  /-- No more scans will be started. -/
  | startNoMore {pool : ScanPool σ} : pool.left = [] → pool.starting = true →
      Step leader settings limits pool { pool with starting := false }
  /-- A scan is let run. -/
  | run {pool : ScanPool σ} {front back : List ScanWorker} {worker : ScanWorker} :
      pool.workers = front ++ worker :: back → worker.phase = .waiting →
      pool.running < max limits.scans 1 →
      Step leader settings limits pool
        { pool with workers := front ++ { worker with phase := .running } :: back }
  /-- A scan counts. -/
  | count {pool : ScanPool σ} {front back : List ScanWorker} {worker : ScanWorker}
      {progress : Progress} {pending : List Effect} :
      pool.workers = front ++ worker :: back → worker.phase = .running →
      worker.pending = .count progress :: pending →
      Step leader settings limits pool
        { pool with
          workers := front ++ { worker with pending } :: back
          progress := pool.progress + progress }
  /-- A scan sends a difference to the writer. -/
  | send {pool : ScanPool σ} {front back : List ScanWorker} {worker : ScanWorker}
      {difference : Difference} {pending : List Effect} :
      pool.workers = front ++ worker :: back → worker.phase = .running →
      worker.pending = .deliver difference :: pending →
      pool.queue.length < max limits.waiting 1 →
      Step leader settings limits pool
        { pool with
          workers := front ++ { worker with pending } :: back
          queue := pool.queue ++ [difference] }
  /-- A scan goes on to its next effects. -/
  | goOn {pool : ScanPool σ} {front back : List ScanWorker} {worker : ScanWorker}
      {effects : List Effect} {point : ScanPoint} {next : σ} :
      pool.workers = front ++ worker :: back → worker.phase = .running → worker.pending = [] →
      (∀ result, worker.point ≠ .ended result) →
      worker.point.next leader settings worker.source.fault pool.leader =
        ((effects, point), next) →
      Step leader settings limits pool
        { pool with
          workers := front ++ { worker with pending := effects, point } :: back
          leader := next }
  /-- A scan is over. -/
  | finish {pool : ScanPool σ} {front back : List ScanWorker} {worker : ScanWorker}
      {result : Except ScanError Unit} :
      pool.workers = front ++ worker :: back → worker.phase = .running → worker.pending = [] →
      worker.point = .ended result →
      Step leader settings limits pool
        { pool with workers := front ++ { worker with phase := .finished } :: back }
  /-- A scan is stopped, since another one has failed. -/
  | stop {pool : ScanPool σ} {front back : List ScanWorker} {worker : ScanWorker} :
      pool.workers = front ++ worker :: back → ¬worker.IsOver →
      (∃ other ∈ pool.workers, other.Failed) → pool.starting = false →
      Step leader settings limits pool
        { pool with workers := front ++ { worker with phase := .stopped } :: back }
  /-- The writer takes a difference and writes its line. -/
  | write {pool : ScanPool σ} {difference : Difference} {queue : List Difference} :
      pool.queue = difference :: queue → pool.closed = false →
      Step leader settings limits pool
        { pool with
          queue
          file := pool.file ++ DifferenceFile.write [difference]
          written := pool.written + 1 }
  /-- The writer ends. -/
  | close {pool : ScanPool σ} :
      pool.queue = [] → pool.starting = false → (∀ worker ∈ pool.workers, worker.IsOver) →
      pool.closed = false →
      Step leader settings limits pool { pool with closed := true }

/-- What a number of steps may lead to. -/
inductive Run (leader : Leader σ) (settings : ScanSettings) (limits : PoolLimits)
    (pool : ScanPool σ) : Nat → ScanPool σ → Prop
  | refl : Run leader settings limits pool 0 pool
  | tail {n : Nat} {next after : ScanPool σ} : Run leader settings limits pool n next →
      Step leader settings limits next after → Run leader settings limits pool (n + 1) after

end ScanPool

/-! ### A scan of a pool comes to what it comes to alone -/

/-- What a scan of a source gives if nobody else scans. -/
def Scan.alone {σ : Type} (leader : Leader σ) (settings : ScanSettings) (state : σ)
    (source : ItemSource) : Except ScanError Unit × σ × Output :=
  Scan.run leader settings none source state (.start .zero none)

namespace ScanWorker

variable {σ : Type} {leader : Leader σ} {Holds : σ → Prop} {settings : ScanSettings}
  {worker : ScanWorker} {output : Output}

/-- The rest of a scan. -/
def resume (leader : Leader σ) (settings : ScanSettings) (worker : ScanWorker) (state : σ)
    (output : Output) : Except ScanError Unit × σ × Output :=
  worker.point.resume leader settings worker.source.fault state (output.performAll worker.pending)

/-- Whether the rest of a scan comes to what the scan alone comes to, if it has counted and sent so
much so far. -/
structure OnTrack (leader : Leader σ) (settings : ScanSettings) (Holds : σ → Prop)
    (worker : ScanWorker) (output : Output) : Prop where
  /-- The output receives all. -/
  room_eq : output.room = none
  /-- What is left leads to what the scan does alone. -/
  agrees : ∀ state, Holds state → ScanAgrees Holds (worker.resume leader settings state output)
    (Scan.alone leader settings state worker.source)

/-- A scan that has just been started is on track. -/
theorem onTrack_start (h : leader.Unchanging Holds) (source : ItemSource) :
    OnTrack leader settings Holds (.start settings source) (.start .zero none) :=
  ⟨rfl, fun _ hstate => h.agrees_resume settings source.fault hstate hstate _ _⟩

/-- So is one that is at the same point, whatever its phase. -/
theorem OnTrack.inPhase (h : OnTrack leader settings Holds worker output) (phase : ScanPhase) :
    OnTrack leader settings Holds { worker with phase } output :=
  ⟨h.room_eq, h.agrees⟩

/-- An effect keeps a scan on track. -/
theorem OnTrack.perform (h : OnTrack leader settings Holds worker output) {effect : Effect}
    {pending : List Effect} (hpending : worker.pending = effect :: pending) :
    OnTrack leader settings Holds { worker with pending } (output.perform effect) := by
  refine ⟨(Output.room_perform output effect).trans h.room_eq, fun state hstate => ?_⟩
  have hagrees := h.agrees state hstate
  rw [resume, hpending] at hagrees
  exact hagrees

/-- **Going on keeps a scan on track**, whatever others have asked the leader before. -/
theorem OnTrack.goOn (hleader : leader.Unchanging Holds)
    (h : OnTrack leader settings Holds worker output) (hpending : worker.pending = [])
    {state next : σ} (hstate : Holds state) {effects : List Effect} {point : ScanPoint}
    (hnext : worker.point.next leader settings worker.source.fault state =
      ((effects, point), next)) :
    OnTrack leader settings Holds { worker with pending := effects, point } output := by
  refine ⟨h.room_eq, fun other hother => ?_⟩
  have hstep :=
    ScanPoint.resume_next leader settings worker.source.fault worker.point state h.room_eq
  have hholds := hleader.holds_of_next hstate hnext
  rw [hnext] at hstep
  have hsame : ScanAgrees Holds
      (point.resume leader settings worker.source.fault other (output.performAll effects))
      (worker.point.resume leader settings worker.source.fault state output) :=
    hstep ▸ hleader.agrees_resume settings _ hother hholds point _
  have hback :=
    hleader.agrees_resume settings worker.source.fault hstate hother worker.point output
  have hagrees := h.agrees other hother
  rw [resume, hpending] at hagrees
  exact (hsame.trans hback).trans hagrees

/-- A scan that has ended has come to what it comes to alone. -/
theorem OnTrack.alone_eq (h : OnTrack leader settings Holds worker output)
    (hpending : worker.pending = []) {result : Except ScanError Unit}
    (hpoint : worker.point = .ended result) {state : σ} (hstate : Holds state) :
    (Scan.alone leader settings state worker.source).1 = result ∧
      (Scan.alone leader settings state worker.source).2.2 = output := by
  have hagrees := h.agrees state hstate
  rw [resume, hpending, hpoint] at hagrees
  exact ⟨hagrees.result_eq.symm, hagrees.output_eq.symm⟩

end ScanWorker

namespace ScanPool

variable {σ : Type} {leader : Leader σ} {Holds : σ → Prop} {settings : ScanSettings}
  {limits : PoolLimits} {sources : List ItemSource}

/-- **What is true of a pool at any moment**, with the scans that have been started and what each of
them has counted and sent. -/
structure Tracks (leader : Leader σ) (settings : ScanSettings) (Holds : σ → Prop)
    (sources : List ItemSource) (tracked : List (ScanWorker × Output)) (pool : ScanPool σ) :
    Prop where
  /-- Each scan of the pool is tracked. -/
  workers_eq : pool.workers = tracked.map Prod.fst
  /-- Each source has been started or is left. -/
  sources_eq : tracked.map (·.1.source) ++ pool.left = sources
  /-- The leader is as it is supposed to be. -/
  holds : Holds pool.leader
  /-- Each scan has done the beginning of what it does alone. -/
  onTrack : ∀ t ∈ tracked, t.1.OnTrack leader settings Holds t.2
  /-- The counters add up what the scans have counted. -/
  progress_eq : pool.progress = (tracked.map (·.2.progress)).sum
  /-- What was sent has been written or waits for it. -/
  sent : ∃ received, Interleaves (tracked.map (·.2.delivered.toList)) (received ++ pool.queue) ∧
    pool.file = DifferenceFile.write received ∧ pool.written = received.length
  /-- A scan that has finished has nothing left to do. -/
  ended : ∀ t ∈ tracked, t.1.phase = .finished →
    t.1.pending = [] ∧ ∃ result, t.1.point = .ended result
  /-- A scan is stopped only if another one has failed. -/
  stopped : ∀ t ∈ tracked, t.1.phase = .stopped → ∃ other ∈ tracked, other.1.Failed
  /-- The starting ends once no source is left. -/
  left_eq : pool.starting = false → pool.left = []
  /-- The writer ends last, with an empty queue. -/
  closed : pool.closed = true →
    pool.starting = false ∧ pool.queue = [] ∧ ∀ t ∈ tracked, t.1.IsOver

/-- A pool that has just been set up has started no scan. -/
theorem tracks_start {state : σ} (hstate : Holds state) (sources : List ItemSource) :
    Tracks leader settings Holds sources [] (start sources state) := by
  refine ⟨rfl, rfl, hstate, by simp, rfl, ⟨[], .nil (by simp), rfl, rfl⟩, by simp, by simp, ?_, ?_⟩
  · exact nofun
  · exact nofun

section Replace

variable {before after : List (ScanWorker × Output)} {worker worker' : ScanWorker}
  {output output' : Output} {pool pool' : ScanPool σ}

/-- A scan of a pool, with what is kept beside it. -/
theorem Tracks.exists_split {tracked : List (ScanWorker × Output)} {front back : List ScanWorker}
    (h : Tracks leader settings Holds sources tracked pool)
    (hworkers : pool.workers = front ++ worker :: back) :
    ∃ before output after, tracked = before ++ (worker, output) :: after ∧
      front = before.map Prod.fst ∧ back = after.map Prod.fst := by
  obtain ⟨before, rest, rfl, hfront, hrest⟩ :=
    List.map_eq_append_iff.1 (h.workers_eq.symm.trans hworkers)
  obtain ⟨t, after, rfl, hworker, hback⟩ := List.map_eq_cons_iff.1 hrest
  exact ⟨before, t.2, after, by rw [← hworker], hfront.symm, hback.symm⟩

/-- **One scan of a pool goes on**, and all that has to be shown of it. -/
theorem Tracks.replace
    (h : Tracks leader settings Holds sources (before ++ (worker, output) :: after) pool)
    (hactive : ¬worker.IsOver)
    (hworkers : pool'.workers = before.map Prod.fst ++ worker' :: after.map Prod.fst)
    (hleft : pool'.left = pool.left) (hstarting : pool'.starting = pool.starting)
    (hclosed : pool'.closed = pool.closed) (hholds : Holds pool'.leader)
    (hsource : worker'.source = worker.source)
    (htrack : worker'.OnTrack leader settings Holds output')
    (hended : worker'.phase = .finished →
      worker'.pending = [] ∧ ∃ result, worker'.point = .ended result)
    (hstopped : worker'.phase = .stopped →
      ∃ other ∈ before ++ (worker, output) :: after, other.1.Failed)
    (hprogress : pool'.progress =
      ((before ++ (worker', output') :: after).map (·.2.progress)).sum)
    (hsent : ∃ received, Interleaves
        ((before ++ (worker', output') :: after).map (·.2.delivered.toList))
        (received ++ pool'.queue) ∧
      pool'.file = DifferenceFile.write received ∧ pool'.written = received.length) :
    Tracks leader settings Holds sources (before ++ (worker', output') :: after) pool' := by
  -- the scan has not failed before, so what has failed is another one
  have hfailed : (∃ other ∈ before ++ (worker, output) :: after, other.1.Failed) →
      ∃ other ∈ before ++ (worker', output') :: after, other.1.Failed := by
    rintro ⟨other, hother, hfails⟩
    refine ⟨other, ?_, hfails⟩
    rw [List.mem_append, List.mem_cons] at hother ⊢
    refine hother.imp_right fun hother => .inr (hother.resolve_left ?_)
    rintro rfl
    exact hactive (.inl hfails.1)
  have hmem : ∀ t ∈ before ++ (worker', output') :: after,
      t = (worker', output') ∨ t ∈ before ++ (worker, output) :: after := by
    intro t ht
    rw [List.mem_append, List.mem_cons] at ht ⊢
    rcases ht with ht | rfl | ht
    · exact .inr (.inl ht)
    · exact .inl rfl
    · exact .inr (.inr (.inr ht))
  refine ⟨?_, ?_, hholds, fun t ht => ?_, hprogress, hsent, fun t ht => ?_, fun t ht hphase => ?_,
    fun hno => ?_, fun hyes => ?_⟩
  · rw [hworkers, List.map_append, List.map_cons]
  · rw [hleft, ← h.sources_eq]
    simp only [List.map_append, List.map_cons, hsource]
  · rcases hmem t ht with rfl | hold
    · exact htrack
    · exact h.onTrack t hold
  · rcases hmem t ht with rfl | hold
    · exact hended
    · exact h.ended t hold
  · rcases hmem t ht with rfl | hold
    · exact hfailed (hstopped hphase)
    · exact hfailed (h.stopped t hold hphase)
  · rw [hleft]
    exact h.left_eq (hstarting ▸ hno)
  · have hover := (h.closed (hclosed ▸ hyes)).2.2 _ (List.mem_append_right _ List.mem_cons_self)
    exact absurd hover hactive

/-- One scan of a pool goes on and is running as before. -/
theorem Tracks.replace_running {pending : List Effect} {point : ScanPoint}
    (h : Tracks leader settings Holds sources (before ++ (worker, output) :: after) pool)
    (hphase : worker.phase = .running)
    (hworkers : pool'.workers =
      before.map Prod.fst ++ { worker with pending, point } :: after.map Prod.fst)
    (hleft : pool'.left = pool.left) (hstarting : pool'.starting = pool.starting)
    (hclosed : pool'.closed = pool.closed) (hholds : Holds pool'.leader)
    (htrack : ScanWorker.OnTrack leader settings Holds { worker with pending, point } output')
    (hprogress : pool'.progress =
      ((before ++ ({ worker with pending, point }, output') :: after).map (·.2.progress)).sum)
    (hsent : ∃ received, Interleaves
        ((before ++ ({ worker with pending, point }, output') :: after).map
          (·.2.delivered.toList)) (received ++ pool'.queue) ∧
      pool'.file = DifferenceFile.write received ∧ pool'.written = received.length) :
    Tracks leader settings Holds sources
      (before ++ ({ worker with pending, point }, output') :: after) pool' :=
  h.replace (ScanWorker.not_isOver_of_running hphase) hworkers hleft hstarting hclosed hholds rfl
    htrack (fun hover => absurd hover (ScanWorker.ne_of_running hphase (by decide)))
    (fun hover => absurd hover (ScanWorker.ne_of_running hphase (by decide))) hprogress hsent

end Replace

/-- **One more scan is started**, which has counted and sent nothing. -/
theorem Tracks.concat_start (hleader : leader.Unchanging Holds)
    {tracked : List (ScanWorker × Output)} {pool : ScanPool σ} {source : ItemSource}
    {left : List ItemSource} (h : Tracks leader settings Holds sources tracked pool)
    (hleft : pool.left = source :: left) :
    Tracks leader settings Holds sources
      (tracked ++ [(.start settings source, .start .zero none)])
      { pool with left, workers := pool.workers ++ [.start settings source] } := by
  obtain ⟨received, hsent, hwritten⟩ := h.sent
  have hmem : ∀ t ∈ tracked ++ [(ScanWorker.start settings source, Output.start .zero none)],
      t ∈ tracked ∨ t = (.start settings source, .start .zero none) := fun t ht =>
    (List.mem_append.1 ht).imp_right List.mem_singleton.1
  -- While a source is left, the pool has neither ended the starting nor closed.
  have hopen : pool.left ≠ [] := hleft ▸ List.cons_ne_nil _ _
  refine ⟨?_, ?_, h.holds, ?_, ?_, ⟨received, ?_, hwritten⟩, ?_, ?_,
    fun hno => absurd (h.left_eq hno) hopen,
    fun hclosed => absurd (h.left_eq (h.closed hclosed).1) hopen⟩
  · rw [List.map_append, ← h.workers_eq]
    rfl
  · rw [← h.sources_eq, hleft, List.map_append, List.append_assoc]
    rfl
  · intro t ht
    rcases hmem t ht with hold | rfl
    · exact h.onTrack t hold
    · exact ScanWorker.onTrack_start hleader source
  · rw [List.map_append, List.sum_append, ← h.progress_eq]
    exact (add_zero _).symm
  · rw [List.map_append]
    exact hsent.concat_nil
  · intro t ht hphase
    rcases hmem t ht with hold | rfl
    · exact h.ended t hold hphase
    · cases hphase
  · intro t ht hphase
    rcases hmem t ht with hold | rfl
    · obtain ⟨other, hother, hfailed⟩ := h.stopped t hold hphase
      exact ⟨other, List.mem_append_left _ hother, hfailed⟩
    · cases hphase

/-- **A step keeps track.** -/
theorem Tracks.step (hleader : leader.Unchanging Holds) {tracked : List (ScanWorker × Output)}
    {pool after : ScanPool σ} (h : Tracks leader settings Holds sources tracked pool)
    (hstep : Step leader settings limits pool after) :
    ∃ tracked', Tracks leader settings Holds sources tracked' after := by
  -- One case per step. A step of a scan replaces its entry in the list; the others are untouched.
  cases hstep with
  | start hleft => exact ⟨_, h.concat_start hleader hleft⟩
  | startNoMore hleft _ =>
      exact ⟨tracked, { h with
        left_eq := fun _ => hleft
        closed := fun hclosed => ⟨rfl, (h.closed hclosed).2⟩ }⟩
  | @run front back worker hworkers hphase _ =>
      obtain ⟨before, output, rest, rfl, rfl, rfl⟩ := h.exists_split hworkers
      have htrack := (h.onTrack _ (List.mem_append_right _ List.mem_cons_self)).inPhase .running
      refine ⟨_, h.replace ?_ rfl rfl rfl rfl h.holds rfl htrack (fun hover => ?_)
        (fun hover => ?_) ?_ ?_⟩
      · rintro (hover | hover) <;> cases hphase.symm.trans hover
      · cases hover
      · cases hover
      · simpa using h.progress_eq
      · simpa using h.sent
  | @count front back worker progress pending hworkers hphase hpending =>
      obtain ⟨before, output, rest, rfl, rfl, rfl⟩ := h.exists_split hworkers
      have htrack := (h.onTrack _ (List.mem_append_right _ List.mem_cons_self)).perform hpending
      refine ⟨_, h.replace_running hphase rfl rfl rfl rfl h.holds htrack ?_ ?_⟩
      · have hprogress := h.progress_eq
        simp only [List.map_append, List.map_cons, List.sum_append, List.sum_cons,
          Output.perform] at hprogress ⊢
        rw [hprogress]
        ac_rfl
      · simpa [Output.perform] using h.sent
  | @send front back worker difference pending hworkers hphase hpending _ =>
      obtain ⟨before, output, rest, rfl, rfl, rfl⟩ := h.exists_split hworkers
      have htrack := (h.onTrack _ (List.mem_append_right _ List.mem_cons_self)).perform hpending
      obtain ⟨received, hsent, hwritten⟩ := h.sent
      refine ⟨_, h.replace_running hphase rfl rfl rfl rfl h.holds htrack ?_
        ⟨received, ?_, hwritten⟩⟩
      · simpa [Output.perform] using h.progress_eq
      · -- the difference that is sent goes to the end of the queue and of what its own scan has
        -- sent
        rw [List.map_append, List.map_cons, ← List.append_assoc, Output.perform, Array.toList_push]
        rw [List.map_append, List.map_cons] at hsent
        exact .concat difference hsent
  | @goOn front back worker effects point next hworkers hphase hpending _ hnext =>
      obtain ⟨before, output, rest, rfl, rfl, rfl⟩ := h.exists_split hworkers
      have htrack := (h.onTrack _ (List.mem_append_right _ List.mem_cons_self)).goOn hleader
        hpending h.holds hnext
      have hholds := hleader.holds_of_next h.holds hnext
      refine ⟨_, h.replace_running hphase rfl rfl rfl rfl hholds htrack ?_ ?_⟩
      · simpa using h.progress_eq
      · simpa using h.sent
  | @finish front back worker result hworkers hphase hpending hpoint =>
      obtain ⟨before, output, rest, rfl, rfl, rfl⟩ := h.exists_split hworkers
      have htrack := (h.onTrack _ (List.mem_append_right _ List.mem_cons_self)).inPhase .finished
      refine ⟨_, h.replace (ScanWorker.not_isOver_of_running hphase) rfl rfl rfl rfl h.holds rfl
        htrack (fun _ => ⟨hpending, result, hpoint⟩) (fun hover => ?_) ?_ ?_⟩
      · cases hover
      · simpa using h.progress_eq
      · simpa using h.sent
  | @stop front back worker hworkers hactive hfailed _ =>
      obtain ⟨before, output, rest, rfl, rfl, rfl⟩ := h.exists_split hworkers
      have htrack := (h.onTrack _ (List.mem_append_right _ List.mem_cons_self)).inPhase .stopped
      refine ⟨_, h.replace hactive rfl rfl rfl rfl h.holds rfl htrack (fun hover => ?_)
        (fun _ => ?_) ?_ ?_⟩
      · cases hover
      · -- a scan is stopped only because another one has failed, which is still there to be named
        obtain ⟨other, hother, hfails⟩ := hfailed
        rw [h.workers_eq] at hother
        obtain ⟨t, ht, rfl⟩ := List.mem_map.1 hother
        exact ⟨t, ht, hfails⟩
      · simpa using h.progress_eq
      · simpa using h.sent
  | @write difference queue hqueue hopen =>
      obtain ⟨received, hsent, hfile, hwritten⟩ := h.sent
      refine ⟨tracked, { h with
        sent := ⟨received ++ [difference], ?_, ?_, ?_⟩
        closed := fun hclosed => absurd (hopen.symm.trans hclosed) Bool.false_ne_true }⟩
      · rw [hqueue, List.append_cons] at hsent
        exact hsent
      · rw [hfile, DifferenceFile.write_append]
      · rw [hwritten, List.length_append, List.length_singleton]
  | close hqueue hstarting hover _ =>
      refine ⟨tracked, { h with closed := fun _ => ⟨hstarting, hqueue, fun t ht => hover _ ?_⟩ }⟩
      rw [h.workers_eq]
      exact List.mem_map_of_mem ht

/-- **Whatever steps a pool makes**, what each of its scans has counted and sent can be told. -/
theorem Tracks.run (hleader : leader.Unchanging Holds) {state : σ} (hstate : Holds state) {n : Nat}
    {pool : ScanPool σ} (hrun : Run leader settings limits (start sources state) n pool) :
    ∃ tracked, Tracks leader settings Holds sources tracked pool := by
  induction hrun with
  | refl => exact ⟨[], tracks_start hstate sources⟩
  | tail _ hstep ih =>
      obtain ⟨tracked, htracked⟩ := ih
      exact htracked.step hleader hstep

end ScanPool

/-! ### Runs end -/

namespace ScanWorker

variable {σ : Type} {leader : Leader σ} {Holds : σ → Prop} {settings : ScanSettings}

/-- A bound on the steps that a scan of a pool still makes, with two for each effect: a difference
that is sent has to be written as well. -/
inductive Weighs (leader : Leader σ) (settings : ScanSettings) (Holds : σ → Prop)
    (worker : ScanWorker) : Nat → Prop
  | waiting {n : Nat} : worker.phase = .waiting →
      ScanPoint.Lasts leader settings worker.source.fault Holds worker.pending worker.point n →
      Weighs leader settings Holds worker (2 * n + 2)
  | running {n : Nat} : worker.phase = .running →
      ScanPoint.Lasts leader settings worker.source.fault Holds worker.pending worker.point n →
      Weighs leader settings Holds worker (2 * n + 1)
  | done : worker.IsOver → Weighs leader settings Holds worker 0

/-- The bound for a running scan has two steps for each effect that is left and one for the end. -/
theorem Weighs.exists_of_running {worker : ScanWorker} {n : Nat}
    (h : worker.Weighs leader settings Holds n) (hphase : worker.phase = .running) :
    ∃ m, n = 2 * m + 1 ∧
      ScanPoint.Lasts leader settings worker.source.fault Holds worker.pending worker.point m := by
  cases h with
  | waiting hwaiting => cases hphase.symm.trans hwaiting
  | running _ hlasts => exact ⟨_, rfl, hlasts⟩
  | done hover => exact absurd hover (not_isOver_of_running hphase)

/-- A scan that is yet to start has a bound. -/
theorem exists_weighs_start (h : leader.Unchanging Holds) (settings : ScanSettings) {state : σ}
    (hstate : Holds state) (source : ItemSource) :
    ∃ n, Weighs leader settings Holds (.start settings source) n := by
  obtain ⟨n, hn⟩ := h.exists_lasts_reading hstate settings source.fault
    (.start settings.bufferSize none) source.items
  exact ⟨_, .waiting rfl hn⟩

end ScanWorker

namespace ScanPool

variable {σ : Type} {leader : Leader σ} {Holds : σ → Prop} {settings : ScanSettings}
  {limits : PoolLimits}

/-- **A bound on the steps that are left** to a pool: those of the scans, one for each that is to be
started, one for each difference that waits, one for the end of the starting and one for that of the
writer. -/
structure Weighs (leader : Leader σ) (settings : ScanSettings) (Holds : σ → Prop)
    (pool : ScanPool σ) (total : Nat) : Prop where
  /-- The leader is as it is supposed to be. -/
  holds : Holds pool.leader
  /-- Each scan has a bound, and the total adds these up with the other steps. -/
  exists_eq : ∃ (weighed : List (ScanWorker × Nat)) (future : List (ItemSource × Nat)),
    pool.workers = weighed.map Prod.fst ∧ (∀ t ∈ weighed, t.1.Weighs leader settings Holds t.2) ∧
    pool.left = future.map Prod.fst ∧
    (∀ t ∈ future, ScanWorker.Weighs leader settings Holds (.start settings t.1) t.2) ∧
    total = (weighed.map Prod.snd).sum + (future.map fun t => t.2 + 1).sum + pool.queue.length +
      pool.starting.toNat + (!pool.closed).toNat

/-- Any pool that has just been set up has a bound. -/
theorem exists_weighs_start (hleader : leader.Unchanging Holds) (settings : ScanSettings)
    {state : σ} (hstate : Holds state) (sources : List ItemSource) :
    ∃ total, Weighs leader settings Holds (start sources state) total := by
  have hfuture : ∃ future : List (ItemSource × Nat), sources = future.map Prod.fst ∧
      ∀ t ∈ future, ScanWorker.Weighs leader settings Holds (.start settings t.1) t.2 := by
    induction sources with
    | nil => exact ⟨[], rfl, by simp⟩
    | cons source sources ih =>
        obtain ⟨future, rfl, hfuture⟩ := ih
        obtain ⟨n, hn⟩ := ScanWorker.exists_weighs_start hleader settings hstate source
        exact ⟨(source, n) :: future, rfl, List.forall_mem_cons.2 ⟨hn, hfuture⟩⟩
  obtain ⟨future, hsources, hfuture⟩ := hfuture
  exact ⟨_, hstate, [], future, rfl, by simp, hsources, hfuture, rfl⟩

/-- One scan of a pool makes a step, and all that has to be shown of it: it weighs less, by more
than what the queue gets. -/
theorem Weighs.replace {pool pool' : ScanPool σ} {total : Nat} {front back : List ScanWorker}
    {worker worker' : ScanWorker} (h : Weighs leader settings Holds pool total)
    (hworkers : pool.workers = front ++ worker :: back)
    (hworkers' : pool'.workers = front ++ worker' :: back) (hleft : pool'.left = pool.left)
    (hstarting : pool'.starting = pool.starting) (hclosed : pool'.closed = pool.closed)
    (hholds : Holds pool'.leader)
    (hless : ∀ n, worker.Weighs leader settings Holds n →
      ∃ m, worker'.Weighs leader settings Holds m ∧
        m + pool'.queue.length < n + pool.queue.length) :
    ∃ less < total, Weighs leader settings Holds pool' less := by
  obtain ⟨weighed, future, hweighed, hall, hfuture, hstart, rfl⟩ := h.exists_eq
  obtain ⟨before, rest, rfl, rfl, hrest⟩ :=
    List.map_eq_append_iff.1 (hweighed.symm.trans hworkers)
  obtain ⟨t, after, rfl, rfl, rfl⟩ := List.map_eq_cons_iff.1 hrest
  obtain ⟨m, hm, hlt⟩ := hless t.2 (hall t (List.mem_append_right _ List.mem_cons_self))
  refine ⟨_, ?_, hholds, before ++ (worker', m) :: after, future, ?_, fun other hother => ?_, ?_,
    hstart, rfl⟩
  · simp only [hstarting, hclosed, List.map_append, List.map_cons, List.sum_append, List.sum_cons]
    omega
  · rw [hworkers', List.map_append, List.map_cons]
  · rw [List.mem_append, List.mem_cons] at hother
    rcases hother with hother | rfl | hother
    · exact hall other (List.mem_append_left _ hother)
    · exact hm
    · exact hall other (List.mem_append_right _ (List.mem_cons_of_mem _ hother))
  · rw [hleft, hfuture]

/-- **Each step lowers the bound.** -/
theorem Weighs.step (hleader : leader.Unchanging Holds) {pool after : ScanPool σ} {total : Nat}
    (h : Weighs leader settings Holds pool total) (hstep : Step leader settings limits pool after) :
    ∃ less < total, Weighs leader settings Holds after less := by
  -- A scan loses a step of its own with each step it makes, and what it sends costs one step more.
  cases hstep with
  | @start source left hleft =>
      obtain ⟨weighed, future, hweighed, hall, hfuture, hstart, rfl⟩ := h.exists_eq
      obtain ⟨t, future, rfl, rfl, rfl⟩ := List.map_eq_cons_iff.1 (hfuture.symm.trans hleft)
      obtain ⟨hfirst, hrest⟩ := List.forall_mem_cons.1 hstart
      refine ⟨_, ?_, h.holds, weighed ++ [(.start settings t.1, t.2)], future, ?_, ?_, rfl, hrest,
        rfl⟩
      · simp only [List.map_append, List.map_cons, List.map_nil, List.sum_append, List.sum_cons,
          List.sum_nil]
        omega
      · rw [hweighed, List.map_append]
        rfl
      · exact List.forall_mem_append.2 ⟨hall, List.forall_mem_singleton.2 hfirst⟩
  | startNoMore _ hstarting =>
      obtain ⟨weighed, future, hweighed, hall, hfuture, hstart, rfl⟩ := h.exists_eq
      refine ⟨_, ?_, h.holds, weighed, future, hweighed, hall, hfuture, hstart, rfl⟩
      simp only [hstarting, Bool.toNat_true, Bool.toNat_false]
      omega
  | @run front back worker hworkers hphase _ =>
      refine h.replace hworkers rfl rfl rfl rfl h.holds fun n hn => ?_
      cases hn with
      | @waiting n _ hlasts => exact ⟨2 * n + 1, .running rfl hlasts, by dsimp only; omega⟩
      | running hrunning => cases hphase.symm.trans hrunning
      | done hover => rcases hover with hover | hover <;> cases hphase.symm.trans hover
  | @count front back worker progress pending hworkers hphase hpending =>
      refine h.replace hworkers rfl rfl rfl rfl h.holds fun n hn => ?_
      obtain ⟨m, rfl, hlasts⟩ := hn.exists_of_running hphase
      rw [hpending] at hlasts
      obtain ⟨k, rfl, hrest⟩ := hlasts.exists_of_cons
      exact ⟨2 * k + 1, .running hphase hrest, by dsimp only; omega⟩
  | @send front back worker difference pending hworkers hphase hpending _ =>
      refine h.replace hworkers rfl rfl rfl rfl h.holds fun n hn => ?_
      obtain ⟨m, rfl, hlasts⟩ := hn.exists_of_running hphase
      rw [hpending] at hlasts
      obtain ⟨k, rfl, hrest⟩ := hlasts.exists_of_cons
      -- two steps less for the scan against one more difference in the queue
      refine ⟨2 * k + 1, .running hphase hrest, ?_⟩
      dsimp only
      rw [List.length_append, List.length_singleton]
      omega
  | @goOn front back worker effects point next hworkers hphase hpending hgoes hnext =>
      have hholds := hleader.holds_of_next h.holds hnext
      refine h.replace hworkers rfl rfl rfl rfl hholds fun n hn => ?_
      obtain ⟨m, rfl, hlasts⟩ := hn.exists_of_running hphase
      rw [hpending] at hlasts
      obtain ⟨k, rfl, hrest⟩ := hlasts.exists_of_next hgoes h.holds
      rw [hnext] at hrest
      exact ⟨2 * k + 1, .running hphase hrest, by dsimp only; omega⟩
  | @finish front back worker result hworkers hphase _ _ =>
      refine h.replace hworkers rfl rfl rfl rfl h.holds fun n hn => ?_
      obtain ⟨m, rfl, -⟩ := hn.exists_of_running hphase
      exact ⟨0, .done (.inl rfl), by dsimp only; omega⟩
  | @stop front back worker hworkers hactive _ _ =>
      refine h.replace hworkers rfl rfl rfl rfl h.holds fun n hn => ?_
      cases hn with
      | waiting _ _ => exact ⟨0, .done (.inr rfl), by dsimp only; omega⟩
      | running _ _ => exact ⟨0, .done (.inr rfl), by dsimp only; omega⟩
      | done hover => exact absurd hover hactive
  | @write difference queue hqueue _ =>
      obtain ⟨weighed, future, hweighed, hall, hfuture, hstart, rfl⟩ := h.exists_eq
      refine ⟨_, ?_, h.holds, weighed, future, hweighed, hall, hfuture, hstart, rfl⟩
      simp only [hqueue, List.length_cons]
      omega
  | close _ _ _ hclosed =>
      obtain ⟨weighed, future, hweighed, hall, hfuture, hstart, rfl⟩ := h.exists_eq
      refine ⟨_, ?_, h.holds, weighed, future, hweighed, hall, hfuture, hstart, rfl⟩
      simp only [hclosed, Bool.not_true, Bool.not_false, Bool.toNat_true, Bool.toNat_false]
      omega

/-- **No pool is stuck** before its writer has ended. -/
theorem exists_step (leader : Leader σ) (settings : ScanSettings) (limits : PoolLimits)
    {pool : ScanPool σ} (hopen : pool.closed = false) :
    ∃ after, Step leader settings limits pool after := by
  cases hleft : pool.left with
  | cons source left => exact ⟨_, .start hleft⟩
  | nil =>
  cases hstarting : pool.starting with
  | true => exact ⟨_, .startNoMore hleft hstarting⟩
  | false =>
  by_cases hrunning : ∃ worker ∈ pool.workers, worker.phase = .running
  · obtain ⟨worker, hmem, hphase⟩ := hrunning
    obtain ⟨front, back, hworkers⟩ := List.append_of_mem hmem
    cases hpending : worker.pending with
    | nil =>
        by_cases hended : ∃ result, worker.point = .ended result
        · obtain ⟨result, hpoint⟩ := hended
          exact ⟨_, .finish hworkers hphase hpending hpoint⟩
        · exact ⟨_, .goOn hworkers hphase hpending (not_exists.1 hended) rfl⟩
    | cons effect pending =>
        cases effect with
        | count progress => exact ⟨_, .count hworkers hphase hpending⟩
        | deliver difference =>
            by_cases hroom : pool.queue.length < max limits.waiting 1
            · exact ⟨_, .send hworkers hphase hpending hroom⟩
            · -- a full queue holds something that the writer can take
              cases hqueue : pool.queue with
              | nil =>
                  rw [hqueue, List.length_nil] at hroom
                  exact absurd (Nat.lt_of_lt_of_le Nat.zero_lt_one (le_max_right _ _)) hroom
              | cons first queue => exact ⟨_, .write hqueue hopen⟩
  · by_cases hwaiting : ∃ worker ∈ pool.workers, worker.phase = .waiting
    · obtain ⟨worker, hmem, hphase⟩ := hwaiting
      obtain ⟨front, back, hworkers⟩ := List.append_of_mem hmem
      have hnone : pool.running = 0 := List.countP_eq_zero.2 fun other hother hphase =>
        hrunning ⟨other, hother, of_decide_eq_true hphase⟩
      refine ⟨_, .run hworkers hphase ?_⟩
      rw [hnone]
      exact Nat.lt_of_lt_of_le Nat.zero_lt_one (le_max_right _ _)
    · have hover : ∀ worker ∈ pool.workers, worker.IsOver := by
        intro worker hmem
        cases hphase : worker.phase with
        | waiting => exact absurd ⟨worker, hmem, hphase⟩ hwaiting
        | running => exact absurd ⟨worker, hmem, hphase⟩ hrunning
        | finished => exact .inl hphase
        | stopped => exact .inr hphase
      cases hqueue : pool.queue with
      | nil => exact ⟨_, .close hqueue hstarting hover hopen⟩
      | cons first queue => exact ⟨_, .write hqueue hopen⟩

/-- Two runs in turn are one. -/
theorem Run.trans {pool next after : ScanPool σ} {n m : Nat}
    (h : Run leader settings limits pool n next) (h' : Run leader settings limits next m after) :
    Run leader settings limits pool (n + m) after := by
  induction h' with
  | refl => exact h
  | tail _ hstep ih => exact .tail ih hstep

/-- A bound is kept by a run, which uses it up. -/
theorem Weighs.run (hleader : leader.Unchanging Holds) {pool after : ScanPool σ} {total n : Nat}
    (h : Weighs leader settings Holds pool total) (hrun : Run leader settings limits pool n after) :
    ∃ less, less + n ≤ total ∧ Weighs leader settings Holds after less := by
  induction hrun with
  | refl => exact ⟨total, le_rfl, h⟩
  | tail _ hstep ih =>
      obtain ⟨less, hless, hnext⟩ := ih
      obtain ⟨fewer, hfewer, hafter⟩ := hnext.step hleader hstep
      exact ⟨fewer, by omega, hafter⟩

/-- **Every run can be continued** to the end of the writer. -/
theorem Weighs.exists_run_closed (hleader : leader.Unchanging Holds) {pool : ScanPool σ}
    {total : Nat} (h : Weighs leader settings Holds pool total) (limits : PoolLimits) :
    ∃ n after, Run leader settings limits pool n after ∧ after.closed = true := by
  induction total using Nat.strong_induction_on generalizing pool with
  | h total ih =>
      cases hclosed : pool.closed with
      | true => exact ⟨0, pool, .refl, hclosed⟩
      | false =>
          obtain ⟨next, hstep⟩ := exists_step leader settings limits hclosed
          obtain ⟨less, hless, hnext⟩ := h.step hleader hstep
          obtain ⟨n, after, hrun, hafter⟩ := ih less hless hnext
          exact ⟨1 + n, after, (Run.tail .refl hstep).trans hrun, hafter⟩

/-! ### What a run leaves -/

/-- **What is true of every run** over some sources. -/
structure IsFaithful (leader : Leader σ) (settings : ScanSettings) (limits : PoolLimits)
    (sources : List ItemSource) (state : σ) : Prop where
  /-- No run goes on for ever. -/
  bounded : ∃ bound, ∀ n pool, Run leader settings limits (start sources state) n pool → n ≤ bound
  /-- Every run can be continued to the end of the writer. -/
  ends : ∀ n pool, Run leader settings limits (start sources state) n pool →
    ∃ m after, Run leader settings limits pool m after ∧ after.closed = true
  /-- At its end all scans have succeeded exactly if each of them does alone. -/
  succeeds : ∀ n pool, Run leader settings limits (start sources state) n pool →
    pool.closed = true → ((∀ worker ∈ pool.workers, worker.Succeeded) ↔
      ∀ source ∈ sources, (Scan.alone leader settings state source).1 = .ok ())
  /-- If they have, the file holds an interleaving of what each of them delivers alone, all of it is
  counted, and the counters are those of the scans alone, added up. -/
  complete : ∀ n pool, Run leader settings limits (start sources state) n pool →
    pool.closed = true → (∀ worker ∈ pool.workers, worker.Succeeded) →
    ∃ lines, pool.file = DifferenceFile.write lines ∧
      Interleaves (sources.map fun source =>
        (Scan.alone leader settings state source).2.2.delivered.toList) lines ∧
      pool.written = lines.length ∧
      pool.written = (sources.map fun source =>
        (Scan.alone leader settings state source).2.2.delivered.size).sum ∧
      pool.progress = (sources.map fun source =>
        (Scan.alone leader settings state source).2.2.progress).sum

section Closed

variable {sources : List ItemSource} {tracked : List (ScanWorker × Output)} {pool : ScanPool σ}
  {state : σ}

/-- At the end of a run every source has been scanned. -/
theorem Tracks.sources_eq_of_closed (h : Tracks leader settings Holds sources tracked pool)
    (hclosed : pool.closed = true) : sources = tracked.map (·.1.source) := by
  rw [← h.sources_eq, h.left_eq (h.closed hclosed).1, List.append_nil]

/-- A scan that has ended by itself has come to what it comes to alone. -/
theorem Tracks.alone_eq (h : Tracks leader settings Holds sources tracked pool)
    (hstate : Holds state) {t : ScanWorker × Output} (ht : t ∈ tracked)
    (hphase : t.1.phase = .finished) :
    ∃ result, t.1.point = .ended result ∧
      (Scan.alone leader settings state t.1.source).1 = result ∧
      (Scan.alone leader settings state t.1.source).2.2 = t.2 := by
  obtain ⟨hpending, result, hpoint⟩ := h.ended t ht hphase
  exact ⟨result, hpoint, (h.onTrack t ht).alone_eq hpending hpoint hstate⟩

/-- In a pool that has closed, all scans have succeeded exactly if each would have by itself. -/
theorem Tracks.succeeded_iff (h : Tracks leader settings Holds sources tracked pool)
    (hstate : Holds state) (hclosed : pool.closed = true) :
    (∀ worker ∈ pool.workers, worker.Succeeded) ↔
      ∀ source ∈ sources, (Scan.alone leader settings state source).1 = .ok () := by
  rw [h.workers_eq, h.sources_eq_of_closed hclosed, List.forall_mem_map, List.forall_mem_map]
  constructor
  · intro hall t ht
    obtain ⟨result, hpoint, hresult, -⟩ := h.alone_eq hstate ht (hall t ht).1
    rw [hresult]
    exact ScanPoint.ended.inj (hpoint.symm.trans (hall t ht).2)
  · intro hall
    -- none has failed, so none was stopped
    have hnone : ∀ t ∈ tracked, ¬t.1.Failed := by
      rintro t ht ⟨hphase, error, hpoint⟩
      obtain ⟨result, hpoint', hresult, -⟩ := h.alone_eq hstate ht hphase
      obtain rfl := ScanPoint.ended.inj (hpoint.symm.trans hpoint')
      exact nomatch (hall t ht).symm.trans hresult
    intro t ht
    rcases (h.closed hclosed).2.2 t ht with hphase | hphase
    · obtain ⟨result, hpoint, hresult, -⟩ := h.alone_eq hstate ht hphase
      exact ⟨hphase, by rw [hpoint, ← hresult, hall t ht]⟩
    · obtain ⟨other, hother, hfailed⟩ := h.stopped t ht hphase
      exact absurd hfailed (hnone other hother)

/-- At the end of a run whose scans have all succeeded, each of them has counted and sent what it
does alone. -/
theorem Tracks.map_eq (h : Tracks leader settings Holds sources tracked pool)
    (hstate : Holds state) (hclosed : pool.closed = true)
    (hall : ∀ worker ∈ pool.workers, worker.Succeeded) {β : Type} (f : Output → β) :
    (tracked.map fun t => f t.2) =
      sources.map fun source => f (Scan.alone leader settings state source).2.2 := by
  rw [h.workers_eq, List.forall_mem_map] at hall
  rw [h.sources_eq_of_closed hclosed, List.map_map]
  refine List.map_congr_left fun t ht => ?_
  obtain ⟨_, -, -, houtput⟩ := h.alone_eq hstate ht (hall t ht).1
  exact congrArg f houtput.symm

end Closed

/-- **Scans side by side neither lose, double nor reorder differences**, at a leader that does not
change: whatever the order of their steps, a run ends, and if all scans succeed it leaves in the
file an interleaving of what each of them delivers alone.

Two invariants carry this. `Weighs` is a bound on the steps that are left, which each step lowers,
and `Tracks` says of each scan that it has done the beginning of what it does alone, and of the
queue and the file that they hold what was sent. -/
theorem isFaithful_of_unchanging (hleader : leader.Unchanging Holds) {state : σ}
    (hstate : Holds state) (settings : ScanSettings) (limits : PoolLimits)
    (sources : List ItemSource) : IsFaithful leader settings limits sources state := by
  obtain ⟨total, htotal⟩ := exists_weighs_start hleader settings hstate sources
  refine ⟨⟨total, fun n pool hrun => ?_⟩, fun n pool hrun => ?_, fun n pool hrun hclosed => ?_,
    fun n pool hrun hclosed hall => ?_⟩
  · obtain ⟨less, hless, -⟩ := htotal.run hleader hrun
    omega
  · obtain ⟨less, -, hweighs⟩ := htotal.run hleader hrun
    exact hweighs.exists_run_closed hleader limits
  · obtain ⟨tracked, htracked⟩ := Tracks.run hleader hstate hrun
    exact htracked.succeeded_iff hstate hclosed
  · obtain ⟨tracked, htracked⟩ := Tracks.run hleader hstate hrun
    obtain ⟨lines, hsent, hfile, hwritten⟩ := htracked.sent
    have hparts := htracked.map_eq hstate hclosed hall fun output => output.delivered.toList
    rw [(htracked.closed hclosed).2.1, List.append_nil, hparts] at hsent
    refine ⟨lines, hfile, hsent, hwritten, ?_, ?_⟩
    · rw [hwritten, hsent.length_eq, List.map_map]
      rfl
    · rw [htracked.progress_eq, htracked.map_eq hstate hclosed hall Output.progress]

/-- Two databases at a leader that holds nothing: whichever scan comes first, both differences are
in the file at the end. -/
theorem isFaithful_of_unchanging_two_databases :
    let sources : List ItemSource := [⟨[⟨"a/k", "1"⟩], none⟩, ⟨[⟨"b/k", "2"⟩], none⟩]
    let state : Served := .holding ⟨[]⟩ []
    IsFaithful (Serving.steady none).leader ⟨1, 1⟩ ⟨2, 1⟩ sources state ∧
      ∃ n pool lines, Run (Serving.steady none).leader ⟨1, 1⟩ ⟨2, 1⟩ (start sources state) n pool ∧
        pool.closed = true ∧ pool.file = DifferenceFile.write lines ∧
        Interleaves [[.onlyOnFollower ⟨"a/k", "1"⟩], [.onlyOnFollower ⟨"b/k", "2"⟩]] lines ∧
        pool.written = 2 ∧ pool.progress = ⟨2, 0, 2, 0, 0, 2⟩ := by
  intro sources state
  have hfaithful := isFaithful_of_unchanging (Serving.unchanging_steady none ⟨[]⟩)
    (rfl : state.source = _) ⟨1, 1⟩ ⟨2, 1⟩ sources
  obtain ⟨n, pool, hrun, hclosed⟩ := hfaithful.ends 0 _ .refl
  have hsucceed : ∀ source ∈ sources,
      (Scan.alone (Serving.steady none).leader ⟨1, 1⟩ state source).1 = .ok () := by
    refine List.forall_mem_cons.2 ⟨?_, List.forall_mem_singleton.2 ?_⟩
    · dsimp only [state]
      cbv
    · dsimp only [state]
      cbv
  have hdelivered : (sources.map fun source =>
      (Scan.alone (Serving.steady none).leader ⟨1, 1⟩ state source).2.2.delivered.toList) =
        [[.onlyOnFollower ⟨"a/k", "1"⟩], [.onlyOnFollower ⟨"b/k", "2"⟩]] := by
    dsimp only [sources, state]
    cbv
  have hprogress : (sources.map fun source =>
      (Scan.alone (Serving.steady none).leader ⟨1, 1⟩ state source).2.2.progress) =
        [⟨1, 0, 1, 0, 0, 1⟩, ⟨1, 0, 1, 0, 0, 1⟩] := by
    dsimp only [sources, state]
    cbv
  obtain ⟨lines, hfile, hlines, hwritten, -, hcounted⟩ := hfaithful.complete n pool hrun hclosed
    ((hfaithful.succeeds n pool hrun hclosed).2 hsucceed)
  rw [hdelivered] at hlines
  rw [hprogress] at hcounted
  exact ⟨hfaithful, n, pool, lines, hrun, hclosed, hfile, hlines, hwritten.trans hlines.length_eq,
    hcounted⟩

end ScanPool

/-! ### One after the other -/

/-- A scan gives what it gives alone, on top of what was counted and delivered before it. -/
theorem Scan.exists_run_eq_join {σ : Type} {leader : Leader σ} {Holds : σ → Prop}
    (hleader : leader.Unchanging Holds) {state now : σ} (hstate : Holds state) (hnow : Holds now)
    (settings : ScanSettings) (source : ItemSource) {output : Output}
    (hopen : output.room = none) :
    ∃ after, Holds after ∧ run leader settings none source now output =
      ((alone leader settings state source).1, after,
        output.join (alone leader settings state source).2.2) := by
  obtain ⟨n, hn⟩ := hleader.exists_lasts_reading hstate settings source.fault
    (.start settings.bufferSize none) source.items
  obtain ⟨result, found, hfound⟩ := hn.exists_resume_eq hleader
  obtain ⟨after, hafter, hrun⟩ := hfound now hnow output hopen
  obtain ⟨last, -, hlast⟩ := hfound state hstate (.start .zero none) rfl
  have halone : alone leader settings state source =
      (result, last, (Output.start .zero none).performAll found) := hlast
  refine ⟨after, hafter, ?_⟩
  rw [halone, ← Output.performAll_eq_join]
  exact hrun

namespace Program

variable {leader : Leader Network} {Holds : Network → Prop} {network : Network}

/-- Further databases are scanned after some others. -/
theorem exists_scanAll_eq (hleader : leader.Unchanging Holds) (hnetwork : Holds network)
    (settings : ScanSettings) (disk : Disk) {paths : List String}
    (hsucceed : ∀ path ∈ paths,
      (Scan.alone leader settings network (disk.database path).source).1 = .ok ())
    {now : Network} (hnow : Holds now) {output : Output} (hopen : output.room = none)
    {parts : List (List Difference)} (hparts : Interleaves parts output.delivered.toList) :
    ∃ after output', scanAll leader settings disk now output paths = (.ok (), after, output') ∧
      Interleaves (parts ++ paths.map fun path =>
        (Scan.alone leader settings network (disk.database path).source).2.2.delivered.toList)
        output'.delivered.toList ∧
      output'.progress = output.progress + (paths.map fun path =>
        (Scan.alone leader settings network (disk.database path).source).2.2.progress).sum := by
  induction paths generalizing now output parts with
  | nil =>
      refine ⟨now, output, rfl, ?_, (add_zero _).symm⟩
      rwa [List.map_nil, List.append_nil]
  | cons path paths ih =>
      obtain ⟨hfirst, hrest⟩ := List.forall_mem_cons.1 hsucceed
      obtain ⟨next, hnext, hrun⟩ := Scan.exists_run_eq_join hleader hnetwork hnow settings
        (disk.database path).source hopen
      rw [hfirst] at hrun
      rw [List.map_cons, List.map_cons, List.sum_cons, List.append_cons, ← add_assoc, scanAll, hrun]
      -- one scan after the other is one way to interleave them
      have hgrown := hparts.append
        (Scan.alone leader settings network (disk.database path).source).2.2.delivered.toList
      rw [← Output.toList_delivered_join] at hgrown
      exact ih hrest hnext ((Output.room_join _ _).trans hopen) hgrown

/-- **Scans one after the other** leave the databases' differences in the file in one of the orders
that scans side by side may leave them in. -/
theorem interleaves_scanAll (hleader : leader.Unchanging Holds) (hnetwork : Holds network)
    (settings : ScanSettings) (disk : Disk) {paths : List String}
    (hsucceed : ∀ path ∈ paths,
      (Scan.alone leader settings network (disk.database path).source).1 = .ok ()) :
    ∃ after output, scanAll leader settings disk network (.start .zero none) paths =
        (.ok (), after, output) ∧
      Interleaves (paths.map fun path =>
        (Scan.alone leader settings network (disk.database path).source).2.2.delivered.toList)
        output.delivered.toList ∧
      output.progress = (paths.map fun path =>
        (Scan.alone leader settings network (disk.database path).source).2.2.progress).sum := by
  obtain ⟨after, output, hscan, hparts, hprogress⟩ :=
    exists_scanAll_eq hleader hnetwork settings disk hsucceed hnetwork
      (rfl : (Output.start .zero none).room = none) (.nil nofun : Interleaves [] [])
  exact ⟨after, output, hscan, hparts, hprogress.trans (zero_add _)⟩

end Program

end Reconcile

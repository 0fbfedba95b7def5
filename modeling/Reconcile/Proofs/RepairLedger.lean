import Reconcile.Proofs.FileParts

/-!
# What the counters of repairs account for

Every repair is entered in a ledger: the difference, what came of it, the calls that it made, and
the counters before and after it. The counters are then an exact account of the ledger, over any
number of repairs and files, whatever calls fail and however the world changes in between.

What one repair counts is said once, by cases of its outcome (`Repair.Counted`,
`Repair.counted_entry`). That a repair from a side always has the value of that side is what makes
these cases complete: a side is named only if it is readable, and then it has a value.

The calls are those that the same repair makes of services that keep a record of them; such a record
changes nothing else (`Services.recorded_agree`, `Ledger.recorded_post`).

## Main results

* `Repair.counted_entry`: what one repair counts;
* `DifferenceFile.repair_snd_eq`: the repairs of a file are those of the lines that it reads;
* `Ledger.accounts_postings`: the account.
-/

namespace Reconcile

/-! ### Services that keep a record -/

namespace Services

variable {σ : Type}

/-- The services, with a record of the calls that are made. -/
def recorded (services : Services σ) : Services (σ × List Call) where
  get name state :=
    let (answer, after) := services.get name state.1
    (answer, after, state.2 ++ [.get name])
  put name text state :=
    let (answer, after) := services.put name text state.1
    (answer, after, state.2 ++ [.put name text])
  probe blob state :=
    let (answer, after) := services.probe blob state.1
    (answer, after, state.2 ++ [.probe blob])

/-- A record changes nothing else. -/
theorem recorded_agree (services : Services σ) (objects : List ObjectName) :
    services.recorded.Agree (fun state plain => state.1 = plain) objects services where
  get := by
    rintro name - state _ rfl
    exact ⟨rfl, rfl⟩
  put := by
    rintro name - text state _ rfl
    exact ⟨rfl, rfl⟩
  probe := by
    rintro blob state _ rfl
    exact ⟨Iff.rfl, rfl⟩

/-- Services that agree make the same calls. -/
theorem Agree.recorded {τ : Type} {R : σ → τ → Prop} {objects : List ObjectName}
    {services : Services σ} {other : Services τ} (h : services.Agree R objects other) :
    services.recorded.Agree (fun state state' => R state.1 state'.1 ∧ state.2 = state'.2) objects
      other.recorded where
  get name hname state state' hstate := by
    obtain ⟨hanswer, hafter⟩ := h.get name hname _ _ hstate.1
    exact ⟨hanswer, hafter, congrArg (· ++ _) hstate.2⟩
  put name hname text state state' hstate := by
    obtain ⟨hanswer, hafter⟩ := h.put name hname text _ _ hstate.1
    exact ⟨hanswer, hafter, congrArg (· ++ _) hstate.2⟩
  probe blob state state' hstate := by
    obtain ⟨hanswer, hafter⟩ := h.probe blob _ _ hstate.1
    exact ⟨hanswer, hafter, congrArg (· ++ _) hstate.2⟩

end Services

namespace Repair

variable {σ : Type}

/-! ### What one repair counts -/

/-- **What one repair counts**, by what comes of it. -/
inductive Counted (before : RepairCounters) :
    Except RepairError RepairOutcome → RepairCounters → Prop where
  /-- A repair that ends with an error is not counted. -/
  | error (error : RepairError) : Counted before (.error error) before
  /-- One that writes nothing is counted as what it is skipped for. -/
  | skipped {status : RepairStatus} : status ≠ .autoRepair →
      Counted before (.ok (.skipped status)) (before.record status)
  | repaired (side : Side) (withMaster : Bool) :
      Counted before (.ok (.repaired side withMaster)) (before.record .autoRepair)
  /-- One that fails to write is counted as an automatic repair, and as one that failed. -/
  | unwritten : Counted before (.ok .failed) (before.record .autoRepair).recordWriteError
  /-- One that fails to look something up is counted as nothing else. -/
  | unread : Counted before (.ok .failed) before.recordLookupError

/-- What is to be repaired by itself is never skipped. -/
theorem Counted.ne_skipped {before after : RepairCounters}
    {result : Except RepairError RepairOutcome} (h : Counted before result after) :
    result ≠ .ok (.skipped .autoRepair) := by
  rintro rfl
  cases h with
  | skipped hstatus => exact hstatus rfl

variable {difference : Difference}

/-- **A side that is named has a value**, since it is readable. -/
theorem exists_sideValue?_eq {found : Lookup} {refreshed : Option String}
    {cutoff : Option Instant} {side : Side}
    (h : verdict difference found refreshed cutoff = .repairFrom side) :
    ∃ text, sideValue? difference side = some text := by
  obtain ⟨-, -, hreadable, -⟩ := decideRepair_eq_repairFrom_iff.1 h
  have hvalue := ReplicaState.isNone_of_readable hreadable
  refine Option.isSome_iff_exists.1 (Option.isNone_eq_false_iff.1 ?_)
  cases side with
  | follower => exact hvalue
  | leader => exact hvalue

/-- A verdict is counted by what comes of it. -/
theorem counted_act (services : Services σ) (name : ObjectName) {verdict : Verdict}
    (h : ∀ side, verdict = .repairFrom side → ∃ text, sideValue? difference side = some text)
    (master : Option String) (state : σ) (counters : RepairCounters) :
    Counted counters (.ok (act services name difference verdict master state counters).1)
      (act services name difference verdict master state counters).2.2 := by
  rw [act]
  cases hsource : verdict.source? with
  | none =>
      refine .skipped fun hstatus => ?_
      rw [← verdict.isSome_source?_iff, hsource] at hstatus
      cases hstatus
  | some side =>
      obtain rfl := Verdict.source?_eq_some_iff.1 hsource
      obtain ⟨text, htext⟩ := h side rfl
      dsimp only
      rw [htext]
      dsimp only
      rcases write services name master text state with ⟨error | ⟨⟩, after⟩
      · exact .unwritten
      · exact .repaired side master.isSome

/-- **What a repair counts**, whatever the services answer. -/
theorem counted_entry (services : Services σ) (cutoff : Option Instant) (difference : Difference)
    (state : σ) (counters : RepairCounters) :
    Counted counters (entry services cutoff difference state counters).1
      (entry services cutoff difference state counters).2.2 := by
  cases hfault : difference.fault? with
  | some error =>
      rw [entry_of_fault hfault]
      exact .error error
  | none =>
      obtain ⟨name, -, hentry⟩ := entry_of_not_fault hfault
      rw [hentry]
      rcases lookUp services name _ _ state with
        ⟨⟨_, _, error | refreshed, error | master⟩, after⟩
      · exact .unread
      · exact .unread
      · exact .unread
      · exact counted_act services name (fun _ => exists_sideValue?_eq) _ _ _

end Repair

/-! ### The repairs of a file -/

namespace DifferenceFile

variable {σ : Type} (services : Services σ) (cutoff : Option Instant)

/-- The lines that a run reads: those before the first that ends it, and this one. -/
def reached (lines : List (List UInt8)) : List (List UInt8) :=
  lines.takeWhile isHarmless ++ (lines.dropWhile isHarmless).take 1

/-- A line that ends a run has nothing repaired. -/
theorem repairEach_of_not_isHarmless {bytes : List UInt8} (h : isHarmless bytes = false)
    (state : σ × RepairCounters) :
    Repair.repairEach services cutoff state (heldIn? bytes).toList = state := by
  rw [isHarmless, fatal?] at h
  rw [heldIn?.eq_def]
  cases hline : readLine bytes with
  | notText => rfl
  | malformed => rfl
  | blank => rfl
  | difference difference =>
      rw [hline] at h
      obtain ⟨error, herror⟩ := Option.isSome_iff_exists.1 (Option.isNone_eq_false_iff.1 h)
      rw [Option.toList_some, Repair.repairEach_cons, Repair.entry_of_fault herror]
      rfl

/-- **The repairs of a file** are those of the lines that the run reads. -/
theorem repair_snd_eq (input : List UInt8) (state : σ) (counters : RepairCounters) :
    (repair services cutoff input state counters).2 =
      Repair.repairEach services cutoff (state, counters)
        (differencesOf (reached (lines input))) := by
  rw [repair, repairLines_eq, reached, differencesOf, differencesOf, List.filterMap_append,
    Repair.repairEach, Repair.repairEach, List.foldl_append]
  cases hrest : (lines input).dropWhile isHarmless with
  | nil => rfl
  | cons bytes rest =>
      have hfatal : isHarmless bytes = false := by
        have hhead := List.head?_dropWhile_not isHarmless (lines input)
        rw [hrest] at hhead
        simpa using hhead
      have hone : ((bytes :: rest).take 1).filterMap heldIn? = (heldIn? bytes).toList := by
        rw [List.take_succ_cons, List.take_zero]
        cases hheld : heldIn? bytes <;> simp [hheld]
      rw [hone]
      exact (repairEach_of_not_isHarmless services cutoff hfatal _).symm

end DifferenceFile

namespace Ledger

/-! ### The ledger of a run -/

/-- What a ledger says of one repair. -/
structure Posting where
  difference : Difference
  /-- What came of it. -/
  result : Except RepairError RepairOutcome
  /-- The calls that it made. -/
  calls : List Call
  /-- The counters before it. -/
  before : RepairCounters
  /-- The counters after it. -/
  after : RepairCounters

/-- What happens while the counters are kept. -/
inductive Event (σ : Type) where
  /-- The world is changed by others. -/
  | changed (state : σ)
  /-- A difference is repaired. -/
  | entry (difference : Difference)
  /-- A difference file is repaired. -/
  | file (input : List UInt8)

section

variable {σ : Type} (services : Services σ) (cutoff : Option Instant)

/-- What an event leaves. -/
def perform (state : σ × RepairCounters) : Event σ → σ × RepairCounters
  | .changed after => (after, state.2)
  | .entry difference => (Repair.entry services cutoff difference state.1 state.2).2
  | .file input => (DifferenceFile.repair services cutoff input state.1 state.2).2

/-- What events leave that happen one after the other. -/
def performAll (state : σ × RepairCounters) (events : List (Event σ)) : σ × RepairCounters :=
  events.foldl (perform services cutoff) state

/-- The differences that an event has repaired. -/
def differencesOf : Event σ → List Difference
  | .changed _ => []
  | .entry difference => [difference]
  | .file input =>
    DifferenceFile.differencesOf (DifferenceFile.reached (DifferenceFile.lines input))

/-- What the ledger says of a repair. -/
def post (state : σ × RepairCounters) (difference : Difference) : Posting where
  difference := difference
  result := (Repair.entry services cutoff difference state.1 state.2).1
  calls := (Repair.entry services.recorded cutoff difference (state.1, []) state.2).2.1.2
  before := state.2
  after := (Repair.entry services cutoff difference state.1 state.2).2.2

/-- What the ledger says of differences that are repaired one after the other. -/
def postEach (state : σ × RepairCounters) : List Difference → List Posting
  | [] => []
  | difference :: rest =>
    post services cutoff state difference ::
      postEach (Repair.entry services cutoff difference state.1 state.2).2 rest

/-- What the ledger says of events. -/
def postings (state : σ × RepairCounters) : List (Event σ) → List Posting
  | [] => []
  | event :: rest =>
    postEach services cutoff state (differencesOf event) ++
      postings (perform services cutoff state event) rest

/-- The calls on the ledger are those of the repair itself. -/
theorem recorded_post (state : σ × RepairCounters) (difference : Difference) :
    ∃ after, Repair.entry services cutoff difference state.1 state.2 =
        ((post services cutoff state difference).result, after,
          (post services cutoff state difference).after) ∧
      Repair.entry services.recorded cutoff difference (state.1, []) state.2 =
        ((post services cutoff state difference).result,
          (after, (post services cutoff state difference).calls),
          (post services cutoff state difference).after) := by
  have hstart : ((state.1, []) : σ × List Call).1 = state.1 := rfl
  obtain ⟨result, ⟨after, calls⟩, plain, counters, hrecorded, hentry, rfl⟩ :=
    Repair.exists_entry_eq_of_agree (services.recorded_agree difference.objects) hstart cutoff
      state.2
  refine ⟨after, ?_, ?_⟩
  · simp only [post, hentry]
  · simp only [post, hentry, hrecorded]

/-- An event counts what its differences count. -/
theorem perform_snd (state : σ × RepairCounters) (event : Event σ) :
    (perform services cutoff state event).2 =
      (Repair.repairEach services cutoff state (differencesOf event)).2 := by
  cases event with
  | changed after => rfl
  | entry difference => rfl
  | file input =>
      rw [perform, DifferenceFile.repair_snd_eq]
      rfl

/-- Each posting is that of a difference, in some state that its turn has found. -/
theorem exists_of_mem_postEach {state : σ × RepairCounters} {differences : List Difference}
    {posting : Posting} (h : posting ∈ postEach services cutoff state differences) :
    ∃ before difference, posting = post services cutoff before difference := by
  induction differences generalizing state with
  | nil => cases h
  | cons difference rest ih =>
      rw [postEach, List.mem_cons] at h
      rcases h with rfl | h
      · exact ⟨state, difference, rfl⟩
      · exact ih h

/-- Whatever is on a ledger is a repair. -/
theorem exists_of_mem_postings {state : σ × RepairCounters} {events : List (Event σ)}
    {posting : Posting} (h : posting ∈ postings services cutoff state events) :
    ∃ before difference, posting = post services cutoff before difference := by
  induction events generalizing state with
  | nil => cases h
  | cons event rest ih =>
      rw [postings, List.mem_append] at h
      rcases h with h | h
      · exact exists_of_mem_postEach services cutoff h
      · exact ih h

end

/-! ### Accounts -/

/-- What a repair can be counted as that does not end with an error. -/
inductive Account where
  /-- It was decided upon, with this status. -/
  | status (status : RepairStatus)
  /-- It could not be looked up. -/
  | lookup
  deriving DecidableEq

/-- How many repairs an account holds. -/
def balance (counters : RepairCounters) : Account → Nat
  | .status .autoRepair => counters.autoRepair
  | .status .manualRepair => counters.manualRepair
  | .status .notRepairable => counters.notRepairable
  | .status .updatedByClient => counters.updatedByClient
  | .status .tooRecent => counters.tooRecent
  | .lookup => counters.lookupError

/-- A status counts on its own account and on no other. -/
theorem balance_record (counters : RepairCounters) (status : RepairStatus) (account : Account) :
    balance (counters.record status) account =
      balance counters account + if account = .status status then 1 else 0 := by
  cases status <;> rcases account with ⟨⟨⟩⟩ | _ <;> rfl

/-- A failed lookup counts on its own account and on no other. -/
theorem balance_recordLookupError (counters : RepairCounters) (account : Account) :
    balance counters.recordLookupError account =
      balance counters account + if account = .lookup then 1 else 0 := by
  rcases account with ⟨⟨⟩⟩ | _ <;> rfl

/-- A failed write is on none of these accounts. -/
theorem balance_recordWriteError (counters : RepairCounters) (account : Account) :
    balance counters.recordWriteError account = balance counters account := by
  rcases account with ⟨⟨⟩⟩ | _ <;> rfl

/-- What is counted is counted in one account. -/
theorem exists_account_of_counted {before after : RepairCounters}
    {result : Except RepairError RepairOutcome} (h : Repair.Counted before result after)
    {outcome : RepairOutcome} (houtcome : result = .ok outcome) :
    ∃ account, ∀ other,
      balance after other = balance before other + if other = account then 1 else 0 := by
  cases h with
  | error error => cases houtcome
  | @skipped status _ => exact ⟨.status status, balance_record before status⟩
  | repaired side withMaster => exact ⟨.status .autoRepair, balance_record before .autoRepair⟩
  | unwritten =>
      refine ⟨.status .autoRepair, fun other => ?_⟩
      rw [balance_recordWriteError, balance_record]
  | unread => exact ⟨.lookup, balance_recordLookupError before⟩

/-- Whether something was written. -/
def isRepaired : RepairOutcome → Bool
  | .repaired _ _ => true
  | _ => false

/-- How many repairs of a ledger have an outcome of some kind. -/
def count (postings : List Posting) (kind : RepairOutcome → Bool) : Nat :=
  postings.countP fun posting => posting.result.toOption.any kind

/-- A posting counts once, if its outcome is of the kind. -/
theorem count_concat (postings : List Posting) (posting : Posting) (kind : RepairOutcome → Bool) :
    count (postings ++ [posting]) kind =
      count postings kind + if posting.result.toOption.any kind then 1 else 0 := by
  rw [count, List.countP_append, List.countP_singleton, ← count]

/-- **What the counters sum up of a ledger.** -/
structure Sums (postings : List Posting) (counters : RepairCounters) : Prop where
  /-- The six accounts together hold the repairs that do not end with an error. -/
  answered : counters.autoRepair + counters.manualRepair + counters.notRepairable +
    counters.updatedByClient + counters.tooRecent + counters.lookupError =
      count postings fun _ => true
  /-- Automatic repairs that do not fail have written something. -/
  repaired : counters.autoRepair = counters.autoRepairError + count postings isRepaired
  /-- A repair fails if it cannot look something up, or cannot write. -/
  failed : counters.lookupError + counters.autoRepairError =
    count postings fun outcome => outcome = .failed
  /-- Every other status counts the repairs that are skipped with it. -/
  skipped : ∀ status, status ≠ .autoRepair → balance counters (.status status) =
    count postings fun outcome => outcome = .skipped status

/-- **One repair keeps the sums.** -/
theorem Sums.concat {postings : List Posting} {posting : Posting}
    (h : Sums postings posting.before)
    (hcounted : Repair.Counted posting.before posting.result posting.after) :
    Sums (postings ++ [posting]) posting.after := by
  obtain ⟨difference, result, calls, before, after⟩ := posting
  obtain ⟨hanswered, hrepaired, hfailed, hskipped⟩ := h
  dsimp only at hanswered hrepaired hfailed hskipped hcounted
  -- Each sum is checked against each way in which a repair counts.
  refine ⟨?answered, ?repaired, ?failed, fun status hstatus => ?skipped⟩
  case answered =>
    rw [count_concat, ← hanswered]
    cases hcounted with
    | error error => rfl
    | @skipped status _ =>
        cases status <;> simp +arith [RepairCounters.record, Except.toOption]
    | repaired side withMaster => simp +arith [RepairCounters.record, Except.toOption]
    | unwritten =>
        simp +arith [RepairCounters.record, RepairCounters.recordWriteError, Except.toOption]
    | unread => simp +arith [RepairCounters.recordLookupError, Except.toOption]
  case repaired =>
    rw [count_concat]
    cases hcounted with
    | error error => exact hrepaired
    | @skipped status hstatus =>
      cases status with
      | autoRepair => exact absurd rfl hstatus
      | _ => exact hrepaired
    | repaired side withMaster => exact congrArg (· + 1) hrepaired
    | unwritten => exact (congrArg (· + 1) hrepaired).trans (Nat.add_right_comm _ _ _)
    | unread => exact hrepaired
  case failed =>
    rw [count_concat]
    cases hcounted with
    | error error => exact hfailed
    | @skipped status hstatus => cases status <;> exact hfailed
    | repaired side withMaster => exact hfailed
    | unwritten => exact congrArg (· + 1) hfailed
    | unread => exact (Nat.add_right_comm _ _ _).trans (congrArg (· + 1) hfailed)
  case skipped =>
    rw [count_concat, ← hskipped status hstatus]
    cases hcounted with
    | error error => rfl
    | @skipped status' _ =>
        simp [balance_record, Except.toOption, eq_comm]
    | repaired side withMaster => simp [balance_record, hstatus, Except.toOption]
    | unwritten => simp [balance_recordWriteError, balance_record, hstatus, Except.toOption]
    | unread => simp [balance_recordLookupError, Except.toOption]

section

variable {σ : Type} (services : Services σ) (cutoff : Option Instant)

/-- **The counters go on to sum up the ledger** over the differences of one more run. -/
theorem Sums.append_postEach {done : List Posting} (differences : List Difference)
    {state : σ × RepairCounters} (h : Sums done state.2) :
    Sums (done ++ postEach services cutoff state differences)
      (Repair.repairEach services cutoff state differences).2 := by
  induction differences generalizing done state with
  | nil =>
      rw [postEach, List.append_nil]
      exact h
  | cons difference rest ih =>
      have hposted : Sums (done ++ [post services cutoff state difference]) _ :=
        .concat h (Repair.counted_entry services cutoff difference state.1 state.2)
      rw [postEach, Repair.repairEach_cons, List.append_cons]
      exact ih hposted

/-- **A run keeps the sums**, also of what was done before it. -/
theorem Sums.append_postings {done : List Posting} (events : List (Event σ))
    {state : σ × RepairCounters} (h : Sums done state.2) :
    Sums (done ++ postings services cutoff state events)
      (performAll services cutoff state events).2 := by
  induction events generalizing done state with
  | nil =>
      rw [postings, List.append_nil]
      exact h
  | cons event rest ih =>
      have hevent := h.append_postEach services cutoff (differencesOf event)
      rw [← perform_snd] at hevent
      rw [postings, ← List.append_assoc, performAll, List.foldl_cons, ← performAll]
      exact ih hevent

end

/-- **What the counters account for**, of a ledger. -/
structure Accounts (postings : List Posting) (counters : RepairCounters) : Prop
    extends Sums postings counters where
  /-- A repair that does not end with an error is counted once, in one account. -/
  once : ∀ posting ∈ postings, ∀ outcome, posting.result = .ok outcome → ∃ account, ∀ other,
    balance posting.after other = balance posting.before other + if other = account then 1 else 0
  /-- One that ends with an error makes no call and is not counted. -/
  quiet : ∀ posting ∈ postings, ∀ error, posting.result = .error error →
    posting.calls = [] ∧ posting.after = posting.before
  /-- What is to be repaired by itself is never skipped. -/
  acted : ∀ posting ∈ postings, posting.result ≠ .ok (.skipped .autoRepair)

variable {σ : Type}

/-- **The counters account for every repair exactly**, over any differences and files that are
repaired one after the other, whatever the services answer and however the world is changed in
between.

Each repair counts in one of five ways (`Repair.counted_entry`), and `Sums` is kept by each of them,
whatever the state that it is made from. -/
theorem accounts_postings (services : Services σ) (cutoff : Option Instant) (state : σ)
    (events : List (Event σ)) :
    Accounts (postings services cutoff (state, .zero) events)
      (performAll services cutoff (state, .zero) events).2 := by
  have hnone : Sums [] (state, RepairCounters.zero).2 :=
    ⟨rfl, rfl, rfl, fun status _ => by cases status <;> rfl⟩
  have hsums := hnone.append_postings services cutoff events
  rw [List.nil_append] at hsums
  refine ⟨hsums, ?once, ?quiet, ?acted⟩
  case once =>
    rintro posting hposting outcome houtcome
    obtain ⟨before, difference, rfl⟩ := exists_of_mem_postings services cutoff hposting
    have hcounted := Repair.counted_entry services cutoff difference before.1 before.2
    exact exists_account_of_counted hcounted houtcome
  case quiet =>
    rintro posting hposting error herror
    obtain ⟨before, difference, rfl⟩ := exists_of_mem_postings services cutoff hposting
    have hfault := Repair.entry_fst_eq_error_iff.1 herror
    rw [post, Repair.entry_of_fault hfault, Repair.entry_of_fault hfault]
    exact ⟨rfl, rfl⟩
  case acted =>
    rintro posting hposting hskipped
    obtain ⟨before, difference, rfl⟩ := exists_of_mem_postings services cutoff hposting
    have hcounted := Repair.counted_entry services cutoff difference before.1 before.2
    exact hcounted.ne_skipped hskipped

end Ledger

end Reconcile

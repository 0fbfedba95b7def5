import Mathlib.Algebra.BigOperators.Intervals
import Mathlib.Algebra.Order.BigOperators.Group.Finset
import Reconcile.Proofs.Backoff

/-!
# How retrying ends

A call that is made over and over goes through states, each left by the attempt before it, and comes
to a result in each of them (`stateAfter`, `resultAfter`). A result is *conclusive* if it is a value
or a final failure. A policy makes attempts up to the first conclusive result, or as many as it
allows; the attempts that it makes and the times at which they start are known from their number
alone (`RetryPolicy.attemptFrom_eq`).

The attempts are counted in 32 bits where the policy is given so. `RetryPolicy.countedFrom` is the
loop with that counter, which stops without a result when the counter cannot be raised; it never
does (`RetryPolicy.countedFrom_eq`).

The main result is `RetryPolicy.retries_run`.
-/

namespace Reconcile

/-- Whether no further attempt follows a result: it is a value or a final failure. -/
def IsConclusive {α : Type} : Except NetError α → Bool
  | .ok _ => true
  | .error error => !error.isRetryable

section Attempts

variable {σ α : Type} (call : σ → Except NetError α × σ)

/-- The state after a number of attempts. -/
def stateAfter (start : σ) : ℕ → σ
  | 0 => start
  | made + 1 => (call (stateAfter start made)).2

/-- The result of the attempt that follows a number of others. -/
def resultAfter (start : σ) (made : ℕ) : Except NetError α :=
  (call (stateAfter call start made)).1

variable {call}

/-- The states after the first attempt are those that follow the state it leaves. -/
theorem stateAfter_succ (start : σ) (made : ℕ) :
    stateAfter call (call start).2 made = stateAfter call start (made + 1) := by
  induction made with
  | zero => rfl
  | succ made ih =>
      rw [stateAfter, ih]
      rfl

/-- The attempts that follow the first are those of a call made from the state it leaves. -/
theorem resultAfter_succ (start : σ) (made : ℕ) :
    resultAfter call (call start).2 made = resultAfter call start (made + 1) := by
  rw [resultAfter, stateAfter_succ, resultAfter]

/-- A result that is not conclusive is a failure that another attempt might not have. -/
theorem exists_of_not_isConclusive {result : Except NetError α} (h : IsConclusive result = false) :
    ∃ error, result = .error error ∧ error.isRetryable = true := by
  cases result with
  | ok value => cases h
  | error error => exact ⟨error, rfl, Bool.not_eq_eq_eq_not.1 h⟩

end Attempts

/-- A call that has made one more attempt before. -/
def Retried.preceded {σ α : Type} (time : ℕ) (rest : Retried σ α) : Retried σ α :=
  { rest with startedAt := time :: rest.startedAt }

namespace RetryPolicy

variable {σ α : Type} {policy : RetryPolicy} {call : σ → Except NetError α × σ}

/-! ### One attempt and the next -/

/-- What the result of the last attempt comes to. -/
def settle (policy : RetryPolicy) : Except NetError α → Except NetError α
  | .ok value => .ok value
  | .error error => .error (if error.isRetryable then policy.exhausted error else error)

/-- A conclusive result is left as it is. -/
theorem settle_of_isConclusive {result : Except NetError α} (h : IsConclusive result = true) :
    policy.settle result = result := by
  cases result with
  | ok value => rfl
  | error error =>
      rw [settle, if_neg]
      exact Bool.eq_false_iff.1 (Bool.not_eq_eq_eq_not.1 h)

/-- A call ends with a conclusive result, and with any result of the last attempt. -/
theorem attemptFrom_of_ends {left : ℕ} {state : σ}
    (h : left = 0 ∨ IsConclusive (call state).1 = true) (n time : ℕ) :
    policy.attemptFrom call left n time state =
      ⟨policy.settle (call state).1, (call state).2, [time]⟩ := by
  unfold attemptFrom
  rcases hcall : call state with ⟨error | value, next⟩
  · rw [hcall] at h
    cases hretry : error.isRetryable with
    | false => simp [settle, hretry]
    | true =>
        have hleft : left = 0 := h.resolve_right (by simp [IsConclusive, hretry])
        simp [hleft, settle, hretry]
  · rfl

/-- After any other result a call goes on with the next attempt, once it has waited. -/
theorem attemptFrom_of_goesOn {state : σ} (h : IsConclusive (call state).1 = false)
    (left n time : ℕ) :
    policy.attemptFrom call (left + 1) n time state =
      Retried.preceded time
        (policy.attemptFrom call left (n + 1) (time + policy.delayBefore n) (call state).2) := by
  rcases hcall : call state with ⟨error | value, next⟩
  · rw [hcall] at h
    have hretry : error.isRetryable = true := Bool.not_eq_eq_eq_not.1 h
    rw [attemptFrom, hcall]
    dsimp only
    rw [if_pos hretry]
    rfl
  · rw [hcall] at h
    cases h

/-! ### All attempts -/

/-- The time that is waited before a number of retries, from the `n`-th on. -/
def waited (policy : RetryPolicy) (n retries : ℕ) : ℕ :=
  ∑ i ∈ Finset.range retries, policy.delayBefore (n + i)

/-- All the time waited is that before the first retry and that before the others. -/
theorem waited_succ (policy : RetryPolicy) (n retries : ℕ) :
    policy.waited n (retries + 1) = policy.delayBefore n + policy.waited (n + 1) retries := by
  rw [waited, Finset.sum_range_succ', Nat.add_comm, waited]
  simp only [Nat.add_zero, Nat.add_assoc, Nat.add_comm 1]

/-- No wait is longer than the greatest delay. -/
theorem waited_le (policy : RetryPolicy) (n retries : ℕ) :
    policy.waited n retries ≤ retries * policy.maxDelay := by
  have hdelay : ∀ i ∈ Finset.range retries, policy.delayBefore (n + i) ≤ policy.maxDelay :=
    fun i _ => policy.delayBefore_le (n + i)
  calc policy.waited n retries ≤ ∑ _i ∈ Finset.range retries, policy.maxDelay :=
        Finset.sum_le_sum hdelay
    _ = retries * policy.maxDelay := by
        rw [Finset.sum_const_nat fun _ _ => rfl, Finset.card_range]

/-- **What a call comes to is known from the attempts that it makes.** Before the last of them no
result is conclusive, and the last one is or nothing is left. -/
theorem attemptFrom_eq {before left : ℕ} (hleft : before ≤ left) {start : σ}
    (hbefore : ∀ i < before, IsConclusive (resultAfter call start i) = false)
    (hlast : before = left ∨ IsConclusive (resultAfter call start before) = true) (n time : ℕ) :
    policy.attemptFrom call left n time start =
      ⟨policy.settle (resultAfter call start before), stateAfter call start (before + 1),
        (List.range (before + 1)).map fun i => time + policy.waited n i⟩ := by
  induction before generalizing left start n time with
  | zero =>
      exact attemptFrom_of_ends (hlast.imp_left Eq.symm) n time
  | succ before ih =>
      obtain ⟨left, rfl⟩ : ∃ more, left = more + 1 := ⟨left - 1, by omega⟩
      have hrest := @ih left (Nat.le_of_succ_le_succ hleft) (call start).2
        (fun i hi => resultAfter_succ start i ▸ hbefore (i + 1) (Nat.succ_lt_succ hi))
        (hlast.imp Nat.succ.inj fun h => resultAfter_succ start before ▸ h)
        (n + 1) (time + policy.delayBefore n)
      rw [resultAfter_succ, stateAfter_succ] at hrest
      have htimes : (List.range (before + 1 + 1)).map (fun i => time + policy.waited n i) =
          time :: (List.range (before + 1)).map
            fun i => time + policy.delayBefore n + policy.waited (n + 1) i := by
        rw [List.range_succ_eq_map, List.map_cons, List.map_map]
        refine congrArg₂ List.cons (Nat.add_zero time) (List.map_congr_left fun i _ => ?_)
        rw [Function.comp_apply, waited_succ, Nat.add_assoc]
      have hfirst : IsConclusive (call start).1 = false := hbefore 0 (Nat.succ_pos before)
      rw [attemptFrom_of_goesOn hfirst, hrest, htimes, Retried.preceded]

/-- What a call comes to that makes one attempt after a number of others, and no further one. -/
theorem run_eq {before : ℕ} (hleft : before < policy.attempts) {start : σ}
    (hbefore : ∀ i < before, IsConclusive (resultAfter call start i) = false)
    (hlast : before + 1 = policy.attempts ∨
      IsConclusive (resultAfter call start before) = true) :
    policy.run call start =
      ⟨policy.settle (resultAfter call start before), stateAfter call start (before + 1),
        (List.range (before + 1)).map (policy.waited 1)⟩ := by
  rw [run, attemptFrom_eq (Nat.le_sub_one_of_lt hleft) hbefore
    (hlast.imp_left fun h => by omega)]
  simp only [Nat.zero_add]

/-- Some attempt is the last one that a call makes. -/
theorem exists_last (policy : RetryPolicy) (call : σ → Except NetError α × σ) (start : σ) :
    ∃ before < policy.attempts,
      (∀ i < before, IsConclusive (resultAfter call start i) = false) ∧
        (before + 1 = policy.attempts ∨
          IsConclusive (resultAfter call start before) = true) := by
  have hpos : 0 < policy.attempts := Nat.le_max_right _ _
  have hends : ∃ before, before + 1 = policy.attempts ∨
      IsConclusive (resultAfter call start before) = true :=
    ⟨policy.attempts - 1, .inl (Nat.sub_add_cancel hpos)⟩
  classical
  refine ⟨Nat.find hends, ?_, fun i hi => ?_, Nat.find_spec hends⟩
  · have hle : Nat.find hends ≤ policy.attempts - 1 :=
      Nat.find_min' hends (.inl (Nat.sub_add_cancel hpos))
    omega
  · exact Bool.eq_false_iff.2 fun h => Nat.find_min hends hi (.inr h)

/-! ### Counting in a word -/

/-- A counter with room left is raised. -/
theorem toNat_raised {counter : UInt32} (h : counter.toNat + 1 < UInt32.size) :
    (counter + 1).toNat = counter.toNat + 1 := by
  rw [UInt32.toNat_add]
  exact Nat.mod_eq_of_lt h

/-- The greater of two words is the greater number. -/
theorem toNat_max (a b : UInt32) : (max a b).toNat = max a.toNat b.toNat := by
  change (if a ≤ b then b else a).toNat = _
  split
  next h => exact (Nat.max_eq_right (UInt32.le_iff_toNat_le.1 h)).symm
  next h =>
    rw [UInt32.le_iff_toNat_le, Nat.not_le] at h
    exact (Nat.max_eq_left h.le).symm

/-- Makes attempts from the `attempt`-th on, of which `attempts` are allowed in all, counted in 32
bits. There is none where the counter cannot be raised. -/
def countedFrom (policy : RetryPolicy) (call : σ → Except NetError α × σ)
    (attempts attempt : UInt32) (time : ℕ) (state : σ) : Option (Retried σ α) :=
  match call state with
  | (.ok value, state) => some ⟨.ok value, state, [time]⟩
  | (.error error, state) =>
    if error.isRetryable then
      if attempts ≤ attempt then
        some ⟨.error (if attempts = 1 then error else .retriesExhausted attempts.toNat error),
          state, [time]⟩
      else if attempt.toNat + 1 < UInt32.size then
        (countedFrom policy call attempts (attempt + 1) (time + policy.delayBefore attempt.toNat)
          state).map (Retried.preceded time)
      else none
    else some ⟨.error error, state, [time]⟩
  termination_by UInt32.size - attempt.toNat
  decreasing_by
    have hnext : (attempt + 1).toNat = attempt.toNat + 1 := toNat_raised ‹_›
    rw [hnext]
    omega

/-- **The counter is always raised.** As long as it is not beyond the number of attempts that are
allowed, counting in a word changes nothing. -/
theorem countedFrom_eq {attempts attempt : UInt32} (hattempts : policy.attempts = attempts.toNat)
    {left : ℕ} (hleft : attempt.toNat + left = attempts.toNat) (time : ℕ) (state : σ) :
    policy.countedFrom call attempts attempt time state =
      some (policy.attemptFrom call left attempt.toNat time state) := by
  induction left generalizing attempt time state with
  | zero =>
      have hlast : attempts ≤ attempt := UInt32.le_iff_toNat_le.2 hleft.ge
      have hone : attempts = 1 ↔ policy.attempts = 1 := by
        rw [hattempts, ← UInt32.toNat_inj]
        rfl
      rw [countedFrom, attemptFrom.eq_def]
      rcases call state with ⟨error | value, next⟩
      · simp only [hlast, if_true, exhausted, hone, ← hattempts]
        split <;> rfl
      · rfl
  | succ left ih =>
      have hlast : ¬attempts ≤ attempt := by
        rw [UInt32.le_iff_toNat_le]
        omega
      -- an attempt is left, so the counter is below the greatest word and can be raised
      have hroom : attempt.toNat + 1 < UInt32.size := by
        have hsize := attempts.toNat_lt_size
        omega
      have hnext : (attempt + 1).toNat = attempt.toNat + 1 := toNat_raised hroom
      rw [countedFrom, attemptFrom.eq_def]
      rcases call state with ⟨error | value, next⟩
      · have hrest := @ih (attempt + 1) (by omega)
          (time + policy.delayBefore attempt.toNat) next
        simp only [hlast, hroom, if_true, if_false, hrest, hnext, Option.map_some]
        split <;> rfl
      · rfl

/-! ### The whole -/

/-- How a call under a policy ends, and when its attempts start. -/
structure Retries (policy : RetryPolicy) (call : σ → Except NetError α × σ) (start : σ) : Prop where
  /-- The first conclusive result, if an attempt that is allowed comes to one, is the last one and
  is left as it is. -/
  conclusive : ∀ before < policy.attempts,
    (∀ i < before, IsConclusive (resultAfter call start i) = false) →
    IsConclusive (resultAfter call start before) = true →
    (policy.run call start).result = resultAfter call start before ∧
      (policy.run call start).state = stateAfter call start (before + 1) ∧
      (policy.run call start).startedAt.length = before + 1
  /-- Without one all attempts that are allowed are made, and the last failure is wrapped unless it
  is the only one. -/
  exhausted : (∀ i < policy.attempts, IsConclusive (resultAfter call start i) = false) →
    ∃ last, resultAfter call start (policy.attempts - 1) = .error last ∧
      (policy.run call start).result =
        .error (if policy.attempts = 1 then last
          else .retriesExhausted policy.attempts last) ∧
      (policy.run call start).state = stateAfter call start policy.attempts ∧
      (policy.run call start).startedAt.length = policy.attempts
  /-- Each attempt starts once the delays before all retries up to it have passed. -/
  started : ∀ i time, (policy.run call start).startedAt[i]? = some time →
    time = ∑ n ∈ Finset.range i, policy.delayBefore (n + 1)
  /-- So nothing starts later than after the greatest delay for each retry. -/
  waits : ∀ time ∈ (policy.run call start).startedAt,
    time ≤ (policy.attempts - 1) * policy.maxDelay
  /-- For a number of attempts that fits 32 bits the counter does too. -/
  counts : ∀ maxAttempts : UInt32, policy.maxAttempts = maxAttempts.toNat →
    policy.countedFrom call (max maxAttempts 1) 1 0 start = some (policy.run call start)

/-- **Every call under a policy ends with the first conclusive result**, or with its last one. -/
theorem retries_run (policy : RetryPolicy) (call : σ → Except NetError α × σ) (start : σ) :
    Retries policy call start := by
  -- All is read off the last attempt that is made: none before it is conclusive, and it is itself,
  -- or no other is allowed.
  obtain ⟨last, hlast, hbefore, hends⟩ := exists_last policy call start
  have hrun := run_eq hlast hbefore hends
  refine ⟨fun before hlt hprior hconclusive => ?_, fun hall => ?_, fun i time htime => ?_,
    fun time htime => ?_, fun maxAttempts hmax => ?_⟩
  · rw [run_eq hlt hprior (.inr hconclusive), settle_of_isConclusive hconclusive]
    exact ⟨rfl, rfl, by rw [List.length_map, List.length_range]⟩
  · have hfinal : last + 1 = policy.attempts :=
      hends.resolve_right fun h => Bool.false_ne_true ((hall last hlast).symm.trans h)
    obtain ⟨error, herror, hretry⟩ := exists_of_not_isConclusive (hall last hlast)
    refine ⟨error, by rw [← hfinal]; exact herror, ?_⟩
    rw [hrun, herror, settle, if_pos hretry, RetryPolicy.exhausted, hfinal]
    exact ⟨rfl, rfl, by rw [List.length_map, List.length_range]⟩
  · rw [hrun, List.getElem?_map] at htime
    obtain ⟨j, hj, rfl⟩ := Option.map_eq_some_iff.1 htime
    obtain ⟨-, rfl⟩ := List.getElem?_eq_some_iff.1 hj
    rw [List.getElem_range, waited]
    exact Finset.sum_congr rfl fun n _ => by rw [Nat.add_comm]
  · rw [hrun, List.mem_map] at htime
    obtain ⟨i, hi, rfl⟩ := htime
    have hle : i ≤ policy.attempts - 1 := by
      rw [List.mem_range] at hi
      omega
    exact (policy.waited_le 1 i).trans (Nat.mul_le_mul_right _ hle)
  · have hattempts : policy.attempts = (max maxAttempts 1).toNat := by
      rw [attempts, hmax, toNat_max]
      rfl
    have hleft : (1 : UInt32).toNat + (policy.attempts - 1) = (max maxAttempts 1).toNat := by
      rw [← hattempts]
      exact Nat.add_sub_cancel' (Nat.le_max_right _ _)
    exact countedFrom_eq hattempts hleft 0 start

end RetryPolicy

end Reconcile

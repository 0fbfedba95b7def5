import Reconcile.Net.Error
import Reconcile.Word

/-!
# Retrying

A policy makes a bounded number of attempts and waits longer and longer between them: before the
`n`-th retry the base delay times 2ⁿ⁻¹, at most the greatest delay. A success and a final failure
end a call at once; a retryable failure does so only in the last attempt.

Times are milliseconds since the start of the first attempt, and the attempts themselves take no
time, so the times at which they start show the delays and nothing else.
-/

namespace Reconcile

/-- How often and how fast to retry. -/
structure RetryPolicy where
  /-- The number of attempts, the first included; 0 counts as 1. -/
  maxAttempts : Nat
  /-- The delay before the first retry, in milliseconds. -/
  baseDelay : Nat
  /-- The greatest delay, in milliseconds. -/
  maxDelay : Nat
  deriving DecidableEq, Repr, Inhabited

/-- What a call under a retry policy comes to. -/
structure Retried (σ α : Type) where
  result : Except NetError α
  /-- The state that the last attempt left. -/
  state : σ
  /-- When each attempt started, in milliseconds. -/
  startedAt : List Nat

namespace RetryPolicy

/-- The policy for calls to a service that may be down for some minutes. -/
def standard : RetryPolicy :=
  ⟨20, 1000, 10000⟩

/-- The policy of a single attempt. -/
def single : RetryPolicy :=
  ⟨1, 0, 0⟩

/-- The number of attempts that a policy allows. -/
def attempts (policy : RetryPolicy) : Nat :=
  max policy.maxAttempts 1

/-- A power of two that stops growing at the greatest number of 32 bits. -/
def cappedPower (exponent : Nat) : Nat :=
  if exponent < 32 then Nat.pow 2 exponent else wordSize 32 - 1

/-- The longest time that can be waited, in milliseconds: 2⁶⁴ − 1 seconds and a fraction. -/
def longestWait : Nat :=
  (wordSize 64 - 1) * 1000 + 999

/-- The delay before the `n`-th retry, which is counted from 1, in milliseconds. -/
def delayBefore (policy : RetryPolicy) (n : Nat) : Nat :=
  min (min (policy.baseDelay * cappedPower (n - 1)) longestWait) policy.maxDelay

/-- The failure of a call whose last attempt failed in a way that another might not have. -/
def exhausted (policy : RetryPolicy) (last : NetError) : NetError :=
  if policy.attempts = 1 then last else .retriesExhausted policy.attempts last

/-- Makes attempts from the `n`-th on, of which `left` more are allowed after this one. -/
def attemptFrom {σ α : Type} (policy : RetryPolicy) (call : σ → Except NetError α × σ)
    (left n time : Nat) (state : σ) : Retried σ α :=
  match call state with
  | (.ok value, state) => ⟨.ok value, state, [time]⟩
  | (.error error, state) =>
    if error.isRetryable then
      match left with
      | 0 => ⟨.error (policy.exhausted error), state, [time]⟩
      | left + 1 =>
        let rest := attemptFrom policy call left (n + 1) (time + policy.delayBefore n) state
        { rest with startedAt := time :: rest.startedAt }
    else ⟨.error error, state, [time]⟩

/-- Makes a call under a policy. -/
def run {σ α : Type} (policy : RetryPolicy) (call : σ → Except NetError α × σ) (state : σ) :
    Retried σ α :=
  policy.attemptFrom call (policy.attempts - 1) 1 0 state

/-- How attempts end: either this one is the last, and a value that the call comes to is that of it,
or the call goes on with the attempts after it. -/
theorem attemptFrom_cases {σ α : Type} (policy : RetryPolicy) (call : σ → Except NetError α × σ)
    (left n time : Nat) (state : σ) :
    let made := policy.attemptFrom call left n time state
    (made.state = (call state).2 ∧ ∀ value, made.result = .ok value → (call state).1 = .ok value) ∨
      ∃ less, left = less + 1 ∧
        let rest :=
          policy.attemptFrom call less (n + 1) (time + policy.delayBefore n) (call state).2
        made.state = rest.state ∧ made.result = rest.result := by
  intro made
  have hmade : made = _ := attemptFrom.eq_def policy call left n time state
  rcases hcall : call state with ⟨error | value, next⟩
  · rw [hcall] at hmade
    dsimp only at hmade
    split at hmade
    · cases left with
      | zero => exact .inl ⟨by rw [hmade], by rw [hmade]; nofun⟩
      | succ less => exact .inr ⟨less, rfl, by rw [hmade], by rw [hmade]⟩
    · exact .inl ⟨by rw [hmade], by rw [hmade]; nofun⟩
  · rw [hcall] at hmade
    exact .inl ⟨by rw [hmade], fun _ h => by rwa [hmade] at h⟩

/-- If no attempt raises a measure, and attempts with a wanted value lower it, a call that comes to
such a value lowers it. -/
theorem attemptFrom_lt {σ α : Type} {policy : RetryPolicy} {call : σ → Except NetError α × σ}
    {measure : σ → Nat} (wanted : α → Prop)
    (hle : ∀ state, measure (call state).2 ≤ measure state)
    (hlt : ∀ state value next, call state = (.ok value, next) → wanted value →
      measure next < measure state)
    {left n time : Nat} {state : σ} {value : α}
    (h : (policy.attemptFrom call left n time state).result = .ok value) (hvalue : wanted value) :
    measure (policy.attemptFrom call left n time state).state < measure state := by
  induction left using Nat.strongRecOn generalizing n time state with
  | ind left ih =>
    rcases policy.attemptFrom_cases call left n time state with
      ⟨hstate, hlast⟩ | ⟨less, rfl, hstate, hresult⟩
    · rw [hstate]
      exact hlt state value _ (Prod.ext (hlast value h) rfl) hvalue
    · rw [hstate]
      exact Nat.lt_of_lt_of_le (ih less less.lt_succ_self (hresult ▸ h)) (hle state)

/-- What every attempt preserves, a call preserves. -/
theorem state_run_of_attempt {σ α : Type} (policy : RetryPolicy)
    {call : σ → Except NetError α × σ} {P : σ → Prop} (hstep : ∀ state, P state → P (call state).2)
    {state : σ} (hstate : P state) : P (policy.run call state).state := by
  have hfrom : ∀ left n time state, P state →
      P (policy.attemptFrom call left n time state).state := by
    intro left
    induction left using Nat.strongRecOn with
    | ind left ih =>
      intro n time state hstate
      rcases policy.attemptFrom_cases call left n time state with
        ⟨hnext, -⟩ | ⟨less, rfl, hnext, -⟩
      · exact hnext ▸ hstep state hstate
      · exact hnext ▸ ih less less.lt_succ_self _ _ _ (hstep state hstate)
  exact hfrom _ _ _ _ hstate

end RetryPolicy

end Reconcile

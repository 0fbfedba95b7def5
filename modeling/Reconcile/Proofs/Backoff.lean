import Mathlib.Tactic.Ring
import Reconcile.Net.Retry

/-!
# How delays grow

The delay before the `n`-th retry is the base delay times `2 ^ (n - 1)`, at most the greatest delay.
Two more bounds stand behind that rule: the power is a number of 32 bits, and a product is a length
of time that can be told in 64 bits of seconds. The first shows where a base delay is so short, or a
retry so late, that even the greatest power of 32 bits does not bring it to the greatest delay; the
second never does, since the greatest delay is a length of time of its own.

Neither makes a delay wrap. `Duration` is a length of time in words, with the product and the
minimum computed word by word, and `Duration.backoff` the delay so computed. Each operation is
exact up to a bound and stays there (`toNat_saturatingPower`, `Duration.toNanoseconds_times`,
`Duration.toNanoseconds_atMost`), so the words tell what the numbers do
(`Duration.toNanoseconds_backoff`).

The main result is `RetryPolicy.backsOff_ofWords`.
-/

namespace Reconcile

/-! ### Words of 32 bits -/

/-- The product of two words, or the greatest word if the product does not fit. -/
def saturatingProduct (a b : UInt32) : UInt32 :=
  if a.toNat * b.toNat < wordSize 32 then a * b else 0xFFFFFFFF

/-- A power of a word, or the greatest word if the power does not fit. -/
def saturatingPower (base : UInt32) : ℕ → UInt32
  | 0 => 1
  | n + 1 => saturatingProduct (saturatingPower base n) base

/-- The word before a word; 0 has none and is left as it is. -/
def saturatingPred (n : UInt32) : UInt32 :=
  if n = 0 then 0 else n - 1

/-- The number of 32-bit words, in digits. -/
theorem wordSize_32 : wordSize 32 = 4294967296 :=
  rfl

/-- The number of 64-bit words, in digits. -/
theorem wordSize_64 : wordSize 64 = 18446744073709551616 :=
  rfl

/-- A saturating product is the product, up to the greatest word. -/
theorem toNat_saturatingProduct (a b : UInt32) :
    (saturatingProduct a b).toNat = min (a.toNat * b.toNat) (wordSize 32 - 1) := by
  rw [saturatingProduct, wordSize_32]
  split
  next hfits =>
    rw [UInt32.toNat_mul, Nat.mod_eq_of_lt hfits]
    omega
  next hfits =>
    have hgreatest : (0xFFFFFFFF : UInt32).toNat = 4294967295 := rfl
    rw [hgreatest]
    omega

/-- Once a power does not fit, no further one does unless it is 0. -/
theorem toNat_saturatingPower (base : UInt32) (n : ℕ) :
    (saturatingPower base n).toNat = min (base.toNat ^ n) (wordSize 32 - 1) := by
  induction n with
  | zero => rfl
  | succ n ih =>
      rw [saturatingPower, toNat_saturatingProduct, ih, Nat.pow_succ]
      rcases Nat.eq_zero_or_pos base.toNat with hzero | hpos
      · rw [hzero, Nat.mul_zero, Nat.mul_zero]
      · rcases le_total (base.toNat ^ n) (wordSize 32 - 1) with hle | hle
        · rw [min_eq_left hle]
        · rw [min_eq_right hle, min_eq_right (Nat.le_mul_of_pos_right _ hpos),
            min_eq_right (hle.trans (Nat.le_mul_of_pos_right _ hpos))]

/-- A saturating predecessor stops at zero, as in the natural numbers. -/
theorem toNat_saturatingPred (n : UInt32) : (saturatingPred n).toNat = n.toNat - 1 := by
  rw [saturatingPred]
  split
  next hzero => rw [hzero]; rfl
  next hzero =>
    have hpos : n.toNat ≠ 0 := fun h => hzero (UInt32.toNat_inj.1 h)
    refine UInt32.toNat_sub_of_le n 1 (UInt32.le_iff_toNat_le.2 ?_)
    exact Nat.one_le_iff_ne_zero.2 hpos

/-! ### Lengths of time -/

/-- A length of time: whole seconds, and nanoseconds that make no whole one. -/
structure Duration where
  seconds : UInt64
  nanoseconds : UInt32
  nanoseconds_lt : nanoseconds.toNat < 1000000000
  deriving DecidableEq, Repr

namespace Duration

/-- A length of time as a number of nanoseconds. -/
def toNanoseconds (duration : Duration) : ℕ :=
  duration.seconds.toNat * 1000000000 + duration.nanoseconds.toNat

/-- The part of a second that is left over fits into a word of nanoseconds. -/
theorem toNat_fraction (milliseconds : UInt64) :
    ((milliseconds % 1000).toUInt32 * 1000000).toNat = milliseconds.toNat % 1000 * 1000000 := by
  rw [UInt32.toNat_mul, UInt64.toNat_toUInt32, UInt64.toNat_mod]
  change milliseconds.toNat % 1000 % 2 ^ 32 * 1000000 % 2 ^ 32 = _
  omega

/-- A number of milliseconds. -/
def ofMilliseconds (milliseconds : UInt64) : Duration where
  seconds := milliseconds / 1000
  nanoseconds := (milliseconds % 1000).toUInt32 * 1000000
  nanoseconds_lt := by
    rw [toNat_fraction]
    omega

/-- Any number of milliseconds is a duration of just that length. -/
theorem toNanoseconds_ofMilliseconds (milliseconds : UInt64) :
    (ofMilliseconds milliseconds).toNanoseconds = 1000000 * milliseconds.toNat := by
  rw [toNanoseconds, ofMilliseconds, toNat_fraction, UInt64.toNat_div]
  change milliseconds.toNat / 1000 * 1000000000 + _ = _
  omega

/-- The longest time that can be told. -/
def longest : Duration :=
  ⟨0xFFFFFFFFFFFFFFFF, 999999999, by decide⟩

/-- The longest duration, in nanoseconds. -/
theorem toNanoseconds_longest :
    longest.toNanoseconds = 18446744073709551615 * 1000000000 + 999999999 :=
  rfl

/-- No length of time is longer. -/
theorem toNanoseconds_le (duration : Duration) :
    duration.toNanoseconds ≤ longest.toNanoseconds := by
  have hseconds := duration.seconds.toNat_lt
  have hnanoseconds := duration.nanoseconds_lt
  rw [toNanoseconds_longest, toNanoseconds]
  omega

/-- The product of two words of 64 bits, if it fits. -/
def product? (a b : UInt64) : Option UInt64 :=
  if a.toNat * b.toNat < wordSize 64 then some (a * b) else none

/-- The sum of two words of 64 bits, if it fits. -/
def sum? (a b : UInt64) : Option UInt64 :=
  if a.toNat + b.toNat < wordSize 64 then some (a + b) else none

/-- The nanoseconds of a product, whole seconds included. They always fit a word. -/
def spread (duration : Duration) (factor : UInt32) : UInt64 :=
  duration.nanoseconds.toUInt64 * factor.toUInt64

/-- The nanoseconds below a second can be multiplied by any word without an overflow. -/
theorem toNat_spread (duration : Duration) (factor : UInt32) :
    (duration.spread factor).toNat = duration.nanoseconds.toNat * factor.toNat := by
  have hlt : duration.nanoseconds.toNat * factor.toNat < 2 ^ 64 :=
    calc duration.nanoseconds.toNat * factor.toNat < 2 ^ 32 * 2 ^ 32 :=
          Nat.mul_lt_mul'' duration.nanoseconds.toNat_lt factor.toNat_lt
      _ = 2 ^ 64 := rfl
  rw [spread, UInt64.toNat_mul, UInt32.toNat_toUInt64, UInt32.toNat_toUInt64,
    Nat.mod_eq_of_lt hlt]

/-- The whole seconds that the multiplied nanoseconds carry over. -/
theorem toNat_spread_div (duration : Duration) (factor : UInt32) :
    (duration.spread factor / 1000000000).toNat =
      duration.nanoseconds.toNat * factor.toNat / 1000000000 := by
  rw [UInt64.toNat_div, toNat_spread]
  rfl

/-- What the multiplied nanoseconds leave below a second. -/
theorem toNat_spread_mod (duration : Duration) (factor : UInt32) :
    (duration.spread factor % 1000000000).toUInt32.toNat =
      duration.nanoseconds.toNat * factor.toNat % 1000000000 := by
  rw [UInt64.toNat_toUInt32, UInt64.toNat_mod, toNat_spread]
  change _ % 1000000000 % 2 ^ 32 = _
  omega

/-- A multiple of a length of time, if it can be told. -/
def times? (duration : Duration) (factor : UInt32) : Option Duration :=
  (product? duration.seconds factor.toUInt64).bind fun product =>
    (sum? product (duration.spread factor / 1000000000)).map fun seconds =>
      ⟨seconds, (duration.spread factor % 1000000000).toUInt32, by
        rw [toNat_spread_mod]
        exact Nat.mod_lt _ (by decide)⟩

/-- A multiple of a length of time, or the longest time. -/
def times (duration : Duration) (factor : UInt32) : Duration :=
  (duration.times? factor).getD longest

/-- **A multiple is exact up to the longest time and stays there.** -/
theorem toNanoseconds_times (duration : Duration) (factor : UInt32) :
    (duration.times factor).toNanoseconds =
      min (duration.toNanoseconds * factor.toNat) longest.toNanoseconds := by
  have hdiv := duration.toNat_spread_div factor
  have hmod := duration.toNat_spread_mod factor
  have hproduct : duration.toNanoseconds * factor.toNat =
      duration.seconds.toNat * factor.toNat * 1000000000 +
        duration.nanoseconds.toNat * factor.toNat := by
    rw [toNanoseconds]
    ring
  rw [hproduct, times, times?, product?, UInt32.toNat_toUInt64, wordSize_64]
  -- the seconds fit with those that the nanoseconds make, or the whole is longer than the longest
  split
  next hseconds =>
    have hmul : (duration.seconds * factor.toUInt64).toNat =
        duration.seconds.toNat * factor.toNat := by
      rw [UInt64.toNat_mul, UInt32.toNat_toUInt64]
      exact Nat.mod_eq_of_lt hseconds
    rw [Option.bind_some, sum?, hmul, hdiv, wordSize_64]
    split
    next hsum =>
      rw [Option.map_some, Option.getD_some, toNanoseconds, UInt64.toNat_add, hmul, hdiv, hmod,
        Nat.mod_eq_of_lt hsum, toNanoseconds_longest]
      omega
    next hsum =>
      rw [Option.map_none, Option.getD_none, toNanoseconds_longest]
      omega
  next hseconds =>
    rw [Option.bind_none, Option.getD_none, toNanoseconds_longest]
    omega

/-- The shorter one of two lengths of time; seconds are compared first. -/
def atMost (duration greatest : Duration) : Duration :=
  if duration.seconds < greatest.seconds ∨
      duration.seconds = greatest.seconds ∧ duration.nanoseconds ≤ greatest.nanoseconds then
    duration
  else greatest

/-- The shorter of two durations is the one of fewer nanoseconds. -/
theorem toNanoseconds_atMost (duration greatest : Duration) :
    (duration.atMost greatest).toNanoseconds =
      min duration.toNanoseconds greatest.toNanoseconds := by
  have hleft := duration.nanoseconds_lt
  have hright := greatest.nanoseconds_lt
  rw [atMost]
  simp only [UInt64.lt_iff_toNat_lt, UInt32.le_iff_toNat_le, ← UInt64.toNat_inj]
  split <;> simp only [toNanoseconds] <;> omega

/-- The delay before the `n`-th retry, which is counted from 1, computed in words. -/
def backoff (base greatest : Duration) (n : UInt32) : Duration :=
  (base.times (saturatingPower 2 (saturatingPred n).toNat)).atMost greatest

/-- **The product of a delay shows no bound of its own**: where it stays at the longest time, the
greatest delay is shorter. -/
theorem toNanoseconds_backoff (base greatest : Duration) (n : UInt32) :
    (backoff base greatest n).toNanoseconds =
      min (base.toNanoseconds * min (2 ^ (n.toNat - 1)) (2 ^ 32 - 1)) greatest.toNanoseconds := by
  rw [backoff, toNanoseconds_atMost, toNanoseconds_times, toNat_saturatingPower,
    toNat_saturatingPred, min_assoc, min_eq_right greatest.toNanoseconds_le]
  rfl

end Duration

/-! ### The delays of a policy -/

namespace RetryPolicy

/-- A policy whose delays are given in words, as numbers of milliseconds. -/
def ofWords (attempts : UInt32) (base greatest : UInt64) : RetryPolicy :=
  ⟨attempts.toNat, base.toNat, greatest.toNat⟩

/-- A power of two that is capped at each doubling is the power, capped once. -/
theorem cappedPower_eq (exponent : ℕ) : cappedPower exponent = min (2 ^ exponent) (2 ^ 32 - 1) := by
  rw [cappedPower]
  split
  next hlt =>
    have hle : 2 ^ exponent ≤ 2 ^ 31 := Nat.pow_le_pow_right (by decide) (by omega)
    have hfits : 2 ^ exponent ≤ 2 ^ 32 - 1 := hle.trans (by decide)
    exact (min_eq_left hfits).symm
  next hlt =>
    have hle : 2 ^ 32 ≤ 2 ^ exponent := Nat.pow_le_pow_right (by decide) (by omega)
    exact (min_eq_right ((Nat.sub_le _ _).trans hle)).symm

/-- A delay that is given in a word can be waited. -/
theorem toNat_le_longestWait (milliseconds : UInt64) : milliseconds.toNat ≤ longestWait :=
  have hword : 2 ^ 64 ≤ longestWait := by decide
  milliseconds.toNat_lt.le.trans hword

/-- **The delay before a retry**, for a greatest delay that can be waited at all. -/
theorem delayBefore_eq {policy : RetryPolicy} (h : policy.maxDelay ≤ longestWait) (n : ℕ) :
    policy.delayBefore n =
      min (policy.baseDelay * min (2 ^ (n - 1)) (2 ^ 32 - 1)) policy.maxDelay := by
  rw [delayBefore, cappedPower_eq, min_assoc, min_eq_right h]

/-- No delay exceeds the greatest one. -/
theorem delayBefore_le (policy : RetryPolicy) (n : ℕ) : policy.delayBefore n ≤ policy.maxDelay :=
  min_le_right _ _

/-- No retry waits less than one before. -/
theorem delayBefore_mono (policy : RetryPolicy) : Monotone policy.delayBefore := by
  intro m n hmn
  have hpower : 2 ^ (m - 1) ≤ 2 ^ (n - 1) :=
    Nat.pow_le_pow_right (by decide) (Nat.sub_le_sub_right hmn 1)
  rw [delayBefore, delayBefore, cappedPower_eq, cappedPower_eq]
  exact min_le_min_right _ (min_le_min_right _
    (Nat.mul_le_mul_left _ (min_le_min_right _ hpower)))

/-- The bound of the power does not show in the first 32 delays, nor where the greatest power
brings the base delay to the greatest one. -/
theorem min_mul_min_eq {base greatest n : ℕ} (h : n ≤ 32 ∨ greatest ≤ base * (2 ^ 32 - 1)) :
    min (base * min (2 ^ (n - 1)) (2 ^ 32 - 1)) greatest = min (base * 2 ^ (n - 1)) greatest := by
  rcases le_total (2 ^ (n - 1)) (2 ^ 32 - 1) with hfits | hlong
  · rw [min_eq_left hfits]
  · have hlate : ¬n ≤ 32 := fun hn =>
      absurd (hlong.trans (Nat.pow_le_pow_right (by decide) (by omega : n - 1 ≤ 31))) (by decide)
    have hcapped := h.resolve_left hlate
    rw [min_eq_right hlong, min_eq_right hcapped,
      min_eq_right (hcapped.trans (Nat.mul_le_mul_left _ hlong))]

/-- Whether the delays of a policy double from the base delay on, up to the greatest one. -/
structure BacksOff (attempts : UInt32) (base greatest : UInt64) : Prop where
  /-- The delays in numbers without a bound. -/
  delay_eq : ∀ n, (ofWords attempts base greatest).delayBefore n =
    min (base.toNat * min (2 ^ (n - 1)) (2 ^ 32 - 1)) greatest.toNat
  /-- The delays computed in words are the same. -/
  words_eq : ∀ n : UInt32, (Duration.backoff (.ofMilliseconds base) (.ofMilliseconds greatest)
      n).toNanoseconds = 1000000 * (ofWords attempts base greatest).delayBefore n.toNat
  /-- No retry waits less than one before. -/
  monotone : ∀ m n, m ≤ n → (ofWords attempts base greatest).delayBefore m ≤
    (ofWords attempts base greatest).delayBefore n
  /-- No delay exceeds the greatest one. -/
  le : ∀ n, (ofWords attempts base greatest).delayBefore n ≤ greatest.toNat
  /-- After the greatest delay all further ones are the greatest. -/
  stays : ∀ m n, m ≤ n → (ofWords attempts base greatest).delayBefore m = greatest.toNat →
    (ofWords attempts base greatest).delayBefore n = greatest.toNat
  /-- The bound of the power does not show in the first 32 delays, nor where the greatest power of
  32 bits brings the base delay to the greatest one. -/
  doubles : ∀ n, n ≤ 32 ∨ greatest.toNat ≤ base.toNat * (2 ^ 32 - 1) →
    (ofWords attempts base greatest).delayBefore n =
      min (base.toNat * 2 ^ (n - 1)) greatest.toNat
  /-- A delay is never nothing unless the base delay or the greatest one is. -/
  positive : 0 < base.toNat → 0 < greatest.toNat →
    ∀ n, 0 < (ofWords attempts base greatest).delayBefore n

/-- **Delays double up to the greatest one**, for every policy that is given in words.

The words saturate where the plain product is capped: at the power of two, at the product and at the
greatest delay. So what comes out is the plain formula with the power capped (`delayBefore_eq`). -/
theorem backsOff_ofWords (attempts : UInt32) (base greatest : UInt64) :
    BacksOff attempts base greatest := by
  have hdelay : ∀ n, (ofWords attempts base greatest).delayBefore n =
      min (base.toNat * min (2 ^ (n - 1)) (2 ^ 32 - 1)) greatest.toNat :=
    delayBefore_eq (toNat_le_longestWait greatest)
  have hmono := (ofWords attempts base greatest).delayBefore_mono
  have hle := (ofWords attempts base greatest).delayBefore_le
  refine ⟨hdelay, fun n => ?_, fun _ _ hmn => hmono hmn, hle, fun m n hmn hgreatest => ?_,
    fun n hn => (hdelay n).trans (min_mul_min_eq hn), fun hbase hgreatest n => ?_⟩
  · rw [Duration.toNanoseconds_backoff, Duration.toNanoseconds_ofMilliseconds,
      Duration.toNanoseconds_ofMilliseconds, hdelay, Nat.mul_assoc, Nat.mul_min_mul_left]
  · exact (hle n).antisymm (hgreatest.symm.trans_le (hmono hmn))
  · rw [hdelay]
    have hpower : 0 < min (2 ^ (n - 1)) (2 ^ 32 - 1) := lt_min (Nat.two_pow_pos _) (by decide)
    exact lt_min (Nat.mul_pos hbase hpower) hgreatest

/-- With a base delay of one millisecond the 34th delay shows the bound of the power. -/
example : (ofWords 40 1 0xFFFFFFFFFFFFFFFF).delayBefore 34 = 2 ^ 32 - 1 := by
  decide

end RetryPolicy

end Reconcile

import Mathlib.Data.List.Basic
import Reconcile.Json.Number
import Reconcile.Proofs.JsonInside

/-!
# Numbers as they are written

Whatever a number is, what is written for it has the form of a number, and is read as one in front
of the marks that may follow a value: `Json.Number.readsAs_print`. It rests on the digits that are
written: there is one, and the first is no zero unless it stands alone.
-/

namespace Reconcile

/-! ### Digits -/

namespace Decimal

/-- No decimal without digits belongs to a number other than zero. -/
theorem not_contains_zero {x : Binary64} (h : x.mantissa ≠ 0) (den : Nat) (hden : 0 < den) :
    (interval x).contains 0 den = false := by
  have hlow : 0 < (interval x).low := by
    have hmantissa : 1 ≤ x.mantissa := Nat.one_le_iff_ne_zero.2 h
    unfold interval Binary64.toRatio
    by_cases hexponent : 0 ≤ x.exponent
    · have hunit : 0 < Nat.pow 2 x.exponent.toNat := Nat.pow_pos Nat.two_pos
      have hnum : Nat.pow 2 x.exponent.toNat ≤ x.mantissa * Nat.pow 2 x.exponent.toNat :=
        Nat.le_mul_of_pos_left _ hmantissa
      simp only [hexponent, if_true]
      split <;> omega
    · simp only [hexponent, if_false]
      split <;> omega
  have hne : (interval x).low * den ≠ 0 := Nat.ne_of_gt (Nat.mul_pos hlow hden)
  unfold Interval.contains
  simp only [Nat.zero_mul, Nat.le_zero, Nat.not_lt_zero, hne, decide_false, Bool.false_and]
  split <;> rfl

/-- The denominator of a power of ten is not zero. -/
theorem powerOfTen_pos (exponent : Int) : 0 < (powerOfTen exponent).2 := by
  unfold powerOfTen
  split
  · exact Nat.one_pos
  · exact Nat.pow_pos (by decide)

/-- The digits found for a number other than zero are not zero. -/
theorem digits_onGrid_ne_zero {x : Binary64} (h : x.mantissa ≠ 0) {exponent : Int} {d : Shortest}
    (hd : onGrid? (interval x) exponent = some d) : d.digits ≠ 0 := by
  have hq := powerOfTen_pos exponent
  rcases hpower : powerOfTen exponent with ⟨p, q⟩
  rw [hpower] at hq
  rw [onGrid?, hpower] at hd
  obtain ⟨digits, hfound, rfl⟩ := Option.map_eq_some_iff.1 hd
  have hfits := List.find?_some hfound
  rintro rfl
  rw [Nat.zero_mul, not_contains_zero h q hq] at hfits
  cases hfits

/-- Dropping zeros at the end leaves no zero where there was none. -/
theorem digits_dropZeros_ne_zero {d : Shortest} (h : d.digits ≠ 0) (fuel : Nat) :
    (dropZeros fuel d).digits ≠ 0 := by
  induction fuel generalizing d with
  | zero => exact h
  | succ fuel ih =>
      rw [dropZeros]
      split
      next hzero => exact ih (show d.digits / 10 ≠ 0 by omega)
      · exact h

/-- **The shortest decimal of a number other than zero has a digit other than zero.** -/
theorem digits_shortest_ne_zero {x : Binary64} (h : x.mantissa ≠ 0) :
    (shortest x).digits ≠ 0 := by
  unfold shortest
  dsimp only
  split
  next d hd =>
    obtain ⟨exponent, -, hgrid⟩ := List.exists_of_findSome?_eq_some hd
    exact digits_dropZeros_ne_zero (digits_onGrid_ne_zero h hgrid) 20
  · exact h

end Decimal

namespace Json

/-- Only zero has a zero in front. -/
theorem eq_zero_of_head_decimal {n : Nat} (h : (decimal n).head? = some '0') : n = 0 := by
  have hsmall : ∀ n < 10, n.digitChar = '0' → n = 0 := by decide
  rw [decimal] at h
  induction n using Nat.strongRecOn with
  | ind n ih =>
      by_cases hn : n < 10
      · rw [Nat.toDigits_of_lt_base hn] at h
        exact hsmall n hn (Option.some.inj h)
      · rw [Nat.toDigits_of_base_le (by decide) (Nat.le_of_not_lt hn), List.head?_append,
          Option.or_of_isSome (List.isSome_head?.2 Nat.toDigits_ne_nil)] at h
        have hfront := ih (n / 10) (by omega) h
        omega

/-- What is written for a number: a first digit and more digits. -/
theorem exists_decimal_eq (n : Nat) :
    ∃ c more, decimal n = c :: more ∧ c.isDigit = true ∧ (∀ d ∈ more, d.isDigit = true) ∧
      (c = '0' → n = 0) := by
  have hdigits : ∀ d ∈ decimal n, d.isDigit = true :=
    fun d hd => Nat.isDigit_of_mem_toDigits (by decide) (by decide) hd
  obtain ⟨c, more, heq⟩ := List.exists_cons_of_ne_nil (Nat.toDigits_ne_nil (n := n) (b := 10))
  have hcons : decimal n = c :: more := heq
  rw [hcons, List.forall_mem_cons] at hdigits
  refine ⟨c, more, hcons, hdigits.1, hdigits.2, ?_⟩
  rintro rfl
  exact eq_zero_of_head_decimal (by rw [hcons]; rfl)

/-! ### The form of a number -/

namespace NumberStage

/-- The stage after a digit in front. -/
def ofDigit (c : Char) : NumberStage :=
  if c = '0' then .zero else .whole

/-- The stage after more characters of a number, if there is one. -/
def after? (stage : NumberStage) (text : List Char) : Option NumberStage :=
  text.foldlM next? stage

/-- The text of a number is followed one character at a time. -/
theorem after?_cons {stage next : NumberStage} {c : Char} (h : stage.next? c = some next)
    (text : List Char) : stage.after? (c :: text) = next.after? text := by
  rw [after?, List.foldlM_cons, h]
  rfl

/-- A text in two pieces is followed piece by piece. -/
theorem after?_append {stage next : NumberStage} {text : List Char}
    (h : stage.after? text = some next) (more : List Char) :
    stage.after? (text ++ more) = next.after? more := by
  rw [after?, List.foldlM_append]
  rw [after?] at h
  rw [h]
  rfl

/-- Where a digit may be followed by digits, it may be followed by any number of them. -/
theorem after?_digits {stage : NumberStage}
    (hstage : ∀ c : Char, c.isDigit = true → stage.next? c = some stage) {digits : List Char}
    (h : ∀ c ∈ digits, c.isDigit = true) : stage.after? digits = some stage := by
  induction digits with
  | nil => rfl
  | cons c digits ih =>
      rw [List.forall_mem_cons] at h
      rw [after?_cons (hstage c h.1), ih h.2]

/-- Digits of the whole part go on with it. -/
theorem next?_whole (c : Char) (h : c.isDigit = true) : next? .whole c = some .whole :=
  if_pos h

/-- Digits of the fraction go on with it. -/
theorem next?_fraction (c : Char) (h : c.isDigit = true) : next? .fraction c = some .fraction :=
  if_pos h

/-- The point is followed by the digits of the fraction. -/
theorem next?_point (c : Char) (h : c.isDigit = true) : next? .point c = some .fraction :=
  if_pos h

/-- The sign of an exponent is followed by its digits. -/
theorem next?_exponentSign (c : Char) (h : c.isDigit = true) :
    next? .exponentSign c = some .exponentDigits :=
  if_pos h

/-- Digits of the exponent go on with it. -/
theorem next?_exponentDigits (c : Char) (h : c.isDigit = true) :
    next? .exponentDigits c = some .exponentDigits :=
  if_pos h

variable {digits : List Char}

/-- Behind a point there is at least one digit. -/
theorem after?_point (h : ∀ c ∈ digits, c.isDigit = true) (hne : digits ≠ []) :
    after? .point digits = some .fraction := by
  obtain ⟨c, more, rfl⟩ := List.exists_cons_of_ne_nil hne
  rw [List.forall_mem_cons] at h
  rw [after?_cons (next?_point c h.1), after?_digits next?_fraction h.2]

/-- An exponent with its sign ends a number. -/
theorem after?_exponent {stage : NumberStage} (hstage : stage.next? 'e' = some .exponent)
    (isNegative : Prop) [Decidable isNegative] (n : Nat) :
    stage.after? ('e' :: (if isNegative then '-' else '+') :: decimal n) =
      some .exponentDigits := by
  obtain ⟨c, more, hdecimal, hc, hmore, -⟩ := exists_decimal_eq n
  have hsign : next? .exponent (if isNegative then '-' else '+') = some .exponentSign := by
    split <;> rfl
  rw [after?_cons hstage, after?_cons hsign, hdecimal, after?_cons (next?_exponentSign c hc),
    after?_digits next?_exponentDigits hmore]

end NumberStage

/-- **Whether a text has the form of a number without a sign.** -/
def IsUnsigned (text : List Char) : Prop :=
  ∃ c more stage, text = c :: more ∧ c.isDigit = true ∧
    (NumberStage.ofDigit c).after? more = some stage ∧ stage.isComplete = true

open NumberStage

/-- The digits of a number in front, and what may follow them. -/
theorem isUnsigned_whole {c : Char} {more rest : List Char} {stage : NumberStage}
    (hc : c.isDigit = true) (hzero : c ≠ '0') (hmore : ∀ d ∈ more, d.isDigit = true)
    (hrest : after? .whole rest = some stage) (hstage : stage.isComplete = true) :
    IsUnsigned (c :: (more ++ rest)) := by
  refine ⟨c, more ++ rest, stage, rfl, hc, ?_, hstage⟩
  rw [ofDigit, if_neg hzero, after?_append (after?_digits next?_whole hmore), hrest]

/-- The decimal digits of a natural number spell a number without a sign. -/
theorem isUnsigned_decimal (n : Nat) : IsUnsigned (decimal n) := by
  by_cases hn : n = 0
  · subst hn
    exact ⟨'0', [], .zero, rfl, rfl, rfl, rfl⟩
  · obtain ⟨c, more, hdecimal, hc, hmore, hzero⟩ := exists_decimal_eq n
    rw [hdecimal, ← List.append_nil more]
    exact isUnsigned_whole hc (fun heq => hn (hzero heq)) hmore rfl rfl

/-- Zeros that fill up a number are digits. -/
theorem isDigit_of_mem_replicate {n : Nat} {c : Char} (h : c ∈ List.replicate n '0') :
    c.isDigit = true := by
  rw [List.eq_of_mem_replicate h]
  decide

section Layouts

variable {c : Char} {front back : List Char}

/-- A point between digits. -/
theorem isUnsigned_point (hc : c.isDigit = true) (hzero : c ≠ '0')
    (hfront : ∀ d ∈ front, d.isDigit = true) (hback : ∀ d ∈ back, d.isDigit = true)
    (hne : back ≠ []) : IsUnsigned (c :: (front ++ '.' :: back)) := by
  have hrest : after? .whole ('.' :: back) = some .fraction := by
    rw [after?_cons rfl, after?_point hback hne]
  exact isUnsigned_whole hc hzero hfront hrest rfl

/-- A point behind a zero. -/
theorem isUnsigned_zero_point (hback : ∀ d ∈ back, d.isDigit = true) (hne : back ≠ []) :
    IsUnsigned ('0' :: '.' :: back) := by
  refine ⟨'0', '.' :: back, .fraction, rfl, rfl, ?_, rfl⟩
  rw [ofDigit, if_pos rfl, after?_cons rfl, after?_point hback hne]

/-- An exponent behind one digit. -/
theorem isUnsigned_exponent (hc : c.isDigit = true) (hzero : c ≠ '0') (isNegative : Prop)
    [Decidable isNegative] (n : Nat) :
    IsUnsigned (c :: 'e' :: (if isNegative then '-' else '+') :: decimal n) :=
  isUnsigned_whole hc hzero (List.forall_mem_nil _) (after?_exponent rfl isNegative n) rfl

/-- An exponent behind a point and digits. -/
theorem isUnsigned_point_exponent (hc : c.isDigit = true) (hzero : c ≠ '0')
    (hback : ∀ d ∈ back, d.isDigit = true) (hne : back ≠ []) (isNegative : Prop)
    [Decidable isNegative] (n : Nat) :
    IsUnsigned (c :: '.' :: (back ++ 'e' :: (if isNegative then '-' else '+') :: decimal n)) := by
  have hrest : after? .whole ('.' :: (back ++ 'e' :: (if isNegative then '-' else '+') ::
      decimal n)) = some .exponentDigits := by
    rw [after?_cons rfl, after?_append (after?_point hback hne), after?_exponent rfl]
  exact isUnsigned_whole hc hzero (List.forall_mem_nil _) hrest rfl

end Layouts

/-- **The shortest decimal is written in the form of a number**, positional or with an exponent. -/
theorem isUnsigned_printShortest {d : Decimal.Shortest} (h : d.digits ≠ 0) :
    IsUnsigned (printShortest d) := by
  obtain ⟨c, more, hdecimal, hc, hmore, hzero⟩ := exists_decimal_eq d.digits
  have hne : c ≠ '0' := fun heq => h (hzero heq)
  unfold printShortest
  dsimp only
  rw [hdecimal]
  split
  · have hfront : ∀ e ∈ more ++ List.replicate d.exponent.toNat '0', e.isDigit = true :=
      List.forall_mem_append.2 ⟨hmore, fun e he => isDigit_of_mem_replicate he⟩
    rw [List.cons_append, List.cons_append]
    exact isUnsigned_point hc hne hfront (List.forall_mem_singleton.2 rfl) (List.cons_ne_nil _ _)
  split
  next hlarge hpoint =>
    -- the point is behind the first digit and `k` others, but not behind all
    obtain ⟨k, hk⟩ : ∃ k : Nat, (d.exponent + ((c :: more).length : Int)) = (k : Int) + 1 :=
      ⟨(d.exponent + ((c :: more).length : Int) - 1).toNat, by omega⟩
    have hdrop : more.drop k ≠ [] := by
      rw [List.length_cons] at hk hlarge hpoint
      rw [Ne, List.drop_eq_nil_iff]
      omega
    have htoNat : ((k : Int) + 1).toNat = k + 1 := rfl
    rw [hk, htoNat, List.take_succ_cons, List.drop_succ_cons]
    exact isUnsigned_point hc hne (fun e he => hmore e (List.mem_of_mem_take he))
      (fun e he => hmore e (List.mem_of_mem_drop he)) hdrop
  split
  · refine isUnsigned_zero_point (List.forall_mem_append.2 ⟨fun e he =>
      isDigit_of_mem_replicate he, List.forall_mem_cons.2 ⟨hc, hmore⟩⟩) ?_
    exact List.append_ne_nil_of_right_ne_nil _ (List.cons_ne_nil _ _)
  · cases more with
    | nil => exact isUnsigned_exponent hc hne _ _
    | cons e more => exact isUnsigned_point_exponent hc hne hmore (List.cons_ne_nil _ _) _ _

/-! ### Reading a number -/

section

variable {frames : List Frame}

/-- While a number is being read, the reader does nothing but follow its stages and keep its
spelling. -/
theorem run_number {stage next : NumberStage} {text : List Char} (h : stage.after? text = some next)
    (spelling : List Char) :
    run ⟨frames, .number stage spelling⟩ text =
      some ⟨frames, .number next (text.reverse ++ spelling)⟩ := by
  induction text generalizing stage spelling with
  | nil =>
      cases h
      rfl
  | cons c text ih =>
      rw [after?, List.foldlM_cons] at h
      obtain ⟨following, hfollowing, hrest⟩ := Option.bind_eq_some_iff.1 h
      have hstep : step ⟨frames, .number stage spelling⟩ c =
          some ⟨frames, .number following (c :: spelling)⟩ := by
        rw [step]
        dsimp only
        rw [hfollowing]
      rw [run_cons, hstep, Option.bind_some, ih hrest, List.reverse_cons, List.append_assoc]
      rfl

/-- A number ends in front of a mark. -/
theorem step_number {stage : NumberStage} (h : stage.isComplete = true) (spelling : List Char)
    {c : Char} (hc : c ∈ endMarks) :
    step ⟨frames, .number stage spelling⟩ c =
      step (State.put (.number spelling.reverse) frames) c := by
  have hnone : stage.next? c = none := by
    rw [endMarks, List.mem_cons, List.mem_cons, List.mem_singleton] at hc
    rcases hc with rfl | rfl | rfl <;> cases stage <;> rfl
  rw [step, step_put]
  dsimp only
  rw [hnone]
  exact if_pos h

/-- A digit where a value is expected begins a number. -/
theorem step_value_digit {c : Char} (h : c.isDigit = true) (closes : Bool) :
    step ⟨frames, .value closes⟩ c = some ⟨frames, .number (ofDigit c) [c]⟩ := by
  have hne : ∀ d : Char, d.isDigit = false → c ≠ d := by
    rintro d hd rfl
    exact Bool.false_ne_true (hd.symm.trans h)
  have hblank : isBlank c = false := by
    simp [isBlank, hne ' ' (by decide), hne '\t' (by decide), hne '\n' (by decide),
      hne '\r' (by decide)]
  change stepValue frames closes c = _
  rw [stepValue.eq_def, hblank, if_neg Bool.false_ne_true, if_neg (hne '"' (by decide)),
    if_neg (hne '[' (by decide)), if_neg (hne '\x7b' (by decide)), if_neg (hne '-' (by decide)),
    if_pos h, ofDigit]
  split <;> rfl

/-- A digit after the minus begins the number itself. -/
theorem step_sign_digit {c : Char} (h : c.isDigit = true) :
    step ⟨frames, .number .sign ['-']⟩ c = some ⟨frames, .number (ofDigit c) [c, '-']⟩ := by
  have hnext : next? .sign c = some (ofDigit c) := by
    rw [next?, if_pos h, ofDigit]
    split <;> rfl
  rw [step]
  dsimp only
  rw [hnext]

end

/-- **A text in the form of a number is read as the number**, with a minus sign or without. -/
theorem IsUnsigned.readsAs {text : List Char} (h : IsUnsigned text) (negative : Bool) :
    ReadsAs ((if negative then ['-'] else []) ++ text)
      (.number ((if negative then ['-'] else []) ++ text)) := by
  obtain ⟨c, more, stage, rfl, hc, hmore, hstage⟩ := h
  intro frames closes
  cases negative with
  | false =>
      refine ⟨⟨frames, .number stage (more.reverse ++ [c])⟩, ?_, fun d hd => ?_⟩
      · rw [if_neg Bool.false_ne_true, List.nil_append, run_cons, step_value_digit hc,
          Option.bind_some, run_number hmore]
      · rw [step_number hstage _ hd, List.reverse_append, List.reverse_reverse]
        rfl
  | true =>
      have hsign : step ⟨frames, .value closes⟩ '-' = some ⟨frames, .number .sign ['-']⟩ := rfl
      refine ⟨⟨frames, .number stage (more.reverse ++ [c, '-'])⟩, ?_, fun d hd => ?_⟩
      · rw [if_pos rfl, List.singleton_append, run_cons, hsign, Option.bind_some, run_cons,
          step_sign_digit hc, Option.bind_some, run_number hmore]
      · rw [step_number hstage _ hd, List.reverse_append, List.reverse_reverse]
        rfl

/-- **A number is read as it was written.** -/
theorem Number.readsAs_print (number : Number) : ReadsAs number.print (.number number.print) := by
  cases number with
  | whole value =>
      have hread := (isUnsigned_decimal value.natAbs).readsAs (decide (value < 0))
      rw [print]
      simpa only [decide_eq_true_eq] using hread
  | float negative value =>
      refine IsUnsigned.readsAs ?_ negative
      by_cases hzero : value.mantissa = 0
      · rw [if_pos hzero]
        exact ⟨'0', ['.', '0'], .fraction, rfl, rfl, rfl, rfl⟩
      · rw [if_neg hzero]
        exact isUnsigned_printShortest (Decimal.digits_shortest_ne_zero hzero)

end Json

end Reconcile

import Mathlib.Data.String.Basic
import Reconcile.Text.Utf8

/-!
# UTF-8 keeps texts and their order

The bytes of a text are decoded to the text, no other bytes are (`Utf8.decode_bytes`,
`Utf8.decode_eq_ok_iff`), and texts are ordered as their bytes are (`Utf8.bytes_lt_bytes_iff`). All
of it comes down to one character: `Utf8.utf8EncodeChar_cases` lists the four shapes that its bytes
have.

Bytes that are cut off hold the beginning of the text (`Utf8.take_encode_cases`). They are a text
again unless the cut falls inside a character (`Utf8.decodeFrom_cut`).
-/

namespace Reconcile.Utf8

/-! ### The bytes of a character -/

/-- A number below 256 is what its byte stands for. -/
theorem toNat_ofNat {n : Nat} (h : n < 256) : (UInt8.ofNat n).toNat = n :=
  UInt8.toNat_ofNat_of_lt' h

/-- The range of a continuation byte. -/
theorem isTail_iff {b : UInt8} : isTail b = true ↔ 0x80 ≤ b.toNat ∧ b.toNat ≤ 0xBF := by
  rw [isTail, Bool.and_eq_true, decide_eq_true_eq, decide_eq_true_eq, UInt8.le_iff_toNat_le,
    UInt8.le_iff_toNat_le]
  rfl

/-- The range of the second of three bytes: it leaves out what two bytes can spell, and the
surrogates. -/
theorem isSecondOfThree_iff {a b : UInt8} : isSecondOfThree a b = true ↔
    (if a.toNat = 0xE0 then 0xA0 else 0x80) ≤ b.toNat ∧
      b.toNat ≤ (if a.toNat = 0xED then 0x9F else 0xBF) := by
  simp only [isSecondOfThree, Bool.and_eq_true, decide_eq_true_eq, UInt8.le_iff_toNat_le,
    ← UInt8.toNat_inj, apply_ite UInt8.toNat, UInt8.reduceToNat]

/-- The range of the second of four bytes: it leaves out what three bytes can spell, and what lies
beyond Unicode. -/
theorem isSecondOfFour_iff {a b : UInt8} : isSecondOfFour a b = true ↔
    (if a.toNat = 0xF0 then 0x90 else 0x80) ≤ b.toNat ∧
      b.toNat ≤ (if a.toNat = 0xF4 then 0x8F else 0xBF) := by
  simp only [isSecondOfFour, Bool.and_eq_true, decide_eq_true_eq, UInt8.le_iff_toNat_le,
    ← UInt8.toNat_inj, apply_ite UInt8.toNat, UInt8.reduceToNat]

/-- The shapes of the bytes of a character, by the number of the character. -/
theorem utf8EncodeChar_cases (c : Char) :
    (c.toNat < 0x80 ∧ String.utf8EncodeChar c = [UInt8.ofNat c.toNat]) ∨
      (0x80 ≤ c.toNat ∧ c.toNat < 0x800 ∧ String.utf8EncodeChar c =
        [UInt8.ofNat (c.toNat / 64 + 0xC0), UInt8.ofNat (c.toNat % 64 + 0x80)]) ∨
      (0x800 ≤ c.toNat ∧ c.toNat < 0x10000 ∧ (c.toNat < 0xD800 ∨ 0xDFFF < c.toNat) ∧
        String.utf8EncodeChar c =
          [UInt8.ofNat (c.toNat / 4096 + 0xE0), UInt8.ofNat (c.toNat / 64 % 64 + 0x80),
            UInt8.ofNat (c.toNat % 64 + 0x80)]) ∨
      (0x10000 ≤ c.toNat ∧ c.toNat < 0x110000 ∧ String.utf8EncodeChar c =
        [UInt8.ofNat (c.toNat / 262144 + 0xF0), UInt8.ofNat (c.toNat / 4096 % 64 + 0x80),
          UInt8.ofNat (c.toNat / 64 % 64 + 0x80), UInt8.ofNat (c.toNat % 64 + 0x80)]) := by
  have hvalid : c.toNat < 0xD800 ∨ 0xDFFF < c.toNat ∧ c.toNat < 0x110000 := c.valid
  rw [String.utf8EncodeChar, show c.val.toNat = c.toNat from rfl]
  by_cases h₁ : c.toNat ≤ 0x7F
  · rw [if_pos h₁]
    exact .inl ⟨by omega, rfl⟩
  by_cases h₂ : c.toNat ≤ 0x7FF
  · rw [if_neg h₁, if_pos h₂, Nat.mod_eq_of_lt (by omega : c.toNat / 64 < 0x20)]
    exact .inr (.inl ⟨by omega, by omega, rfl⟩)
  by_cases h₃ : c.toNat ≤ 0xFFFF
  · rw [if_neg h₁, if_neg h₂, if_pos h₃, Nat.mod_eq_of_lt (by omega : c.toNat / 4096 < 0x10)]
    exact .inr (.inr (.inl ⟨by omega, by omega, by omega, rfl⟩))
  · rw [if_neg h₁, if_neg h₂, if_neg h₃, Nat.mod_eq_of_lt (by omega : c.toNat / 262144 < 0x08)]
    exact .inr (.inr (.inr ⟨by omega, by omega, rfl⟩))

/-- The character with the number of a character. -/
theorem ofNat_eq_of_eq {c : Char} {n : Nat} (h : n = c.toNat) : Char.ofNat n = c := by
  rw [h, Char.ofNat_toNat]

/-- **The bytes of a character are read as the character**, whatever follows them. -/
theorem head_utf8EncodeChar (c : Char) (rest : List UInt8) :
    ∃ first more, String.utf8EncodeChar c = first :: more ∧
      head first (more ++ rest) = .char c more.length := by
  -- One case per number of bytes. The number of the character tells the ranges of its bytes, and
  -- its bytes give back the number.
  rcases utf8EncodeChar_cases c with ⟨h, hbytes⟩ | ⟨hlow, h, hbytes⟩ | ⟨hlow, h, hvalid, hbytes⟩ |
    ⟨hlow, h, hbytes⟩
  all_goals refine ⟨_, _, hbytes, ?_⟩
  · have hfirst := @toNat_ofNat c.toNat (by omega)
    simp only [head, UInt8.lt_iff_toNat_lt, hfirst, UInt8.reduceToNat]
    rw [if_pos h, ofNat_eq_of_eq rfl]
    rfl
  · have hfirst := @toNat_ofNat (c.toNat / 64 + 0xC0) (by omega)
    have hsecond := @toNat_ofNat (c.toNat % 64 + 0x80) (by omega)
    simp only [head, List.cons_append, UInt8.lt_iff_toNat_lt, isTail_iff, payload, hfirst, hsecond,
      UInt8.reduceToNat]
    rw [if_neg (by omega), if_neg (by omega), if_pos (by omega), if_pos (by omega),
      @ofNat_eq_of_eq c _ (by omega)]
    rfl
  · have hfirst := @toNat_ofNat (c.toNat / 4096 + 0xE0) (by omega)
    have hsecond := @toNat_ofNat (c.toNat / 64 % 64 + 0x80) (by omega)
    have hthird := @toNat_ofNat (c.toNat % 64 + 0x80) (by omega)
    simp only [head, List.cons_append, UInt8.lt_iff_toNat_lt, isTail_iff, isSecondOfThree_iff,
      payload, hfirst, hsecond, hthird, UInt8.reduceToNat]
    rw [if_neg (by omega), if_neg (by omega), if_neg (by omega), if_pos (by omega),
      if_pos (by split <;> split <;> omega), if_pos (by omega), @ofNat_eq_of_eq c _ (by omega)]
    rfl
  · have hfirst := @toNat_ofNat (c.toNat / 262144 + 0xF0) (by omega)
    have hsecond := @toNat_ofNat (c.toNat / 4096 % 64 + 0x80) (by omega)
    have hthird := @toNat_ofNat (c.toNat / 64 % 64 + 0x80) (by omega)
    have hfourth := @toNat_ofNat (c.toNat % 64 + 0x80) (by omega)
    simp only [head, List.cons_append, UInt8.lt_iff_toNat_lt, isTail_iff, isSecondOfFour_iff,
      payload, hfirst, hsecond, hthird, hfourth, UInt8.reduceToNat]
    rw [if_neg (by omega), if_neg (by omega), if_neg (by omega), if_neg (by omega),
      if_pos (by omega), if_pos (by split <;> split <;> omega), if_pos (by omega),
      if_pos (by omega), @ofNat_eq_of_eq c _ (by omega)]
    rfl

/-! ### Texts -/

/-- A text is encoded character by character. -/
theorem encode_cons (c : Char) (text : List Char) :
    encode (c :: text) = String.utf8EncodeChar c ++ encode text :=
  List.flatMap_cons

/-- The bytes of a character are read before what follows them. -/
theorem decodeFrom_append (c : Char) (rest : List UInt8) (index : Nat) :
    decodeFrom index (String.utf8EncodeChar c ++ rest) =
      (decodeFrom (index + (String.utf8EncodeChar c).length) rest).map (c :: ·) := by
  obtain ⟨first, more, hbytes, hhead⟩ := head_utf8EncodeChar c rest
  rw [hbytes, List.cons_append, decodeFrom, hhead]
  dsimp only
  rw [List.drop_left, List.length_cons, Nat.add_assoc]

/-- **Decoding undoes encoding**, wherever the text begins. -/
theorem decodeFrom_encode (text : List Char) (index : Nat) :
    decodeFrom index (encode text) = .ok text := by
  induction text generalizing index with
  | nil => rw [encode, List.flatMap_nil, decodeFrom]
  | cons c text ih =>
      rw [encode_cons, decodeFrom_append, ih]
      rfl

/-- **The bytes of a text are decoded to the text.** -/
theorem decode_bytes (text : String) : decode (bytes text) = .ok text := by
  rw [decode, bytes, decodeFrom_encode]
  exact congrArg Except.ok String.ofList_toList

/-- **The bytes of a text are read as the text**, also where a replacement character stands for
what is none. -/
theorem decodeLossyList_encode (text : List Char) : decodeLossyList (encode text) = text := by
  induction text with
  | nil => rw [encode, List.flatMap_nil, decodeLossyList]
  | cons c text ih =>
      obtain ⟨first, more, hbytes, hhead⟩ := head_utf8EncodeChar c (encode text)
      rw [encode_cons, hbytes, List.cons_append, decodeLossyList, hhead]
      dsimp only
      rw [List.drop_left, ih]

/-- A byte below 0x80 is a character of its own. -/
theorem mem_encode_of_lt {b : UInt8} (hb : b.toNat < 0x80) {text : List Char}
    (h : b ∈ encode text) : Char.ofNat b.toNat ∈ text := by
  obtain ⟨c, hc, hbyte⟩ := List.mem_flatMap.1 h
  have hsame : b.toNat = c.toNat := by
    rcases utf8EncodeChar_cases c with ⟨hlt, hbytes⟩ | ⟨hlow, hlt, hbytes⟩ |
      ⟨hlow, hlt, -, hbytes⟩ | ⟨hlow, hlt, hbytes⟩
    all_goals
      rw [hbytes] at hbyte
      simp only [List.mem_cons, List.not_mem_nil, or_false, ← UInt8.toNat_inj] at hbyte
      simp (disch := omega) only [toNat_ofNat] at hbyte
      omega
  rwa [ofNat_eq_of_eq hsame]

/-! ### Bytes that are cut off -/

/-- **The beginning of a text's bytes** holds the beginning of the text, and perhaps some but not
all bytes of the character after it. -/
theorem take_encode_cases (text : List Char) (n : Nat) :
    (∃ before, before <+: text ∧ (encode text).take n = encode before) ∨
      ∃ before c k, before ++ [c] <+: text ∧ 0 < k ∧ k < (String.utf8EncodeChar c).length ∧
        (encode text).take n = encode before ++ (String.utf8EncodeChar c).take k := by
  induction text generalizing n with
  | nil => exact .inl ⟨[], List.prefix_rfl, List.take_nil⟩
  | cons c text ih =>
      rw [encode_cons]
      by_cases hwhole : (String.utf8EncodeChar c).length ≤ n
      · rw [List.take_append, List.take_of_length_le hwhole]
        rcases ih (n - (String.utf8EncodeChar c).length) with
          ⟨before, hbefore, htake⟩ | ⟨before, d, k, hbefore, hk, hlt, htake⟩
        · refine .inl ⟨c :: before, List.prefix_cons_inj _ |>.2 hbefore, ?_⟩
          rw [htake, encode_cons]
        · refine .inr ⟨c :: before, d, k, List.prefix_cons_inj _ |>.2 hbefore, hk, hlt, ?_⟩
          rw [htake, encode_cons, List.append_assoc]
      · rw [List.take_append_of_le_length (by omega)]
        rcases Nat.eq_zero_or_pos n with rfl | hn
        · exact .inl ⟨[], List.nil_prefix, rfl⟩
        · refine .inr ⟨[], c, n, ?_, hn, by omega, rfl⟩
          exact List.prefix_cons_inj _ |>.2 List.nil_prefix

/-- Where a character is read, fewer bytes than it has are the start of one that is cut. -/
theorem head_take_of_char {a : UInt8} {rest : List UInt8} {c : Char} {extra : Nat}
    (h : head a rest = .char c extra) {k : Nat} (hk : k < extra) :
    head a (rest.take k) = .incomplete := by
  have hextra : extra ≤ 3 := by
    unfold head at h
    grind
  unfold head at h ⊢
  rcases (by omega : k = 0 ∨ k = 1 ∨ k = 2) with rfl | rfl | rfl
  · rw [List.take_zero]
    grind
  · cases rest with
    | nil => grind
    | cons b rest =>
        rw [List.take_succ_cons, List.take_zero]
        grind
  · rcases rest with _ | ⟨b, _ | ⟨c, rest⟩⟩
    · grind
    · grind
    · rw [List.take_succ_cons, List.take_succ_cons, List.take_zero]
      grind

/-- **Bytes that end inside a character are no text.** -/
theorem decodeFrom_cut (before : List Char) {c : Char} {k : Nat} (hk : 0 < k)
    (hlt : k < (String.utf8EncodeChar c).length) (index : Nat) :
    decodeFrom index (encode before ++ (String.utf8EncodeChar c).take k) =
      .error (.incomplete (index + (encode before).length)) := by
  induction before generalizing index with
  | nil =>
      obtain ⟨first, more, hbytes, hhead⟩ := head_utf8EncodeChar c []
      rw [hbytes, List.length_cons] at hlt
      obtain ⟨k, rfl⟩ := Nat.exists_eq_add_of_lt hk
      rw [List.append_nil] at hhead
      rw [hbytes, encode, List.flatMap_nil, List.nil_append, Nat.zero_add, List.take_succ_cons,
        decodeFrom, head_take_of_char hhead (by omega)]
      rfl
  | cons d before ih =>
      rw [encode_cons, List.append_assoc, decodeFrom_append, ih, List.length_append, Nat.add_assoc]
      rfl

/-! ### What is decoded -/

/-- A scalar value is what its character stands for. -/
theorem toNat_charOfNat {n : Nat} (h : n < 0xD800 ∨ 0xDFFF < n ∧ n < 0x110000) :
    (Char.ofNat n).toNat = n := by
  rw [Char.ofNat, dif_pos h]
  rfl

/-- Two bytes are those of the character that they are read as. -/
theorem utf8EncodeChar_two {a b : UInt8} (ha : 0xC2 ≤ a.toNat ∧ a.toNat < 0xE0)
    (hb : 0x80 ≤ b.toNat ∧ b.toNat ≤ 0xBF) :
    String.utf8EncodeChar (Char.ofNat (a.toNat % 32 * 64 + b.toNat % 64)) = [a, b] := by
  have hn := @toNat_charOfNat (a.toNat % 32 * 64 + b.toNat % 64) (by omega)
  rcases utf8EncodeChar_cases (Char.ofNat (a.toNat % 32 * 64 + b.toNat % 64)) with
    ⟨h, -⟩ | ⟨-, -, hbytes⟩ | ⟨h, -⟩ | ⟨h, -⟩
  · omega
  · rw [hbytes, hn]
    simp (disch := omega) only [List.cons.injEq, ← UInt8.toNat_inj, toNat_ofNat, and_true]
    omega
  · omega
  · omega

/-- Three bytes are those of the character that they are read as. -/
theorem utf8EncodeChar_three {a b c : UInt8} (ha : 0xE0 ≤ a.toNat ∧ a.toNat < 0xF0)
    (hb : (if a.toNat = 0xE0 then 0xA0 else 0x80) ≤ b.toNat ∧
      b.toNat ≤ (if a.toNat = 0xED then 0x9F else 0xBF))
    (hc : 0x80 ≤ c.toNat ∧ c.toNat ≤ 0xBF) :
    String.utf8EncodeChar (Char.ofNat ((a.toNat % 16 * 64 + b.toNat % 64) * 64 + c.toNat % 64)) =
      [a, b, c] := by
  have hlow : a.toNat = 0xE0 → 0xA0 ≤ b.toNat := fun h => by rw [if_pos h] at hb; exact hb.1
  have hhigh : a.toNat = 0xED → b.toNat ≤ 0x9F := fun h => by rw [if_pos h] at hb; exact hb.2
  have htail : 0x80 ≤ b.toNat ∧ b.toNat ≤ 0xBF := by split at hb <;> split at hb <;> omega
  clear hb
  have hn := @toNat_charOfNat ((a.toNat % 16 * 64 + b.toNat % 64) * 64 + c.toNat % 64) (by omega)
  rcases utf8EncodeChar_cases
      (Char.ofNat ((a.toNat % 16 * 64 + b.toNat % 64) * 64 + c.toNat % 64)) with
    ⟨h, -⟩ | ⟨-, h, -⟩ | ⟨-, -, -, hbytes⟩ | ⟨h, -⟩
  · omega
  · omega
  · rw [hbytes, hn]
    simp (disch := omega) only [List.cons.injEq, ← UInt8.toNat_inj, toNat_ofNat, and_true]
    omega
  · omega

/-- Four bytes are those of the character that they are read as. -/
theorem utf8EncodeChar_four {a b c d : UInt8} (ha : 0xF0 ≤ a.toNat ∧ a.toNat < 0xF5)
    (hb : (if a.toNat = 0xF0 then 0x90 else 0x80) ≤ b.toNat ∧
      b.toNat ≤ (if a.toNat = 0xF4 then 0x8F else 0xBF))
    (hc : 0x80 ≤ c.toNat ∧ c.toNat ≤ 0xBF) (hd : 0x80 ≤ d.toNat ∧ d.toNat ≤ 0xBF) :
    String.utf8EncodeChar (Char.ofNat
        (((a.toNat % 8 * 64 + b.toNat % 64) * 64 + c.toNat % 64) * 64 + d.toNat % 64)) =
      [a, b, c, d] := by
  have hlow : a.toNat = 0xF0 → 0x90 ≤ b.toNat := fun h => by rw [if_pos h] at hb; exact hb.1
  have hhigh : a.toNat = 0xF4 → b.toNat ≤ 0x8F := fun h => by rw [if_pos h] at hb; exact hb.2
  have htail : 0x80 ≤ b.toNat ∧ b.toNat ≤ 0xBF := by split at hb <;> split at hb <;> omega
  clear hb
  have hn := @toNat_charOfNat
    (((a.toNat % 8 * 64 + b.toNat % 64) * 64 + c.toNat % 64) * 64 + d.toNat % 64) (by omega)
  rcases utf8EncodeChar_cases (Char.ofNat
      (((a.toNat % 8 * 64 + b.toNat % 64) * 64 + c.toNat % 64) * 64 + d.toNat % 64)) with
    ⟨h, -⟩ | ⟨-, h, -⟩ | ⟨-, h, -⟩ | ⟨-, -, hbytes⟩
  · omega
  · omega
  · omega
  · rw [hbytes, hn]
    simp (disch := omega) only [List.cons.injEq, ← UInt8.toNat_inj, toNat_ofNat, and_true]
    omega

/-- **What is read as a character are its bytes.** -/
theorem utf8EncodeChar_of_head {a : UInt8} {rest : List UInt8} {c : Char} {extra : Nat}
    (h : head a rest = .char c extra) : String.utf8EncodeChar c = a :: rest.take extra := by
  rw [head.eq_def] at h
  simp only [UInt8.lt_iff_toNat_lt, UInt8.reduceToNat, payload] at h
  split at h
  next hone =>
    obtain ⟨rfl, rfl⟩ := Head.char.inj h
    have hn := @toNat_charOfNat a.toNat (by omega)
    rcases utf8EncodeChar_cases (Char.ofNat a.toNat) with ⟨-, hbytes⟩ | ⟨h, -⟩ | ⟨h, -⟩ | ⟨h, -⟩
    · rw [hbytes, hn, UInt8.ofNat_toNat, List.take_zero]
    all_goals omega
  next hone =>
    repeat' split at h
    all_goals cases h
    · exact utf8EncodeChar_two (by omega) (isTail_iff.1 ‹_›)
    · exact utf8EncodeChar_three (by omega) (isSecondOfThree_iff.1 ‹_›) (isTail_iff.1 ‹_›)
    · next hb _ _ hc _ _ _ hd =>
      exact utf8EncodeChar_four (by omega) (isSecondOfFour_iff.1 hb) (isTail_iff.1 hc)
        (isTail_iff.1 hd)

/-- **Encoding undoes decoding** where that succeeds. -/
theorem encode_of_decodeFrom {input : List UInt8} {text : List Char} {index : Nat}
    (h : decodeFrom index input = .ok text) : encode text = input := by
  induction index, input using decodeFrom.induct generalizing text with
  | case1 index =>
      rw [decodeFrom] at h
      rw [← Except.ok.inj h]
      rfl
  | case2 index a rest c extra hhead ih =>
      rw [decodeFrom, hhead] at h
      dsimp only at h
      cases hrest : decodeFrom (index + extra + 1) (rest.drop extra) with
      | error error =>
          rw [hrest] at h
          cases h
      | ok more =>
          rw [hrest] at h
          rw [← Except.ok.inj h, encode_cons, utf8EncodeChar_of_head hhead, ih hrest,
            List.cons_append, List.take_append_drop]
  | case3 index a rest length hhead =>
      rw [decodeFrom, hhead] at h
      cases h
  | case4 index a rest hhead =>
      rw [decodeFrom, hhead] at h
      cases h

/-- **Bytes are decoded to a text** exactly if they are those of the text. -/
theorem decode_eq_ok_iff {input : List UInt8} {text : String} :
    decode input = .ok text ↔ input = bytes text := by
  refine ⟨fun h => ?_, fun h => h ▸ decode_bytes text⟩
  rw [decode] at h
  cases hfrom : decodeFrom 0 input with
  | error error =>
      rw [hfrom] at h
      cases h
  | ok chars =>
      rw [hfrom] at h
      rw [← Except.ok.inj h, bytes, String.toList_ofList, encode_of_decodeFrom hfrom]

/-! ### The order of texts -/

/-- Bytes are ordered as their numbers. -/
theorem ofNat_lt_ofNat {m n : Nat} (hm : m < 256) (hn : n < 256) :
    UInt8.ofNat m < UInt8.ofNat n ↔ m < n := by
  rw [UInt8.lt_iff_toNat_lt, toNat_ofNat hm, toNat_ofNat hn]

/-- Bytes are equal if their numbers are. -/
theorem ofNat_inj {m n : Nat} (hm : m < 256) (hn : n < 256) :
    UInt8.ofNat m = UInt8.ofNat n ↔ m = n := by
  rw [← UInt8.toNat_inj, toNat_ofNat hm, toNat_ofNat hn]

/-- The bytes of a character come before those of a greater one, whatever follows them. -/
theorem utf8EncodeChar_append_lt {c d : Char} (h : c < d) (x y : List UInt8) :
    String.utf8EncodeChar c ++ x < String.utf8EncodeChar d ++ y := by
  have hlt : c.toNat < d.toNat := h
  rcases utf8EncodeChar_cases c with ⟨hc, hcs⟩ | ⟨hc, hc', hcs⟩ | ⟨hc, hc', -, hcs⟩ | ⟨hc, hc', hcs⟩
  all_goals
    rcases utf8EncodeChar_cases d with ⟨hd, hds⟩ | ⟨hd, hd', hds⟩ | ⟨hd, hd', -, hds⟩ |
      ⟨hd, hd', hds⟩
  all_goals
    rw [hcs, hds]
    simp (disch := omega) only [List.cons_append, List.nil_append, List.cons_lt_cons_iff,
      ofNat_lt_ofNat, ofNat_inj]
    omega

/-- **The order of texts is that of their bytes**, one direction. -/
theorem encode_lt_encode {l m : List Char} (h : l < m) : encode l < encode m := by
  induction l generalizing m with
  | nil =>
      cases m with
      | nil => exact absurd h (lt_irrefl _)
      | cons d m =>
          obtain ⟨first, more, hbytes, -⟩ := head_utf8EncodeChar d []
          rw [encode_cons, hbytes]
          exact List.nil_lt_cons _ _
  | cons c l ih =>
      cases m with
      | nil => exact absurd h (List.not_lt_nil _)
      | cons d m =>
          rw [encode_cons, encode_cons]
          rcases List.cons_lt_cons_iff.1 h with hcd | ⟨rfl, hlm⟩
          · exact utf8EncodeChar_append_lt hcd _ _
          · exact List.append_left_lt (ih hlm)

/-- Texts with the same bytes are the same. -/
theorem bytes_inj {s t : String} : bytes s = bytes t ↔ s = t := by
  constructor
  · intro h
    have hdecode := decode_bytes s
    rw [h, decode_bytes] at hdecode
    exact (Except.ok.inj hdecode).symm
  · rintro rfl
    rfl

/-- **Texts are ordered as their bytes are.** -/
theorem bytes_lt_bytes_iff {s t : String} : bytes s < bytes t ↔ s < t := by
  have hlt : ∀ s t : String, s < t → bytes s < bytes t := fun s t h =>
    encode_lt_encode (String.lt_iff_toList_lt.1 h)
  refine ⟨fun h => ?_, hlt s t⟩
  rcases lt_trichotomy s t with hst | rfl | hst
  · exact hst
  · exact absurd h (List.lt_irrefl _)
  · exact absurd (hlt t s hst) (List.lt_asymm h)

end Reconcile.Utf8

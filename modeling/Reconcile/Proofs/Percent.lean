import Reconcile.Proofs.Utf8
import Reconcile.Url.Percent

/-!
# Percent encoding keeps texts

An encoded text is decoded to the bytes of the text (`Percent.decode_encode`), so that no two texts
are encoded alike (`Percent.encode_inj`), provided that the percent sign itself is encoded. An
encoded text holds percent signs, digits, and the characters that are kept (`Percent.mem_encode`).
-/

namespace Reconcile

/-- A digit in base sixteen, in upper case, is read as the number it was written for. -/
theorem Digit.hexValue?_upper {n : Nat} (h : n < 16) : hexValue? (upper n) = some n := by
  have hall : ∀ n < 16, hexValue? (upper n) = some n := by decide
  exact hall n h

/-- A digit in base sixteen, in upper case, is an ASCII letter or digit. -/
theorem Digit.isAlphanum_upper {n : Nat} (h : n < 16) : (upper n).isAlphanum = true := by
  have hall : ∀ n < 16, (upper n).isAlphanum = true := by decide
  exact hall n h

namespace Percent

variable {keep : Char → Bool}

/-- A text is encoded character by character. -/
theorem encode_cons (c : Char) (text : List Char) :
    encode keep (c :: text) = encodeChar keep c ++ encode keep text :=
  List.flatMap_cons

/-- A character that is not a percent sign stands for itself. -/
theorem decode_cons_of_ne {c : Char} (h : c ≠ '%') (rest : List Char) :
    decode (c :: rest) = String.utf8EncodeChar c ++ decode rest := by
  rw [decode.eq_def]
  split
  · cases ‹_ :: _ = []›
  · rename_i heq
    exact absurd (List.cons.inj heq).1 h
  · rename_i heq
    obtain ⟨rfl, rfl⟩ := List.cons.inj heq
    rfl

/-- **An encoded byte is decoded to the byte.** -/
theorem decode_encodeByte (b : UInt8) (rest : List Char) :
    decode (encodeByte b ++ rest) = b :: decode rest := by
  have hb := b.toNat_lt
  rw [encodeByte, List.cons_append, List.cons_append, List.cons_append, List.nil_append, decode,
    Digit.hexValue?_upper (by omega), Digit.hexValue?_upper (by omega)]
  dsimp only
  rw [Nat.div_add_mod', UInt8.ofNat_toNat]

/-- **Encoded bytes are read back**, whatever follows. -/
theorem decode_flatMap_encodeByte (bytes : List UInt8) (rest : List Char) :
    decode (bytes.flatMap encodeByte ++ rest) = bytes ++ decode rest := by
  induction bytes with
  | nil => rfl
  | cons b bytes ih =>
      rw [List.flatMap_cons, List.append_assoc, decode_encodeByte, ih, List.cons_append]

/-- **An encoded text is decoded to the bytes of the text**, if the percent sign is encoded. -/
theorem decode_encode (hkeep : keep '%' = false) (text : List Char) :
    decode (encode keep text) = Utf8.encode text := by
  induction text with
  | nil => rfl
  | cons c text ih =>
      rw [encode_cons, encodeChar, Utf8.encode_cons]
      split
      next h =>
        have hc : c ≠ '%' := by
          rintro rfl
          exact Bool.false_ne_true (hkeep.symm.trans h.2)
        rw [List.singleton_append, decode_cons_of_ne hc, ih]
      next => rw [decode_flatMap_encodeByte, ih]

/-- **Different texts are encoded differently.** -/
theorem encode_inj (hkeep : keep '%' = false) {text other : List Char} :
    encode keep text = encode keep other ↔ text = other := by
  constructor
  · intro h
    have hbytes := decode_encode hkeep text
    rw [h, decode_encode hkeep] at hbytes
    have hread := Utf8.decodeFrom_encode text 0
    rw [← hbytes, Utf8.decodeFrom_encode] at hread
    exact (Except.ok.inj hread).symm
  · rintro rfl
    rfl

/-- What an encoded character holds: itself if it is kept, or a percent sign and digits. -/
theorem mem_encodeChar {c d : Char} (h : c ∈ encodeChar keep d) :
    (c = d ∧ keep c = true) ∨ c = '%' ∨ c.isAlphanum = true := by
  rw [encodeChar] at h
  split at h
  next hkept =>
    obtain rfl := List.mem_singleton.1 h
    exact .inl ⟨rfl, hkept.2⟩
  next =>
    obtain ⟨b, -, hb⟩ := List.mem_flatMap.1 h
    have hlt := b.toNat_lt
    rw [encodeByte, List.mem_cons, List.mem_cons, List.mem_singleton] at hb
    rcases hb with rfl | rfl | rfl
    · exact .inr (.inl rfl)
    · exact .inr (.inr (Digit.isAlphanum_upper (by omega)))
    · exact .inr (.inr (Digit.isAlphanum_upper (by omega)))

/-- **What an encoded text holds**: characters of the text that are kept, percent signs and
digits. -/
theorem mem_encode {c : Char} {text : List Char} (h : c ∈ encode keep text) :
    (c ∈ text ∧ keep c = true) ∨ c = '%' ∨ c.isAlphanum = true := by
  obtain ⟨d, hd, hc⟩ := List.mem_flatMap.1 h
  exact (mem_encodeChar hc).imp_left fun ⟨heq, hkept⟩ => ⟨heq ▸ hd, hkept⟩

end Percent

end Reconcile

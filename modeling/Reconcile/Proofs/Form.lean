import Reconcile.Key
import Reconcile.Proofs.Percent
import Reconcile.Text.Pieces
import Reconcile.Url.Form

/-!
# Form encoding keeps pairs

`Form.decode` reads a query as a server does: pieces between ampersands, each a name and a value
with an equals sign between them, plus signs for spaces, and encoded bytes of UTF-8. The main result
is `Form.decode_append`: from the query that pairs are written as, exactly these pairs are read,
whatever characters they hold.
-/

namespace Reconcile

/-- Two pieces are joined by the separator. -/
theorem Pieces.joinWith_cons_cons (separator : Char) (piece next : List Char)
    (rest : List (List Char)) :
    joinWith separator (piece :: next :: rest) =
      piece ++ separator :: joinWith separator (next :: rest) :=
  rfl

/-- Pieces that do not hold the separator are what their text is cut into. -/
theorem Pieces.splitOn_joinWith {separator : Char} {pieces : List (List Char)} (hne : pieces ≠ [])
    (h : ∀ piece ∈ pieces, separator ∉ piece) :
    splitOn separator (joinWith separator pieces) = pieces := by
  have hfree : ∀ (piece rest : List Char) (cut : List (List Char)), separator ∉ piece →
      splitOn separator rest = [] :: cut → splitOn separator (piece ++ rest) = piece :: cut := by
    intro piece rest cut hpiece hrest
    induction piece with
    | nil => exact hrest
    | cons c piece ih =>
        obtain ⟨hc, hpiece⟩ := not_or.1 (List.mem_cons.not.1 hpiece)
        rw [List.cons_append, splitOn, if_neg (Ne.symm hc), ih hpiece]
  induction pieces with
  | nil => exact absurd rfl hne
  | cons piece pieces ih =>
      have hpiece := h piece List.mem_cons_self
      cases pieces with
      | nil =>
          have hone := hfree piece [] [] hpiece rfl
          rwa [List.append_nil] at hone
      | cons second pieces =>
          have hrest := ih (List.cons_ne_nil _ _) fun other hother =>
            h other (List.mem_cons_of_mem _ hother)
          rw [joinWith_cons_cons]
          refine hfree piece _ _ hpiece ?_
          rw [splitOn, if_pos rfl, hrest]

namespace Form

/-! ### Reading a query -/

/-- A name or a value as it is read. -/
def decodeText (text : List Char) : String :=
  Utf8.decodeLossy (Percent.decode (text.map fun c => if c = '+' then ' ' else c))

/-- A name and its value as they are read; a piece without an equals sign has no value. -/
def decodePair (piece : List Char) : String × String :=
  match splitAtFirst? '=' piece with
  | some (name, value) => (decodeText name, decodeText value)
  | none => (decodeText piece, "")

/-- The pairs that are read from a query. Empty pieces are none. -/
def decode (query : List Char) : List (String × String) :=
  ((Pieces.splitOn '&' query).filter (!·.isEmpty)).map decodePair

/-! ### Reading what is written -/

/-- What is written holds none of the marks between names and values. -/
theorem not_mem_encode {c : Char} (h : c ∈ ['&', '=']) (text : List Char) :
    c ∉ encode text := by
  have hall : ['&', '='].all
      (fun c => c != '+' && c != '%' && !isPlain c && !c.isAlphanum) = true := by
    decide
  have hmark := List.all_eq_true.1 hall c h
  simp only [Bool.and_eq_true, bne_iff_ne, Bool.not_eq_true'] at hmark
  obtain ⟨⟨⟨hplus, hpercent⟩, hplain⟩, halnum⟩ := hmark
  intro hmem
  obtain ⟨d, -, hd⟩ := List.mem_flatMap.1 hmem
  rw [encodeChar] at hd
  split at hd
  · exact hplus (List.mem_singleton.1 hd)
  · rcases Percent.mem_encodeChar hd with ⟨-, hkept⟩ | heq | halnum'
    · exact Bool.false_ne_true (hplain.symm.trans hkept)
    · exact hpercent heq
    · exact Bool.false_ne_true (halnum.symm.trans halnum')

/-- With spaces for the plus signs, what is written is encoded by its bytes. -/
theorem map_encode (text : List Char) :
    (encode text).map (fun c => if c = '+' then ' ' else c) =
      Percent.encode (fun c => isPlain c || c == ' ') text := by
  rw [encode, List.map_flatMap, Percent.encode]
  refine List.flatMap_congr fun c _ => ?_
  rw [encodeChar]
  by_cases hspace : c = ' '
  · rw [hspace]
    decide
  · have hplus : ∀ d ∈ Percent.encodeChar isPlain c, (if d = '+' then ' ' else d) = d := by
      intro d hd
      refine if_neg ?_
      rintro rfl
      rcases Percent.mem_encodeChar hd with ⟨-, hkept⟩ | heq | halnum
      · exact absurd hkept (by decide)
      · exact absurd heq (by decide)
      · exact absurd halnum (by decide)
    rw [if_neg hspace, List.map_congr_left hplus, List.map_id', Percent.encodeChar,
      Percent.encodeChar, beq_eq_false_iff_ne.2 hspace, Bool.or_false]

/-- **A text is read as it was before it was written.** -/
theorem decodeText_encode (text : String) : decodeText (encode text.toList) = text := by
  have hpercent : (fun c => isPlain c || c == ' ') '%' = false := by decide
  rw [decodeText, map_encode, Percent.decode_encode hpercent, Utf8.decodeLossy,
    Utf8.decodeLossyList_encode, String.ofList_toList]

/-- **A pair is read back** from its encoding. -/
theorem decodePair_encodePair (pair : String × String) : decodePair (encodePair pair) = pair := by
  have hsplit : splitAtFirst? '=' (encodePair pair) =
      some (encode pair.1.toList, encode pair.2.toList) :=
    splitAtFirst?_eq_some_iff.2 ⟨rfl, not_mem_encode (by decide) _⟩
  rw [decodePair, hsplit]
  exact Prod.ext (decodeText_encode pair.1) (decodeText_encode pair.2)

/-- An encoded pair has no ampersand, so it can be told from the next one. -/
theorem not_mem_encodePair (pair : String × String) : '&' ∉ encodePair pair := by
  have htext : ∀ text, '&' ∉ encode text := not_mem_encode List.mem_cons_self
  rw [encodePair, List.mem_append, List.mem_cons]
  rintro (hname | heq | hvalue)
  · exact htext _ hname
  · exact absurd heq (by decide)
  · exact htext _ hvalue

/-- An encoded pair is not empty: it has its equals sign. -/
theorem encodePair_ne_nil (pair : String × String) : encodePair pair ≠ [] :=
  List.append_ne_nil_of_right_ne_nil _ (List.cons_ne_nil _ _)

/-- Pairs that are added to a query stand behind it, with ampersands between them. -/
theorem append_eq_joinWith {query : List Char} (hquery : query ≠ [])
    (pairs : List (String × String)) :
    append query pairs = Pieces.joinWith '&' (query :: pairs.map encodePair) := by
  have hjoin : ∀ (query written : List Char) (rest : List (List Char)),
      Pieces.joinWith '&' ((query ++ '&' :: written) :: rest) =
        Pieces.joinWith '&' (query :: written :: rest) := by
    intro query written rest
    cases rest with
    | nil => rfl
    | cons next rest =>
        rw [Pieces.joinWith_cons_cons, Pieces.joinWith_cons_cons, Pieces.joinWith_cons_cons,
          List.append_assoc, List.cons_append]
  induction pairs generalizing query with
  | nil => rfl
  | cons pair pairs ih =>
      have hfilled : ¬query.isEmpty = true := fun hempty => hquery (List.isEmpty_iff.1 hempty)
      have hlonger : query ++ '&' :: encodePair pair ≠ [] :=
        List.append_ne_nil_of_left_ne_nil hquery _
      rw [append, if_neg hfilled, List.append_assoc, List.singleton_append, ih hlonger, hjoin]
      rfl

/-- **The pairs that are read are those that were written.** -/
theorem decode_append (pairs : List (String × String)) : decode (append [] pairs) = pairs := by
  cases pairs with
  | nil => decide
  | cons pair pairs =>
      have happend : append [] (pair :: pairs) =
          Pieces.joinWith '&' ((pair :: pairs).map encodePair) :=
        append_eq_joinWith (encodePair_ne_nil pair) pairs
      have hmark : ∀ piece ∈ (pair :: pairs).map encodePair, '&' ∉ piece := by
        intro piece hpiece
        obtain ⟨other, -, rfl⟩ := List.mem_map.1 hpiece
        exact not_mem_encodePair other
      have hfilled : ∀ piece ∈ (pair :: pairs).map encodePair, (!piece.isEmpty) = true := by
        intro piece hpiece
        obtain ⟨other, -, rfl⟩ := List.mem_map.1 hpiece
        rw [Bool.not_eq_true', List.isEmpty_eq_false_iff]
        exact encodePair_ne_nil other
      have hne : (pair :: pairs).map encodePair ≠ [] := List.cons_ne_nil _ _
      rw [decode, happend, Pieces.splitOn_joinWith hne hmark, List.filter_eq_self.2 hfilled,
        List.map_map]
      exact (List.map_congr_left fun other _ => decodePair_encodePair other).trans (List.map_id _)

end Form

end Reconcile

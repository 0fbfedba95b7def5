import Mathlib.Data.List.DropRight
import Reconcile.Proofs.Json
import Reconcile.Proofs.Utf8
import Reconcile.Repair.File

/-!
# A difference file that is cut

A scan that is interrupted leaves the beginning of its file, which may end anywhere, even inside a
character. A repair of what is there does what a repair of the differences does whose text is
complete, and then stops at the line that is cut: no beginning of a line is read as another
difference.

## Main results

* `Difference.parse?_render`: a difference is read as it was written;
* `DifferenceFile.readLine_cut`: the beginning of its line is read as none;
* `DifferenceFile.isSafeToCut_of_hasSide`: what a repair of the beginning of a file does.
-/

namespace Reconcile

/-! ### Items and differences as JSON -/

/-- The document that an item is written as. -/
def Item.json (item : Item) : Json :=
  .object [(Json.Text.ofChars "key".toList, .string (Json.Text.ofChars item.key.toList)),
    (Json.Text.ofChars "value".toList, .string (Json.Text.ofChars item.value.toList))]

/-- The line of an item spells its object. -/
theorem Item.spells_print (item : Item) : Json.Spells item.print item.json :=
  Json.spells_printObject
    (.cons ⟨rfl, (Json.spells_printString _).readsAs⟩
      (.cons ⟨rfl, (Json.spells_printString _).readsAs⟩ .nil))

/-- The text of a string value is the string. -/
theorem Json.text?_string (text : String) :
    Json.text? (.string (Text.ofChars text.toList)) = some text := by
  rw [text?, Text.string?, Text.chars?_ofChars, Option.map_some, String.ofList_toList]

/-- An item is read back from its object. -/
theorem Item.ofJson?_json (item : Item) : Item.ofJson? item.json = some item := by
  have hfields : Json.fields? ["key", "value"] item.json =
      some [some (.string (Json.Text.ofChars item.key.toList)),
        some (.string (Json.Text.ofChars item.value.toList))] := rfl
  rw [Item.ofJson?, hfields]
  simp [Json.text?_string]

namespace Difference

/-- The document that one side of a difference is written as. -/
def sideJson : Option Item → Json
  | none => .null
  | some item => item.json

/-- The document that a difference is written as. -/
def json (difference : Difference) : Json :=
  .array [sideJson difference.follower, sideJson difference.leader]

/-- A side is spelled as its item, or as `null` if it is missing. -/
theorem spells_side (side : Option Item) :
    Json.Spells (Json.printOption Item.print side) (sideJson side) := by
  cases side with
  | none => exact Json.spells_null
  | some item => exact item.spells_print

/-- The line of a difference spells its object. -/
theorem spells_print (difference : Difference) : Json.Spells difference.print difference.json :=
  Json.spells_printArray (.cons (spells_side _).readsAs (.cons (spells_side _).readsAs .nil))

/-- A side is read back from its value, missing or not. -/
theorem sideOfJson?_sideJson (side : Option Item) : sideOfJson? (sideJson side) = some side := by
  cases side with
  | none => rfl
  | some item =>
      have hitem : sideOfJson? item.json = (Item.ofJson? item.json).map some := rfl
      rw [sideJson, hitem, Item.ofJson?_json, Option.map_some]

/-- Whether a difference has a side. -/
def HasSide (difference : Difference) : Prop :=
  difference.follower ≠ none ∨ difference.leader ≠ none

/-- **A difference with a side is read back** from its object. -/
theorem ofJson?_json {difference : Difference} (h : difference.HasSide) :
    ofJson? difference.json = some difference := by
  have hsides : ofSides difference.follower difference.leader = .ok difference := by
    rw [ofSides, if_neg]
    rw [Option.isNone_iff_eq_none, Option.isNone_iff_eq_none, not_and_or]
    exact h
  rw [json, ofJson?, sideOfJson?_sideJson, sideOfJson?_sideJson, Option.bind_eq_bind,
    Option.bind_some, Option.bind_some, hsides]
  rfl

/-- **A difference is read as it was written.** -/
theorem parse?_render {difference : Difference} (h : difference.HasSide) :
    parse? difference.render = some difference := by
  rw [parse?, Json.parse?, render, String.toList_ofList, difference.spells_print.read?,
    Option.bind_some, ofJson?_json h]

/-- A difference is written between brackets. -/
theorem exists_print_eq (difference : Difference) :
    ∃ inner, difference.print = '[' :: (inner ++ [']']) :=
  ⟨_, rfl⟩

/-- **The beginning of a difference is none.** -/
theorem parse?_eq_none_of_cut {difference : Difference} {text : List Char}
    (hbefore : text <+: difference.print) (hne : text ≠ difference.print) :
    parse? (String.ofList text) = none := by
  obtain ⟨inner, hprint⟩ := difference.exists_print_eq
  obtain ⟨after, happend⟩ := hbefore
  have hafter : after ≠ [] := by
    rintro rfl
    exact hne ((List.append_nil _).symm.trans happend)
  have hclose : ']' ∈ after := by
    have hlast : (text ++ after).getLast? = some ']' := by
      rw [happend, hprint, ← List.cons_append, List.getLast?_concat]
    rw [List.getLast?_append_of_ne_nil _ hafter] at hlast
    exact List.mem_of_getLast? hlast
  have hread : Json.read? (text ++ after) = some difference.json :=
    happend ▸ difference.spells_print.read?
  rw [parse?, Json.parse?, String.toList_ofList, Json.read?_eq_none_of_append hread hclose,
    Option.bind_none]

/-- The line of a difference is one line: line ends inside its texts are escaped. -/
theorem lineEnd_not_mem_print (difference : Difference) : '\n' ∉ difference.print := by
  have hside : ∀ side : Option Item, '\n' ∉ Json.printOption Item.print side := by
    intro side
    cases side with
    | none => decide
    | some item =>
        refine Json.lineEnd_not_mem_printObject (List.forall_mem_cons.2 ⟨?_, ?_⟩)
        · exact Json.lineEnd_not_mem_printString _
        · exact List.forall_mem_singleton.2 (Json.lineEnd_not_mem_printString _)
  exact Json.lineEnd_not_mem_printArray
    (List.forall_mem_cons.2 ⟨hside _, List.forall_mem_singleton.2 (hside _)⟩)

end Difference

/-! ### Trimming -/

namespace Blank

/-- A text that starts with no blank loses only blanks at its end, and not all of it. -/
theorem trimList_cons {c : Char} (h : isBlank c = false) (text : List Char) :
    trimList (c :: text) <+: c :: text ∧ trimList (c :: text) ≠ [] := by
  have hdrop : (c :: text).dropWhile isBlank = c :: text :=
    List.dropWhile_cons_of_neg (by simp [h])
  have htrim : trimList (c :: text) = (c :: text).rdropWhile isBlank := by
    rw [trimList, hdrop, List.rdropWhile]
  rw [htrim]
  refine ⟨List.rdropWhile_prefix _ _, fun hnil => ?_⟩
  have hblank := List.rdropWhile_eq_nil_iff.1 hnil c List.mem_cons_self
  rw [h] at hblank
  cases hblank

/-- A text without a blank at either end keeps all of it. -/
theorem trimList_eq_self {c d : Char} (hc : isBlank c = false) (hd : isBlank d = false)
    (text : List Char) : trimList (c :: (text ++ [d])) = c :: (text ++ [d]) := by
  have hdrop : (c :: (text ++ [d])).dropWhile isBlank = c :: (text ++ [d]) :=
    List.dropWhile_cons_of_neg (by simp [hc])
  rw [trimList, hdrop, ← List.rdropWhile, ← List.cons_append,
    List.rdropWhile_concat_neg _ _ _ (by simp [hd])]

end Blank

/-! ### A run of repairs with an end of its own -/

/-- Repairs differences in turn, up to the first that cannot be repaired by itself. If there is none
the run ends as it is told to. -/
def Repair.inTurn {σ : Type} (services : Services σ) (cutoff : Option Instant)
    (ending : Except RepairError Unit) (state : σ) (counters : RepairCounters) :
    List Difference → Except RepairError Unit × σ × RepairCounters
  | [] => (ending, state, counters)
  | difference :: rest =>
    match entry services cutoff difference state counters with
    | (.error error, state, counters) => (.error error, state, counters)
    | (.ok _, state, counters) => inTurn services cutoff ending state counters rest

namespace DifferenceFile

/-! ### The lines of a file -/

/-- Bytes without a line end go on with the line at hand. -/
theorem splitLines_append {first : List UInt8} (h : 0x0A ∉ first) (current rest : List UInt8) :
    splitLines current (first ++ rest) = splitLines (first.reverse ++ current) rest := by
  induction first generalizing current with
  | nil => rfl
  | cons byte first ih =>
      obtain ⟨hbyte, hfirst⟩ := not_or.1 (mt List.mem_cons.2 h)
      rw [List.cons_append, splitLines, if_neg (Ne.symm hbyte), ih hfirst, List.reverse_cons,
        List.append_assoc, List.singleton_append]

/-- A line ends where its end stands. -/
theorem lines_append_cons {first : List UInt8} (h : 0x0A ∉ first) (rest : List UInt8) :
    lines (first ++ 0x0A :: rest) = first :: lines rest := by
  rw [lines, splitLines_append h, splitLines, if_pos rfl, List.append_nil, List.reverse_reverse,
    lines]

/-- The last line may lack its end. -/
theorem lines_eq_singleton {first : List UInt8} (h : 0x0A ∉ first) (hne : first ≠ []) :
    lines first = [first] := by
  have hsplit := splitLines_append h [] []
  rw [List.append_nil, List.append_nil] at hsplit
  rw [lines, hsplit, splitLines, if_neg, List.reverse_reverse]
  rw [List.isEmpty_iff, List.reverse_eq_nil_iff]
  exact hne

variable {difference : Difference} {differences : List Difference} {n : Nat}

/-- A file is written entry by entry, each with its line end. -/
theorem write_cons (difference : Difference) (rest : List Difference) :
    write (difference :: rest) = Utf8.encode difference.print ++ 0x0A :: write rest := by
  rw [write, List.flatMap_cons, line, Utf8.encode, List.flatMap_append, List.flatMap_append,
    List.append_assoc]
  rfl

/-- The bytes of a line have no line end either. -/
theorem lineEnd_not_mem_encode (difference : Difference) :
    0x0A ∉ Utf8.encode difference.print := fun h =>
  difference.lineEnd_not_mem_print (Utf8.mem_encode_of_lt (by decide) h)

/-- The bytes of a line are not empty, so no entry is skipped as a blank line. -/
theorem encode_print_ne_nil (difference : Difference) : Utf8.encode difference.print ≠ [] := by
  obtain ⟨inner, hprint⟩ := difference.exists_print_eq
  rw [hprint, Utf8.encode_cons]
  exact List.cons_ne_nil _ _

/-- A file is read line by line. -/
theorem lines_write (differences : List Difference) :
    lines (write differences) =
      differences.map fun difference => Utf8.encode difference.print := by
  induction differences with
  | nil => rfl
  | cons difference rest ih =>
      rw [write_cons, lines_append_cons (lineEnd_not_mem_encode difference), ih, List.map_cons]

/-- **The line of a difference is read as the difference.** -/
theorem readLine_encode (h : difference.HasSide) :
    readLine (Utf8.encode difference.print) = .difference difference := by
  obtain ⟨inner, hprint⟩ := difference.exists_print_eq
  have hdecode : Utf8.decode (Utf8.encode difference.print) = .ok difference.render := by
    rw [Utf8.decode, Utf8.decodeFrom_encode]
    rfl
  have htrim : Blank.trim difference.render = difference.render := by
    rw [Blank.trim, Difference.render, String.toList_ofList, hprint,
      Blank.trimList_eq_self (by decide) (by decide)]
  have hne : difference.print ≠ [] := hprint ▸ List.cons_ne_nil _ _
  have hnonempty : difference.render.isEmpty = false :=
    String.isEmpty_eq_false_iff.2 (mt String.ofList_eq_empty_iff.1 hne)
  rw [readLine, hdecode]
  dsimp only
  rw [htrim, hnonempty, if_neg Bool.false_ne_true, Difference.parse?_render h]

/-- A repair of a whole file repairs its differences in turn. -/
theorem repair_write {differences : List Difference}
    (hsides : ∀ difference ∈ differences, difference.HasSide) {σ : Type} (services : Services σ)
    (cutoff : Option Instant) (state : σ) (counters : RepairCounters) :
    repair services cutoff (write differences) state counters =
      Repair.inTurn services cutoff (.ok ()) state counters differences := by
  have hlines : ∀ number state counters,
      repairLines services cutoff number state counters
          (differences.map fun difference => Utf8.encode difference.print) =
        Repair.inTurn services cutoff (.ok ()) state counters differences := by
    induction differences with
    | nil => exact fun _ _ _ => rfl
    | cons difference rest ih =>
        intro number state counters
        have ih := ih fun other hother => hsides other (List.mem_cons_of_mem _ hother)
        rw [List.map_cons, repairLines, readLine_encode (hsides difference List.mem_cons_self),
          Repair.inTurn]
        dsimp only
        rcases Repair.entry services cutoff difference state counters with
          ⟨_ | _, after, counters'⟩
        · rfl
        · exact ih _ _ _
  rw [repair, lines_write]
  exact hlines 1 state counters

/-! ### The beginning of a file -/

/-- The differences whose text lies completely in the first bytes of their file. -/
def wholeIn (n : Nat) : List Difference → List Difference
  | [] => []
  | difference :: rest =>
    if (Utf8.encode difference.print).length ≤ n then
      difference :: wholeIn (n - (Utf8.encode (line difference)).length) rest
    else []

/-- The bytes of the text that is cut off, up to the cut. -/
def cutIn (n : Nat) : List Difference → List UInt8
  | [] => []
  | difference :: rest =>
    if (Utf8.encode difference.print).length ≤ n then
      cutIn (n - (Utf8.encode (line difference)).length) rest
    else (Utf8.encode difference.print).take n

/-- **How a run on the beginning of a file ends** if no difference ends it: by the number of the
line that is cut and what is left of it. -/
inductive EndsAt (number : Nat) : List UInt8 → Except RepairError Unit → Prop
  /-- No line is cut, or only its end is cut off. -/
  | whole : EndsAt number [] (.ok ())
  /-- The line is cut between two characters. -/
  | between {text : List Char} :
      text ≠ [] → EndsAt number (Utf8.encode text) (.error (.malformedEntry number))
  /-- The line is cut inside a character. -/
  | inside {text : List Char} {c : Char} {k : Nat} :
      0 < k → k < (String.utf8EncodeChar c).length →
      EndsAt number (Utf8.encode text ++ (String.utf8EncodeChar c).take k)
        (.error (.io notTextReason))

/-- **The beginning of a line is read as no difference.** -/
theorem readLine_cut (h : n < (Utf8.encode difference.print).length) (hn : 0 < n) (number : Nat) :
    (EndsAt number ((Utf8.encode difference.print).take n) (.error (.malformedEntry number)) ∧
        readLine ((Utf8.encode difference.print).take n) = .malformed) ∨
      (EndsAt number ((Utf8.encode difference.print).take n) (.error (.io notTextReason)) ∧
        readLine ((Utf8.encode difference.print).take n) = .notText) := by
  have hlength : ((Utf8.encode difference.print).take n).length = n := List.length_take_of_le h.le
  -- The cut is between two characters, and the text before it is no whole line; or it is inside a
  -- character, and the bytes are no text.
  rcases Utf8.take_encode_cases difference.print n with
    ⟨before, hbefore, htake⟩ | ⟨before, c, k, -, hk, hlt, htake⟩
  · rw [htake] at hlength ⊢
    have hne : before ≠ difference.print := by
      rintro rfl
      omega
    obtain ⟨inner, hprint⟩ := difference.exists_print_eq
    -- the bracket at the front keeps the line from being blank
    obtain ⟨more, rfl⟩ : ∃ more, before = '[' :: more := by
      cases before with
      | nil => exact absurd hlength hn.ne
      | cons d more =>
          rw [hprint] at hbefore
          exact ⟨more, by rw [(List.cons_prefix_cons.1 hbefore).1]⟩
    obtain ⟨htrim, hkept⟩ := @Blank.trimList_cons '[' (by decide) more
    have htrimmed : Blank.trimList ('[' :: more) ≠ difference.print := fun hsame =>
      hne (hbefore.eq_of_length_le (hsame ▸ htrim.length_le))
    have hnonempty : (String.ofList (Blank.trimList ('[' :: more))).isEmpty = false :=
      String.isEmpty_eq_false_iff.2 (mt String.ofList_eq_empty_iff.1 hkept)
    refine .inl ⟨.between (List.cons_ne_nil _ _), ?_⟩
    have hdecode : Utf8.decode (Utf8.encode ('[' :: more)) = .ok (String.ofList ('[' :: more)) := by
      rw [Utf8.decode, Utf8.decodeFrom_encode]
      rfl
    rw [readLine, hdecode]
    dsimp only
    rw [Blank.trim, String.toList_ofList, hnonempty, if_neg Bool.false_ne_true,
      Difference.parse?_eq_none_of_cut (htrim.trans hbefore) htrimmed]
  · rw [htake]
    refine .inr ⟨.inside hk hlt, ?_⟩
    rw [readLine, Utf8.decode, Utf8.decodeFrom_cut before hk hlt]
    rfl

/-- The lines of the beginning of a file, where its first line is not cut. -/
theorem lines_take_write_cons (h : (Utf8.encode difference.print).length ≤ n)
    (rest : List Difference) :
    lines ((write (difference :: rest)).take n) = Utf8.encode difference.print ::
      lines ((write rest).take (n - (Utf8.encode (line difference)).length)) := by
  have hline : (Utf8.encode (line difference)).length =
      (Utf8.encode difference.print).length + 1 := by
    rw [line, Utf8.encode, List.flatMap_append, List.length_append]
    rfl
  rw [write_cons, List.take_append, List.take_of_length_le h, hline]
  rcases Nat.eq_zero_or_pos (n - (Utf8.encode difference.print).length) with hzero | hpos
  · rw [hzero, List.take_zero, List.append_nil,
      lines_eq_singleton (lineEnd_not_mem_encode difference) (encode_print_ne_nil difference),
      (by omega : n - ((Utf8.encode difference.print).length + 1) = 0), List.take_zero]
    rfl
  · obtain ⟨left, hleft⟩ := Nat.exists_eq_add_of_lt hpos
    rw [hleft, Nat.zero_add, List.take_succ_cons,
      lines_append_cons (lineEnd_not_mem_encode difference),
      (by omega : n - ((Utf8.encode difference.print).length + 1) = left)]

/-- The lines of the beginning of a file, where its first line is cut. -/
theorem take_write_cons_of_lt (h : n < (Utf8.encode difference.print).length)
    (rest : List Difference) :
    (write (difference :: rest)).take n = (Utf8.encode difference.print).take n := by
  rw [write_cons, List.take_append_of_le_length h.le]

/-- **What a repair of the beginning of a file does**: it repairs in turn the differences whose text
is complete, and ends at the line that is cut. -/
theorem exists_endsAt_repairLines {differences : List Difference}
    (hsides : ∀ difference ∈ differences, difference.HasSide) (n number : Nat) :
    ∃ ending, EndsAt (number + (wholeIn n differences).length) (cutIn n differences) ending ∧
      ∀ {σ : Type} (services : Services σ) (cutoff : Option Instant) (state : σ)
        (counters : RepairCounters),
        repairLines services cutoff number state counters (lines ((write differences).take n)) =
          Repair.inTurn services cutoff ending state counters (wholeIn n differences) := by
  induction differences generalizing n number with
  | nil =>
    refine ⟨.ok (), .whole, fun services cutoff state counters => ?_⟩
    rw [write, List.flatMap_nil, Utf8.encode, List.flatMap_nil, List.take_nil]
    rfl
  | cons difference rest ih =>
    have hrest := fun other hother => hsides other (List.mem_cons_of_mem _ hother)
    -- A text that is complete is repaired, with or without its line end. Otherwise nothing follows
    -- it.
    by_cases hwhole : (Utf8.encode difference.print).length ≤ n
    · obtain ⟨ending, hending, hrun⟩ :=
        ih hrest (n - (Utf8.encode (line difference)).length) (number + 1)
      refine ⟨ending, ?_, fun services cutoff state counters => ?_⟩
      · rw [wholeIn, if_pos hwhole, cutIn, if_pos hwhole, List.length_cons]
        rwa [Nat.add_assoc, Nat.add_comm 1] at hending
      · rw [lines_take_write_cons hwhole, wholeIn, if_pos hwhole, repairLines,
          readLine_encode (hsides difference List.mem_cons_self), Repair.inTurn]
        dsimp only
        rcases Repair.entry services cutoff difference state counters with ⟨_ | _, after, counters'⟩
        · rfl
        · exact hrun _ _ _ _
    · rw [wholeIn, if_neg hwhole, cutIn, if_neg hwhole, take_write_cons_of_lt (by omega)]
      rcases Nat.eq_zero_or_pos n with rfl | hn
      · exact ⟨.ok (), .whole, fun _ _ _ _ => rfl⟩
      · -- what is left is the beginning of a line, and the only one
        have hlines : lines ((Utf8.encode difference.print).take n) =
            [(Utf8.encode difference.print).take n] := by
          refine lines_eq_singleton (fun h => ?_) fun h => ?_
          · exact lineEnd_not_mem_encode difference (List.mem_of_mem_take h)
          · rcases List.take_eq_nil_iff.1 h with hn' | hnil
            · omega
            · exact encode_print_ne_nil difference hnil
        rw [hlines]
        rcases readLine_cut (not_le.1 hwhole) hn number with ⟨hending, hread⟩ | ⟨hending, hread⟩
        · refine ⟨_, hending, fun services cutoff state counters => ?_⟩
          rw [repairLines, hread]
          rfl
        · refine ⟨_, hending, fun services cutoff state counters => ?_⟩
          rw [repairLines, hread]
          rfl

/-- A file of some differences may be cut anywhere. -/
structure IsSafeToCut (differences : List Difference) : Prop where
  /-- A repair of the first bytes repairs in turn the differences whose text is complete, and ends
  at the line that is cut. -/
  cut : ∀ n, ∃ ending,
    EndsAt ((wholeIn n differences).length + 1) (cutIn n differences) ending ∧
      ∀ {σ : Type} (services : Services σ) (cutoff : Option Instant) (state : σ)
        (counters : RepairCounters),
        repair services cutoff ((write differences).take n) state counters =
          Repair.inTurn services cutoff ending state counters (wholeIn n differences)
  /-- The whole file holds the differences, one in each line. -/
  whole : (lines (write differences)).map readLine = differences.map .difference

/-- **A difference file is safe to cut**, whatever keys and texts it holds.

The lines before the cut are read back one by one, and the beginning of a line is read as no
difference, wherever it ends (`exists_endsAt_repairLines`). -/
theorem isSafeToCut_of_hasSide {differences : List Difference}
    (hsides : ∀ difference ∈ differences, difference.HasSide) : IsSafeToCut differences := by
  refine ⟨fun n => ?_, ?_⟩
  · obtain ⟨ending, hending, hrun⟩ := exists_endsAt_repairLines hsides n 1
    rw [Nat.add_comm] at hending
    exact ⟨ending, hending, hrun⟩
  · rw [lines_write, List.map_map]
    exact List.map_congr_left fun difference h => readLine_encode (hsides difference h)

/-- A key with a line end, a NUL and a quote, and a text of more than one byte. -/
theorem isSafeToCut_of_hasSide_controls :
    (∀ difference ∈ [⟨some ⟨"b/\n\x00\"", "é"⟩, none⟩], Difference.HasSide difference) ∧
      IsSafeToCut [⟨some ⟨"b/\n\x00\"", "é"⟩, none⟩] :=
  have hsides : ∀ difference ∈ [⟨some ⟨"b/\n\x00\"", "é"⟩, none⟩],
      Difference.HasSide difference :=
    List.forall_mem_singleton.2 (.inl (Option.some_ne_none _))
  ⟨hsides, isSafeToCut_of_hasSide hsides⟩

end DifferenceFile

end Reconcile

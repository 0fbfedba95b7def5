import Mathlib.Data.List.Basic
import Reconcile.Json.Printer
import Reconcile.Json.Record

/-!
# What is written as JSON is read as it was

`Json.Spells written json` says that the reader takes `written` as the value `json`, wherever a
value may stand. The end of a number shows only in what follows it, so that a number spells nothing,
but it is read as one in front of the marks that may follow a value (`Json.ReadsAs`). The texts that
the printer makes of such pieces spell what they were made from: `spells_printString`,
`spells_printArray`, `spells_printObject`. None of these texts holds a line end.

A document that is complete cannot be closed again. So a text that ends with the bracket that closes
its array is no document before its end (`read?_eq_none_of_append`): whoever reads the beginning of
such a text takes it for no other document.
-/

namespace Reconcile

/-- A digit in base sixteen is read as the number it was written for. -/
theorem Digit.hexValue?_lower {n : Nat} (h : n < 16) : hexValue? (lower n) = some n := by
  have hall : ∀ n < 16, hexValue? (lower n) = some n := by decide
  exact hall n h

namespace Json

/-! ### Strings -/

section

variable {frames : List Frame} {isName : Bool} {content : Text}

/-- Inside a string, the reader goes by the stage of the string. -/
theorem step_string (stage : StringStage) (c : Char) :
    step ⟨frames, .string isName stage content⟩ c = stepString frames isName stage content c :=
  rfl

/-- The escape of a control is read as the control. -/
theorem run_control {c : Char} (h : c.toNat < 0x20) :
    run ⟨frames, .string isName .plain content⟩
        ['\\', 'u', '0', '0', Digit.lower (c.toNat / 16), Digit.lower (c.toNat % 16)] =
      some ⟨frames, .string isName .plain (.char c :: content)⟩ := by
  have hfirst : run ⟨frames, .string isName .plain content⟩ ['\\', 'u', '0', '0'] =
      some ⟨frames, .string isName (.code 2 0) content⟩ := rfl
  have hhigh : step ⟨frames, .string isName (.code 2 0) content⟩ (Digit.lower (c.toNat / 16)) =
      some ⟨frames, .string isName (.code 1 (c.toNat / 16)) content⟩ := by
    rw [step_string, stepString, Digit.hexValue?_lower (by omega), Option.map_some,
      if_neg (by omega), Nat.zero_mul, Nat.zero_add]
  have hcode : pushCode (c.toNat / 16 * 16 + c.toNat % 16) content = .char c :: content := by
    rw [Nat.div_add_mod', pushCode.eq_def, if_neg (by omega), if_neg (by omega), Char.ofNat_toNat]
  have hlow : step ⟨frames, .string isName (.code 1 (c.toNat / 16)) content⟩
        (Digit.lower (c.toNat % 16)) =
      some ⟨frames, .string isName .plain (.char c :: content)⟩ := by
    rw [step_string, stepString, Digit.hexValue?_lower (Nat.mod_lt _ (by omega)), Option.map_some,
      if_pos (Nat.le_refl 1),
      hcode]
  have hsplit : ['\\', 'u', '0', '0', Digit.lower (c.toNat / 16), Digit.lower (c.toNat % 16)] =
      ['\\', 'u', '0', '0'] ++ [Digit.lower (c.toNat / 16), Digit.lower (c.toNat % 16)] := rfl
  rw [hsplit, run_append, hfirst, Option.bind_some, run_cons, hhigh, Option.bind_some, run_cons,
    hlow]
  rfl

/-- **A character is read as it was written**, whichever it is. -/
theorem run_printChar (c : Char) :
    run ⟨frames, .string isName .plain content⟩ (printChar c) =
      some ⟨frames, .string isName .plain (.char c :: content)⟩ := by
  rw [printChar]
  split
  · subst c; rfl
  split
  · subst c; rfl
  split
  · subst c; rfl
  split
  · subst c; rfl
  split
  · subst c; rfl
  split
  · subst c; rfl
  split
  · subst c; rfl
  split
  next h => exact run_control h
  next hquote hbackslash _ _ _ _ _ hcontrol =>
    rw [run_cons, step_string, stepString, if_neg hquote, if_neg hbackslash, if_neg hcontrol]
    rfl

/-- A text is read character by character. -/
theorem run_flatMap_printChar (text : List Char) :
    run ⟨frames, .string isName .plain content⟩ (text.flatMap printChar) =
      some ⟨frames, .string isName .plain (text.reverse.map .char ++ content)⟩ := by
  induction text generalizing content with
  | nil => rfl
  | cons c text ih =>
      rw [List.flatMap_cons, run_append, run_printChar, Option.bind_some, ih, List.reverse_cons,
        List.map_append, List.append_assoc]
      rfl

/-- A string is read up to its closing quote. -/
theorem run_string (text : List Char) :
    run ⟨frames, .string isName .plain []⟩ (text.flatMap printChar ++ ['"']) =
      State.putString isName (Text.ofChars text) frames := by
  have hquote : ∀ content, run ⟨frames, .string isName .plain content⟩ ['"'] =
      State.putString isName content.reverse frames := by
    intro content
    rw [run_cons, step_string, stepString, if_pos rfl]
    cases State.putString isName content.reverse frames <;> rfl
  rw [run_append, run_flatMap_printChar, Option.bind_some, hquote, List.append_nil,
    List.map_reverse, List.reverse_reverse, Text.ofChars]

end

/-! ### Values -/

/-- **A text spells a value** if the reader takes it so wherever a value may stand. -/
def Spells (written : List Char) (json : Json) : Prop :=
  ∀ frames closes, run ⟨frames, .value closes⟩ written = some (State.put json frames)

/-- What spells a value is a document. -/
theorem Spells.read? {written : List Char} {json : Json} (h : Spells written json) :
    read? written = some json := by
  rw [Json.read?, State.start, h]
  rfl

/-- The four letters of `null` spell it. -/
theorem spells_null : Spells ['n', 'u', 'l', 'l'] .null :=
  fun _ _ => rfl

/-- A printed string spells the string. -/
theorem spells_printString (text : String) :
    Spells (printString text) (.string (Text.ofChars text.toList)) := by
  intro frames closes
  rw [printString, printText, run_cons]
  exact run_string text.toList

/-- The marks that may follow a value inside an array or object. -/
def endMarks : List Char :=
  [',', ']', '}']

/-- **A text is read as a value** if the reader, wherever a value may stand, takes a mark that
follows the text as it takes it behind the value. -/
def ReadsAs (written : List Char) (json : Json) : Prop :=
  ∀ frames closes, ∃ state, run ⟨frames, .value closes⟩ written = some state ∧
    ∀ c ∈ endMarks, step state c = step (State.put json frames) c

/-- What spells a value is read as it. -/
theorem Spells.readsAs {written : List Char} {json : Json} (h : Spells written json) :
    ReadsAs written json :=
  fun frames closes => ⟨State.put json frames, h frames closes, fun _ _ => rfl⟩

/-- The items of an array, with a comma between any two. -/
theorem run_commaSeparated {written : List Char} {json : Json} {more : List (List Char)}
    {rest : List Json} (hfirst : ReadsAs written json) (hrest : List.Forall₂ ReadsAs more rest)
    (items : List Json) (frames : List Frame) (closes : Bool) :
    ∃ state, run ⟨.array items :: frames, .value closes⟩ (commaSeparated (written :: more)) =
        some state ∧
      step state ']' = some (State.put (.array (items.reverse ++ json :: rest)) frames) := by
  obtain ⟨state, hrun, hmarks⟩ := hfirst (.array items :: frames) closes
  induction hrest generalizing written json items closes state with
  | nil =>
      refine ⟨state, hrun, (hmarks ']' (by decide)).trans ?_⟩
      rw [← List.reverse_cons]
      rfl
  | @cons piece value more rest hpiece _ ih =>
      obtain ⟨next, hnext, hnextMarks⟩ := hpiece (.array (json :: items) :: frames) false
      obtain ⟨last, hlast, hclose⟩ := ih hpiece (json :: items) false next hnext hnextMarks
      have hcomma : step state ',' = some ⟨.array (json :: items) :: frames, .value false⟩ :=
        (hmarks ',' (by decide)).trans rfl
      refine ⟨last, ?_, ?_⟩
      · rw [commaSeparated, run_append, hrun, Option.bind_some, run_cons, hcomma,
          Option.bind_some, hlast]
        exact List.cons_ne_nil _ _
      · rw [hclose, List.reverse_cons, List.append_assoc]
        rfl

/-- **An array is read as it was written.** -/
theorem spells_printArray {written : List (List Char)} {items : List Json}
    (h : List.Forall₂ ReadsAs written items) : Spells (printArray written) (.array items) := by
  intro frames closes
  rw [printArray, run_cons]
  cases h with
  | nil => rfl
  | cons hfirst hrest =>
      have hopen : step ⟨frames, .value closes⟩ '[' = some ⟨.array [] :: frames, .value true⟩ := rfl
      obtain ⟨state, hrun, hclose⟩ := run_commaSeparated hfirst hrest [] frames true
      rw [hopen, Option.bind_some, run_append, hrun, Option.bind_some, run_cons, hclose]
      rfl

/-- A member of an object: its name, a colon and its value. -/
theorem run_member {written : List Char} {json : Json} (h : ReadsAs written json) (name : String)
    (members : List (Text × Json)) (last : Text) (frames : List Frame) (closes : Bool) :
    let named : Text := Text.ofChars name.toList
    ∃ state, run ⟨.object members last :: frames, .name closes⟩
        (printString name ++ ':' :: written) = some state ∧
      ∀ c ∈ endMarks,
        step state c = step ⟨.object ((named, json) :: members) named :: frames, .after⟩ c := by
  intro named
  have hname : run ⟨.object members last :: frames, .name closes⟩ (printString name) =
      some ⟨.object members named :: frames, .colon⟩ := by
    rw [printString, printText, run_cons]
    exact run_string name.toList
  have hcolon : ∀ frames, step ⟨frames, .colon⟩ ':' = some ⟨frames, .value false⟩ := fun _ => rfl
  obtain ⟨state, hrun, hmarks⟩ := h (.object members named :: frames) false
  refine ⟨state, ?_, hmarks⟩
  rw [run_append, hname, Option.bind_some, run_cons, hcolon, Option.bind_some, hrun]

/-- The members of an object, with a comma between any two. -/
theorem run_members {member : String × List Char} {json : Json}
    {more : List (String × List Char)} {rest : List (Text × Json)}
    (hfirst : ReadsAs member.2 json)
    (hrest : List.Forall₂ (fun member read =>
      Text.ofChars member.1.toList = read.1 ∧ ReadsAs member.2 read.2) more rest)
    (members : List (Text × Json)) (last : Text) (frames : List Frame) (closes : Bool) :
    ∃ state, run ⟨.object members last :: frames, .name closes⟩
        (commaSeparated ((member :: more).map fun member =>
          printString member.1 ++ ':' :: member.2)) = some state ∧
      step state '}' = some (State.put
        (.object (members.reverse ++ (Text.ofChars member.1.toList, json) :: rest)) frames) := by
  obtain ⟨state, hrun, hmarks⟩ := run_member hfirst member.1 members last frames closes
  -- By induction on the members that follow: a comma leads from the end of one to the name of the
  -- next.
  induction hrest generalizing member json members last closes state with
  | nil =>
      refine ⟨state, hrun, (hmarks '}' (by decide)).trans ?_⟩
      rw [← List.reverse_cons]
      rfl
  | @cons next read more rest hnext _ ih =>
      obtain ⟨hname, hvalue⟩ := hnext
      let named : Text := Text.ofChars member.1.toList
      obtain ⟨second, hsecond, hsecondMarks⟩ :=
        run_member hvalue next.1 ((named, json) :: members) named frames false
      obtain ⟨final, hfinal, hclose⟩ :=
        ih hvalue ((named, json) :: members) named false second hsecond hsecondMarks
      have hcomma : step state ',' =
          some ⟨.object ((named, json) :: members) named :: frames, .name false⟩ :=
        (hmarks ',' (by decide)).trans rfl
      refine ⟨final, ?_, ?_⟩
      · rw [List.map_cons] at hfinal
        rw [List.map_cons, List.map_cons, commaSeparated, run_append, hrun, Option.bind_some,
          run_cons, hcomma, Option.bind_some, hfinal]
        exact List.cons_ne_nil _ _
      · rw [hclose, List.reverse_cons, List.append_assoc, hname]
        rfl

/-- **An object is read as it was written**, with its members in their order. -/
theorem spells_printObject {written : List (String × List Char)} {members : List (Text × Json)}
    (h : List.Forall₂ (fun member read =>
      Text.ofChars member.1.toList = read.1 ∧ ReadsAs member.2 read.2) written members) :
    Spells (printObject written) (.object members) := by
  intro frames closes
  rw [printObject, run_cons]
  cases h with
  | nil => rfl
  | @cons member read more rest hfirst hrest =>
      obtain ⟨hname, hvalue⟩ := hfirst
      have hopen : step ⟨frames, .value closes⟩ '{' = some ⟨.object [] [] :: frames, .name true⟩ :=
        rfl
      obtain ⟨state, hrun, hclose⟩ := run_members hvalue hrest [] [] frames true
      rw [hopen, Option.bind_some, run_append, hrun, Option.bind_some, run_cons, hclose, hname]
      rfl

/-! ### Line ends -/

/-- A printed character has no line end: the line end itself is escaped. -/
theorem lineEnd_not_mem_printChar (c : Char) : '\n' ∉ printChar c := by
  have hlower : ∀ n < 16, Digit.lower n ≠ '\n' := by decide
  rw [printChar]
  split_ifs with _ _ _ _ hline _ _ hcontrol
  all_goals try decide
  · have hhigh := hlower (c.toNat / 16) (by omega)
    have hlow := hlower (c.toNat % 16) (by omega)
    simp [hhigh.symm, hlow.symm]
  · exact fun h => hline (List.mem_singleton.1 h).symm

/-- A printed string has no line end. -/
theorem lineEnd_not_mem_printString (text : String) : '\n' ∉ printString text := by
  have htext : '\n' ∉ text.toList.flatMap printChar := by
    rw [List.mem_flatMap]
    rintro ⟨c, -, hc⟩
    exact lineEnd_not_mem_printChar c hc
  rw [printString, printText, List.mem_cons, List.mem_append]
  simp [htext]

/-- Commas bring no line end in. -/
theorem lineEnd_not_mem_commaSeparated {pieces : List (List Char)}
    (h : ∀ piece ∈ pieces, '\n' ∉ piece) : '\n' ∉ commaSeparated pieces := by
  induction pieces using commaSeparated.induct with
  | case1 => exact List.not_mem_nil
  | case2 piece => exact h piece List.mem_cons_self
  | case3 piece pieces hne ih =>
      have hpiece := h piece List.mem_cons_self
      have hrest := ih fun other hother => h other (List.mem_cons_of_mem _ hother)
      rw [commaSeparated.eq_3 piece pieces hne, List.mem_append, List.mem_cons]
      simp [hpiece, hrest]

/-- What is written without line ends makes an array without line ends. -/
theorem lineEnd_not_mem_printArray {items : List (List Char)} (h : ∀ item ∈ items, '\n' ∉ item) :
    '\n' ∉ printArray items := by
  rw [printArray, List.mem_cons, List.mem_append]
  simp [lineEnd_not_mem_commaSeparated h]

/-- What is written without line ends makes an object without line ends. -/
theorem lineEnd_not_mem_printObject {members : List (String × List Char)}
    (h : ∀ member ∈ members, '\n' ∉ member.2) : '\n' ∉ printObject members := by
  have hwritten : ∀ piece ∈ members.map fun member => printString member.1 ++ ':' :: member.2,
      '\n' ∉ piece := by
    intro piece hpiece
    obtain ⟨member, hmember, rfl⟩ := List.mem_map.1 hpiece
    rw [List.mem_append, List.mem_cons]
    simp [lineEnd_not_mem_printString, h member hmember]
  rw [printObject, List.mem_cons, List.mem_append]
  simp [lineEnd_not_mem_commaSeparated hwritten]

/-! ### Documents that are complete -/

/-- Whether the text read so far may be a whole document. -/
def State.IsWhole (state : State) : Prop :=
  (∃ document, state.mode = .done document) ∨
    ∃ stage spelling, state = ⟨[], .number stage spelling⟩

/-- A state with a document is at the end of a whole text. -/
theorem State.isWhole_of_document? {state : State} {document : Json}
    (h : state.document? = some document) : state.IsWhole := by
  obtain ⟨frames, mode⟩ := state
  cases mode with
  | done document => exact .inl ⟨document, rfl⟩
  | number stage spelling =>
      obtain ⟨hcomplete, -⟩ := Option.ite_none_right_eq_some.1 h
      obtain rfl : frames = [] := List.isEmpty_iff.1 hcomplete.2
      exact .inr ⟨stage, spelling, rfl⟩
  | _ => cases h

/-- After a whole document only blanks may follow, or more of its number: nothing that closes an
array. -/
theorem State.IsWhole.step {state next : State} (h : state.IsWhole) {c : Char}
    (hstep : step state c = some next) : next.IsWhole ∧ c ≠ ']' := by
  have hdone : ∀ {state : State} {document : Json}, state.mode = .done document →
      stepOutsideNumber state c = some next → next.IsWhole ∧ c ≠ ']' := by
    intro state document hmode hstep
    rw [stepOutsideNumber, hmode] at hstep
    dsimp only at hstep
    split at hstep
    · next hblank =>
        obtain rfl := Option.some.inj hstep
        refine ⟨.inl ⟨document, hmode⟩, ?_⟩
        rintro rfl
        exact absurd hblank (by decide)
    · cases hstep
  rcases h with ⟨document, hmode⟩ | ⟨stage, spelling, rfl⟩
  · rw [Json.step, hmode] at hstep
    exact hdone hmode hstep
  · rw [Json.step] at hstep
    dsimp only at hstep
    split at hstep
    · next following hnext =>
        obtain rfl := Option.some.inj hstep
        refine ⟨.inr ⟨following, c :: spelling, rfl⟩, ?_⟩
        rintro rfl
        -- no stage of a number goes on with a bracket
        cases stage <;> cases hnext
    · split at hstep
      · exact hdone rfl hstep
      · cases hstep

/-- What follows a whole document closes no array. -/
theorem State.IsWhole.not_mem_of_run {state next : State} (h : state.IsWhole) {text : List Char}
    (hrun : run state text = some next) : ']' ∉ text := by
  induction text generalizing state with
  | nil => exact List.not_mem_nil
  | cons c text ih =>
      rw [run_cons] at hrun
      obtain ⟨following, hstep, hrest⟩ := Option.bind_eq_some_iff.1 hrun
      obtain ⟨hwhole, hne⟩ := h.step hstep
      rw [List.mem_cons, not_or]
      exact ⟨hne.symm, ih hwhole hrest⟩

/-- **The beginning of a document is no document**, if what is cut off closes an array. -/
theorem read?_eq_none_of_append {before after : List Char} {document : Json}
    (hread : read? (before ++ after) = some document) (hclose : ']' ∈ after) :
    read? before = none := by
  refine Option.eq_none_iff_forall_ne_some.2 fun other hbefore => ?_
  obtain ⟨state, hstate, hother⟩ := Option.bind_eq_some_iff.1 hbefore
  obtain ⟨last, hlast, -⟩ := Option.bind_eq_some_iff.1 hread
  rw [run_append, hstate, Option.bind_some] at hlast
  exact (State.isWhole_of_document? hother).not_mem_of_run hlast hclose

end Json

end Reconcile

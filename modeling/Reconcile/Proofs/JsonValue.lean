import Reconcile.Json.Value
import Reconcile.Proofs.JsonNumber
import Reconcile.Proofs.Ordered

/-!
# Values as they are written

A value is written as a document, `Json.Value.toJson`, and is read as that document
(`Json.Value.readsAs_print`). The value of that document is the value itself exactly if the value is
*canonical*: the names of every object ascend, no number changes when it is read again, and it is
not nested too deep (`Json.Value.ofJson?_toJson_iff`).

So of all texts that hold an object, those that are written as they stand are the texts that
canonical objects are written as: `Json.Value.print_eq_iff`.
-/

namespace Reconcile

/-- An element behind all others is put at the end. -/
theorem insertByKey_of_lt {α κ : Type} [LinearOrder κ] {key : α → κ} {x : α} {xs : List α}
    (h : ∀ y ∈ xs, key y < key x) : insertByKey key x xs = xs ++ [x] := by
  induction xs with
  | nil => rfl
  | cons y xs ih =>
      obtain ⟨hy, hxs⟩ := List.forall_mem_cons.1 h
      rw [insertByKey, if_neg hy.not_gt, if_neg hy.ne', ih hxs]
      rfl

namespace Json

/-- The characters of a string make up the string again. -/
theorem Text.string?_ofChars (text : String) : (Text.ofChars text.toList).string? = some text := by
  rw [Text.string?, Text.chars?_ofChars, Option.map_some, String.ofList_toList]

namespace Value

/-! ### The document of a value -/

mutual

/-- The document that a value is written as. -/
def toJson : Value → Json
  | .null => .null
  | .bool value => .bool value
  | .number value => .number value.print
  | .string text => .string (Text.ofChars text.toList)
  | .array items => .array (itemsToJson items)
  | .object members => .object (membersToJson members)

/-- The documents that values are written as. -/
def itemsToJson : List Value → List Json
  | [] => []
  | item :: items => toJson item :: itemsToJson items

/-- The members of the document that an object is written as. -/
def membersToJson : List (String × Value) → List (Text × Json)
  | [] => []
  | (name, value) :: members => (Text.ofChars name.toList, toJson value) :: membersToJson members

end

mutual

/-- **A value is read as the document that it is written as.** -/
theorem readsAs_print : ∀ value : Value, ReadsAs value.print value.toJson
  | .null => spells_null.readsAs
  | .bool true => Spells.readsAs fun _ _ => rfl
  | .bool false => Spells.readsAs fun _ _ => rfl
  | .number value => value.readsAs_print
  | .string text => (spells_printString text).readsAs
  | .array items => (spells_printArray (forall₂_printItems items)).readsAs
  | .object members => (spells_printObject (forall₂_printMembers members)).readsAs

/-- Each printed item of an array is read as the item. -/
theorem forall₂_printItems :
    ∀ items : List Value, List.Forall₂ ReadsAs (printItems items) (itemsToJson items)
  | [] => .nil
  | item :: items => .cons (readsAs_print item) (forall₂_printItems items)

/-- Each printed member of an object is read as the member, name and value. -/
theorem forall₂_printMembers : ∀ members : List (String × Value),
    List.Forall₂ (fun member read =>
      Text.ofChars member.1.toList = read.1 ∧ ReadsAs member.2 read.2)
      (printMembers members) (membersToJson members)
  | [] => .nil
  | (_, value) :: members => .cons ⟨rfl, readsAs_print value⟩ (forall₂_printMembers members)

end

/-- What an object is written as is a document. -/
theorem read?_print_object (members : List (String × Value)) :
    read? (object members).print = some (object members).toJson :=
  (spells_printObject (forall₂_printMembers members)).read?

/-! ### Canonical values -/

mutual

/-- **Whether a value is canonical**, with so many levels of arrays and objects. -/
def IsCanonical : ℕ → Value → Prop
  | _, .number value => Number.ofSpelling? value.print = some value
  | levels, .array items => 0 < levels ∧ AllCanonical (levels - 1) items
  | levels, .object members =>
    0 < levels ∧ AscendingByKey Prod.fst members ∧ MembersCanonical (levels - 1) members
  | _, _ => True

/-- Whether all items of an array are canonical. -/
def AllCanonical : ℕ → List Value → Prop
  | _, [] => True
  | levels, item :: items => IsCanonical levels item ∧ AllCanonical levels items

/-- Whether the values of all members of an object are canonical. -/
def MembersCanonical : ℕ → List (String × Value) → Prop
  | _, [] => True
  | levels, (_, value) :: members => IsCanonical levels value ∧ MembersCanonical levels members

end

/-- The values of the members of an object after it has been written and read, each by itself. -/
def again? (levels : ℕ) : List (String × Value) → Option (List (String × Value))
  | [] => some []
  | (name, value) :: members => do
    let value ← ofJson? levels value.toJson
    return (name, value) :: (← again? levels members)

/-- Members are put one behind the other if their names ascend. -/
theorem ofMembers?_membersToJson (levels : ℕ) {read members : List (String × Value)}
    (h : AscendingByKey Prod.fst (read ++ members)) :
    ofMembers? levels read (membersToJson members) =
      (again? levels members).map (read ++ ·) := by
  induction members generalizing read with
  | nil => simp [membersToJson, ofMembers?, again?]
  | cons member members ih =>
      obtain ⟨name, value⟩ := member
      rw [membersToJson, ofMembers?, again?, Text.string?_ofChars]
      cases hvalue : ofJson? levels value.toJson with
      | none => rfl
      | some value' =>
          have hnames : AscendingByKey Prod.fst (read ++ [(name, value')] ++ members) := by
            rw [AscendingByKey, ← List.pairwise_map] at h ⊢
            simpa using h
          have hlast : ∀ other ∈ read, other.1 < name := fun other hother =>
            (List.pairwise_append.1 h).2.2 other hother (name, value) List.mem_cons_self
          dsimp only [bind, Option.bind]
          rw [insertByKey_of_lt hlast, ih hnames]
          cases again? levels members with
          | none => rfl
          | some values => simp

/-- The names of an object that is read ascend. -/
theorem ascendingByKey_of_ofMembers? {levels : ℕ} {documents : List (Text × Json)}
    {read members : List (String × Value)} (hread : AscendingByKey Prod.fst read)
    (h : ofMembers? levels read documents = some members) : AscendingByKey Prod.fst members := by
  induction documents generalizing read with
  | nil =>
      cases h
      exact hread
  | cons document documents ih =>
      obtain ⟨name, json⟩ := document
      rw [ofMembers?] at h
      obtain ⟨name', -, h⟩ := Option.bind_eq_some_iff.1 h
      obtain ⟨value, -, h⟩ := Option.bind_eq_some_iff.1 h
      exact ih (ascendingByKey_insertByKey hread _) h

mutual

/-- **A value that is written and read again is the same value** exactly if it is canonical. -/
theorem ofJson?_toJson_iff (levels : ℕ) :
    ∀ value : Value, ofJson? levels value.toJson = some value ↔ value.IsCanonical levels
  | .null => by simp [toJson, ofJson?, IsCanonical]
  | .bool value => by simp [toJson, ofJson?, IsCanonical]
  | .number value => by simp [toJson, ofJson?, IsCanonical]
  | .string text => by simp [toJson, ofJson?, IsCanonical, Text.string?_ofChars]
  | .array items => by
      cases levels with
      | zero => simp [toJson, ofJson?, IsCanonical]
      | succ levels => simp [toJson, ofJson?, IsCanonical, ofItems?_itemsToJson_iff levels items]
  | .object members => by
      cases levels with
      | zero => simp [toJson, ofJson?, IsCanonical]
      | succ levels =>
          have hagain := again?_eq_some_iff levels members
          rw [toJson, ofJson?, IsCanonical, Option.map_eq_some_iff]
          simp only [object.injEq, exists_eq_right, Nat.succ_pos, true_and, Nat.add_sub_cancel]
          constructor
          · intro h
            have hascending := ascendingByKey_of_ofMembers? .nil h
            rw [@ofMembers?_membersToJson levels [] members hascending] at h
            simp only [List.nil_append, Option.map_id'] at h
            exact ⟨hascending, hagain.1 h⟩
          · rintro ⟨hascending, hmembers⟩
            rw [@ofMembers?_membersToJson levels [] members hascending, hagain.2 hmembers]
            rfl

/-- The items of an array survive being written and read exactly if all of them are canonical. -/
theorem ofItems?_itemsToJson_iff (levels : ℕ) : ∀ items : List Value,
    ofItems? levels (itemsToJson items) = some items ↔ AllCanonical levels items
  | [] => by simp [itemsToJson, ofItems?, AllCanonical]
  | item :: items => by
      have hitem := ofJson?_toJson_iff levels item
      have hitems := ofItems?_itemsToJson_iff levels items
      rw [itemsToJson, ofItems?, AllCanonical, ← hitem, ← hitems]
      cases ofJson? levels item.toJson <;> cases ofItems? levels (itemsToJson items) <;> simp

/-- The members of an object survive being written and read exactly if all their values are
canonical. -/
theorem again?_eq_some_iff (levels : ℕ) : ∀ members : List (String × Value),
    again? levels members = some members ↔ MembersCanonical levels members
  | [] => by simp [again?, MembersCanonical]
  | (name, value) :: members => by
      have hvalue := ofJson?_toJson_iff levels value
      have hmembers := again?_eq_some_iff levels members
      rw [again?, MembersCanonical, ← hvalue, ← hmembers]
      cases ofJson? levels value.toJson <;> cases again? levels members <;> simp

end

/-- **Which texts of objects are written as they stand**: those that canonical objects are written
as. -/
theorem print_eq_iff {levels : ℕ} {text : List Char} {members : List (Text × Json)}
    (h : read? text = some (.object members)) :
    (ofJson? levels (.object members)).map print = some text ↔
      ∃ members, (object members).IsCanonical levels ∧ text = (object members).print := by
  constructor
  · intro hprint
    obtain ⟨value, hvalue, hprint⟩ := Option.map_eq_some_iff.1 hprint
    cases levels with
    | zero => cases hvalue
    | succ levels =>
        have hmembers := hvalue
        rw [ofJson?] at hmembers
        obtain ⟨members', -, rfl⟩ := Option.map_eq_some_iff.1 hmembers
        have hdocument := read?_print_object members'
        rw [hprint, h] at hdocument
        rw [Option.some.inj hdocument, ofJson?_toJson_iff] at hvalue
        exact ⟨members', hvalue, hprint.symm⟩
  · rintro ⟨members', hcanonical, rfl⟩
    rw [read?_print_object] at h
    rw [← Option.some.inj h, (ofJson?_toJson_iff levels _).2 hcanonical]
    rfl

end Value

end Json

end Reconcile

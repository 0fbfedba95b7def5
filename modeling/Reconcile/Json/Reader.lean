import Reconcile.Json.Basic
import Reconcile.Text.Digit

/-!
# Reading JSON

The grammar of RFC 8259 as a machine that takes one character at a time. The machine keeps the
arrays and objects that are open and the point reached inside the innermost one, so reading is a
fold over the text: there is no limit on nesting, what a text's beginning does never depends on
its end, and the state after two pieces of text is the state after the second from the state after
the first (`run_append`).

The text of a document is one value with blanks around it, and nothing else.
-/

namespace Reconcile.Json

/-- How far the reading of a number has come. -/
inductive NumberStage where
  /-- After the minus sign: a digit has to follow. -/
  | sign
  /-- After a zero in front: no further digit may follow. -/
  | zero
  /-- Among the digits before the point. -/
  | whole
  /-- After the point: a digit has to follow. -/
  | point
  /-- Among the digits after the point. -/
  | fraction
  /-- After the exponent letter: a sign or a digit has to follow. -/
  | exponent
  /-- After the exponent's sign: a digit has to follow. -/
  | exponentSign
  /-- Among the digits of the exponent. -/
  | exponentDigits
  deriving DecidableEq, Repr

/-- Whether a number may end here. -/
def NumberStage.isComplete : NumberStage → Bool
  | .zero | .whole | .fraction | .exponentDigits => true
  | .sign | .point | .exponent | .exponentSign => false

/-- The stage after one more character of the number, if there is one. -/
def NumberStage.next? : NumberStage → Char → Option NumberStage
  | .sign, c => if c = '0' then some .zero else if c.isDigit then some .whole else none
  | .zero, c =>
    if c = '.' then some .point else if c = 'e' ∨ c = 'E' then some .exponent else none
  | .whole, c =>
    if c.isDigit then some .whole
    else if c = '.' then some .point
    else if c = 'e' ∨ c = 'E' then some .exponent else none
  | .point, c => if c.isDigit then some .fraction else none
  | .fraction, c =>
    if c.isDigit then some .fraction else if c = 'e' ∨ c = 'E' then some .exponent else none
  | .exponent, c =>
    if c.isDigit then some .exponentDigits
    else if c = '+' ∨ c = '-' then some .exponentSign else none
  | .exponentSign, c => if c.isDigit then some .exponentDigits else none
  | .exponentDigits, c => if c.isDigit then some .exponentDigits else none

/-- An array or object that is still open, with what has been read of it, last first. -/
inductive Frame where
  | array (items : List Json)
  /-- An object; `name` is the name of the member whose value comes next or came last. -/
  | object (members : List (Text × Json)) (name : Text)
  deriving Inhabited

/-- How far the reading of a string has come. -/
inductive StringStage where
  /-- Among its characters. -/
  | plain
  /-- After a backslash. -/
  | escape
  /-- Inside a numeric escape: `digits` more have to follow, `value` is the number so far. -/
  | code (digits value : Nat)
  deriving DecidableEq, Repr

/-- What may come next inside the innermost open array or object. -/
inductive Mode where
  /-- A value has to follow; if `closes`, the end of an empty array may follow instead. -/
  | value (closes : Bool)
  /-- A member's name has to follow; if `closes`, the end of an empty object may instead. -/
  | name (closes : Bool)
  /-- The colon after a member's name has to follow. -/
  | colon
  /-- A separator or an end has to follow. -/
  | after
  /-- Inside a string, which is a member's name or a value; `content` is read so far, last
  first. -/
  | string (isName : Bool) (stage : StringStage) (content : Text)
  /-- Inside the word `rest` of a literal, which stands for `literal`. -/
  | word (rest : List Char) (literal : Json)
  /-- Inside a number, whose spelling so far is given last first. -/
  | number (stage : NumberStage) (spelling : List Char)
  /-- The document has ended. -/
  | done (document : Json)
  deriving Inhabited

/-- The state of the machine: the open arrays and objects, innermost first, and what may come
next. -/
structure State where
  frames : List Frame
  mode : Mode
  deriving Inhabited

/-- Before the first character. -/
def State.start : State :=
  ⟨[], .value false⟩

/-- Whether a character may stand between the parts of a document. -/
def isBlank (c : Char) : Bool :=
  c == ' ' || c == '\t' || c == '\n' || c == '\r'

/-- The state after a complete value. -/
def State.put (value : Json) : List Frame → State
  | [] => ⟨[], .done value⟩
  | .array items :: frames => ⟨.array (value :: items) :: frames, .after⟩
  | .object members name :: frames => ⟨.object ((name, value) :: members) name :: frames, .after⟩

/-- The state after the end of a string. -/
def State.putString (isName : Bool) (content : Text) (frames : List Frame) : Option State :=
  if isName then
    match frames with
    | .object members _ :: frames => some ⟨.object members content :: frames, .colon⟩
    | _ => none
  else some (State.put (.string content) frames)

/-- The character that a short escape stands for. -/
def shortEscape? (c : Char) : Option Char :=
  if c = '"' ∨ c = '\\' ∨ c = '/' then some c
  else if c = 'b' then some '\x08'
  else if c = 'f' then some '\x0c'
  else if c = 'n' then some '\n'
  else if c = 'r' then some '\r'
  else if c = 't' then some '\t'
  else none

/-- A string's content, last piece first, after one more numeric escape. The second half of a
surrogate pair joins the first if that stands right before it. -/
def pushCode (unit : Nat) (content : Text) : Text :=
  if 0xDC00 ≤ unit ∧ unit ≤ 0xDFFF then
    match content with
    | .half first :: before =>
      if first < 0xDC00 then
        .char (Char.ofNat (0x10000 + (first - 0xD800) * 0x400 + (unit - 0xDC00))) :: before
      else .half unit :: content
    | _ => .half unit :: content
  else if 0xD800 ≤ unit ∧ unit ≤ 0xDBFF then .half unit :: content
  else .char (Char.ofNat unit) :: content

/-- One character inside a string. -/
def stepString (frames : List Frame) (isName : Bool) (stage : StringStage) (content : Text)
    (c : Char) : Option State :=
  match stage with
  | .plain =>
    if c = '"' then State.putString isName content.reverse frames
    else if c = '\\' then some ⟨frames, .string isName .escape content⟩
    else if c.toNat < 0x20 then none
    else some ⟨frames, .string isName .plain (.char c :: content)⟩
  | .escape =>
    if c = 'u' then some ⟨frames, .string isName (.code 4 0) content⟩
    else
      (shortEscape? c).map fun d => ⟨frames, .string isName .plain (.char d :: content)⟩
  | .code digits value =>
    (Digit.hexValue? c).map fun digit =>
      if digits ≤ 1 then
        ⟨frames, .string isName .plain (pushCode (value * 16 + digit) content)⟩
      else ⟨frames, .string isName (.code (digits - 1) (value * 16 + digit)) content⟩

/-- One character that starts a value. -/
def stepValue (frames : List Frame) (closes : Bool) (c : Char) : Option State :=
  if isBlank c then some ⟨frames, .value closes⟩
  else if c = '"' then some ⟨frames, .string false .plain []⟩
  else if c = '[' then some ⟨.array [] :: frames, .value true⟩
  else if c = '{' then some ⟨.object [] [] :: frames, .name true⟩
  else if c = '-' then some ⟨frames, .number .sign [c]⟩
  else if c = '0' then some ⟨frames, .number .zero [c]⟩
  else if c.isDigit then some ⟨frames, .number .whole [c]⟩
  else if c = 'n' then some ⟨frames, .word ['u', 'l', 'l'] .null⟩
  else if c = 't' then some ⟨frames, .word ['r', 'u', 'e'] (.bool true)⟩
  else if c = 'f' then some ⟨frames, .word ['a', 'l', 's', 'e'] (.bool false)⟩
  else if c = ']' ∧ closes then
    match frames with
    | .array _ :: frames => some (State.put (.array []) frames)
    | _ => none
  else none

/-- One character after a value inside an array or object. -/
def stepAfter (frames : List Frame) (c : Char) : Option State :=
  if isBlank c then some ⟨frames, .after⟩
  else
    match frames with
    | .array items :: outer =>
      if c = ',' then some ⟨frames, .value false⟩
      else if c = ']' then some (State.put (.array items.reverse) outer)
      else none
    | .object members _ :: outer =>
      if c = ',' then some ⟨frames, .name false⟩
      else if c = '}' then some (State.put (.object members.reverse) outer)
      else none
    | [] => none

/-- One character where a member's name is due. -/
def stepName (frames : List Frame) (closes : Bool) (c : Char) : Option State :=
  if isBlank c then some ⟨frames, .name closes⟩
  else if c = '"' then some ⟨frames, .string true .plain []⟩
  else if c = '}' ∧ closes then
    match frames with
    | .object _ _ :: frames => some (State.put (.object []) frames)
    | _ => none
  else none

/-- One character in a state other than inside a number. -/
def stepOutsideNumber (state : State) (c : Char) : Option State :=
  match state.mode with
  | .value closes => stepValue state.frames closes c
  | .name closes => stepName state.frames closes c
  | .colon =>
    if isBlank c then some state
    else if c = ':' then some ⟨state.frames, .value false⟩
    else none
  | .after => stepAfter state.frames c
  | .string isName stage content => stepString state.frames isName stage content c
  | .word rest literal =>
    match rest with
    | [] => none
    | [d] => if c = d then some (State.put literal state.frames) else none
    | d :: rest => if c = d then some ⟨state.frames, .word rest literal⟩ else none
  | .number _ _ => none
  | .done _ => if isBlank c then some state else none

/-- One character. A number ends before the first character that does not continue it. -/
def step (state : State) (c : Char) : Option State :=
  match state.mode with
  | .number stage spelling =>
    match stage.next? c with
    | some stage => some ⟨state.frames, .number stage (c :: spelling)⟩
    | none =>
      if stage.isComplete then
        stepOutsideNumber (State.put (.number spelling.reverse) state.frames) c
      else none
  | _ => stepOutsideNumber state c

/-- The state after a text. -/
def run (state : State) : List Char → Option State
  | [] => some state
  | c :: text =>
    match step state c with
    | some state => run state text
    | none => none

/-- The document that ends with the text read so far. -/
def State.document? (state : State) : Option Json :=
  match state.mode with
  | .done document => some document
  | .number stage spelling =>
    if stage.isComplete ∧ state.frames.isEmpty then some (.number spelling.reverse) else none
  | _ => none

/-- Reads a text as one JSON document. -/
def read? (text : List Char) : Option Json :=
  (run .start text).bind State.document?

/-- Reads a text as one JSON document. -/
def parse? (text : String) : Option Json :=
  read? text.toList

/-! ### Running in pieces -/

/-- An empty text leaves the reader where it is. -/
@[simp] theorem run_nil (state : State) : run state [] = some state := rfl

/-- A text is read one character at a time. -/
theorem run_cons (state : State) (c : Char) (text : List Char) :
    run state (c :: text) = (step state c).bind fun next => run next text := by
  rw [run]; cases step state c <;> rfl

/-- Reading two pieces of text is reading the second from where the first leads. -/
theorem run_append (state : State) (first second : List Char) :
    run state (first ++ second) = (run state first).bind fun next => run next second := by
  induction first generalizing state with
  | nil => rfl
  | cons c first ih =>
    rw [List.cons_append, run_cons, run_cons]
    cases step state c with
    | none => rfl
    | some next => exact ih next

end Reconcile.Json

import Reconcile.Text.Digit

/-!
# TOML strings

A string stands between two quotes, on one line, or between two triples of quotes, on any number
of lines. Double quotes go with escapes; between single ones every character stands for itself.
The strings are read character by character, in a stage that says what came last.
-/

namespace Reconcile.Toml

/-- What reads the beginning of a text and gives what follows. -/
abbrev Reader (α : Type) := List Char → Option (α × List Char)

/-- Whether a character may stand in strings and comments: it is a tab or no control. -/
def isText (c : Char) : Bool :=
  c == '\t' || (0x20 ≤ c.toNat && c.toNat ≠ 0x7F)

/-- The two kinds of quotes. -/
inductive Quote where
  | double
  | single
  deriving DecidableEq, Repr

/-- The character of a quote. -/
def Quote.char : Quote → Char
  | .double => '"'
  | .single => '\''

/-- How far the reading of a string has come. -/
inductive Stage where
  /-- Among its characters. -/
  | plain
  /-- After a backslash. -/
  | escape
  /-- Inside a numeric escape: `digits` more have to follow, `value` is the number so far. -/
  | code (digits value : Nat)
  /-- After a backslash and blanks: the line has to end. -/
  | lineEnd
  /-- Among the blanks and line ends after a line that ended with a backslash. -/
  | continued
  /-- After so many quotes in a string between triples. -/
  | quotes (count : Nat)
  deriving DecidableEq, Repr

/-- What an escape of one character stands for. -/
def escaped? : Char → Option Char
  | 'b' => some '\x08'
  | 't' => some '\t'
  | 'n' => some '\n'
  | 'f' => some '\x0c'
  | 'r' => some '\r'
  | '"' => some '"'
  | '\\' => some '\\'
  | _ => none

/-- The number of digits of a numeric escape. -/
def codeDigits? : Char → Option Nat
  | 'u' => some 4
  | 'U' => some 8
  | _ => none

/-- The character of a number. -/
def scalar? (value : Nat) : Option Char :=
  if value.isValidChar then some (Char.ofNat value) else none

/-- Puts a character in front of what a reading gives. -/
def keep (c : Char) (read : Option (List Char × List Char)) : Option (List Char × List Char) :=
  read.map fun result => (c :: result.1, result.2)

/-- Reads a string on one line from behind its first quote. -/
def lineFrom (quote : Quote) (stage : Stage) (text : List Char) :
    Option (List Char × List Char) :=
  match stage, text with
  | _, [] => none
  | .plain, c :: rest =>
    if c = quote.char then some ([], rest)
    else if c = '\\' ∧ quote = .double then lineFrom quote .escape rest
    else if isText c then keep c (lineFrom quote .plain rest)
    else none
  | .escape, c :: rest =>
    match escaped? c, codeDigits? c with
    | some char, _ => keep char (lineFrom quote .plain rest)
    | none, some digits => lineFrom quote (.code digits 0) rest
    | none, none => none
  | .code digits value, c :: rest => do
    let value := value * 16 + (← Digit.hexValue? c)
    if digits ≤ 1 then keep (← scalar? value) (lineFrom quote .plain rest)
    else lineFrom quote (.code (digits - 1) value) rest
  | _, _ => none
  termination_by structural text

/-- The line end in front of a text, and what follows it. -/
def lineEnd? : List Char → Option (List Char)
  | '\n' :: rest => some rest
  | '\r' :: '\n' :: rest => some rest
  | _ => none

/-- What follows a line end is shorter than what there was. -/
theorem length_lt_of_lineEnd? {text rest : List Char} (h : lineEnd? text = some rest) :
    rest.length < text.length := by
  unfold lineEnd? at h
  split at h
  · cases h; simp
  · cases h; simp only [List.length_cons]; omega
  · cases h

/-- Reads a string on several lines from behind its opening quotes. Line ends count as newlines. Up
to two quotes may stand in front of the closing ones. -/
def linesFrom (quote : Quote) (stage : Stage) (text : List Char) :
    Option (List Char × List Char) :=
  match stage, text with
  | .quotes count, [] =>
    if 3 ≤ count then some (List.replicate (count - 3) quote.char, []) else none
  | _, [] => none
  | .quotes count, c :: rest =>
    if c = quote.char ∧ count < 5 then linesFrom quote (.quotes (count + 1)) rest
    else if 3 ≤ count then some (List.replicate (count - 3) quote.char, c :: rest)
    else
      (linesFrom quote .plain (c :: rest)).map fun result =>
        (List.replicate count quote.char ++ result.1, result.2)
  | .plain, c :: rest =>
    if c = quote.char then linesFrom quote (.quotes 1) rest
    else if c = '\\' ∧ quote = .double then linesFrom quote .escape rest
    else if isText c then keep c (linesFrom quote .plain rest)
    else
      match _h : lineEnd? (c :: rest) with
      | some rest => keep '\n' (linesFrom quote .plain rest)
      | none => none
  | .escape, c :: rest =>
    match escaped? c, codeDigits? c with
    | some char, _ => keep char (linesFrom quote .plain rest)
    | none, some digits => linesFrom quote (.code digits 0) rest
    | none, none => linesFrom quote .lineEnd (c :: rest)
  | .code digits value, c :: rest => do
    let value := value * 16 + (← Digit.hexValue? c)
    if digits ≤ 1 then keep (← scalar? value) (linesFrom quote .plain rest)
    else linesFrom quote (.code (digits - 1) value) rest
  | .lineEnd, c :: rest =>
    if c = ' ' ∨ c = '\t' then linesFrom quote .lineEnd rest
    else
      match _h : lineEnd? (c :: rest) with
      | some rest => linesFrom quote .continued rest
      | none => none
  | .continued, c :: rest =>
    if c = ' ' ∨ c = '\t' then linesFrom quote .continued rest
    else
      match _h : lineEnd? (c :: rest) with
      | some rest => linesFrom quote .continued rest
      | none => linesFrom quote .plain (c :: rest)
  termination_by (text.length, match stage with | .plain => 0 | .lineEnd => 0 | _ => 1)
  decreasing_by
    all_goals first
      | (apply Prod.Lex.left; simp only [List.length_cons]; omega)
      | (apply Prod.Lex.right; omega)
      | (apply Prod.Lex.left; exact length_lt_of_lineEnd? ‹_›)

/-- Reads a string of either kind. A line end right behind an opening triple does not count. -/
def string? (quote : Quote) : Reader String
  | a :: b :: c :: rest =>
    let read :=
      if a = quote.char ∧ b = quote.char ∧ c = quote.char then
        linesFrom quote .plain ((lineEnd? rest).getD rest)
      else if a = quote.char then lineFrom quote .plain (b :: c :: rest)
      else none
    read.map fun result => (String.ofList result.1, result.2)
  | a :: rest =>
    if a = quote.char then
      (lineFrom quote .plain rest).map fun result => (String.ofList result.1, result.2)
    else none
  | [] => none

end Reconcile.Toml

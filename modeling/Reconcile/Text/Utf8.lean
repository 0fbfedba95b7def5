/-!
# UTF-8

Text as bytes. `Utf8.encode` writes a list of characters, `Utf8.decode` reads one back and says
where and how the bytes go wrong, and `Utf8.decodeLossy` puts a replacement character for each
ill-formed piece instead.

A piece that cannot be continued ends at its first offending byte, so the length that
`DecodeError.invalid` carries is 1, 2 or 3; a piece that is well-formed as far as it goes but
that the end of the input cuts is `DecodeError.incomplete`.
-/

namespace Reconcile.Utf8

/-- The bytes of a list of characters. -/
def encode (text : List Char) : List UInt8 :=
  text.flatMap String.utf8EncodeChar

/-- The bytes of a text. -/
def bytes (text : String) : List UInt8 :=
  encode text.toList

/-- Why bytes are no text. -/
inductive DecodeError where
  /-- `length` bytes at `index` start no character. -/
  | invalid (length index : Nat)
  /-- The input ends inside the character that starts at `index`. -/
  | incomplete (index : Nat)
  deriving DecidableEq, Repr

/-- The wording of a decoding failure. -/
def DecodeError.message : DecodeError → String
  | .invalid length index =>
    "invalid utf-8 sequence of " ++ toString length ++ " bytes from index " ++ toString index
  | .incomplete index => "incomplete utf-8 byte sequence from index " ++ toString index

/-- What the bytes at one position hold. -/
inductive Head where
  /-- A character made of the first byte and `extra` more. -/
  | char (c : Char) (extra : Nat)
  /-- `length` bytes that start no character. -/
  | invalid (length : Nat)
  /-- The start of a character that the end of the input cuts. -/
  | incomplete
  deriving DecidableEq, Repr

/-- Whether a byte continues a character: it lies from 0x80 to 0xBF. -/
def isTail (b : UInt8) : Bool :=
  0x80 ≤ b && b ≤ 0xBF

/-- Whether `b` may follow the lead byte `a` of a character of three bytes. The lead 0xE0 would
start a shorter character's code and 0xED a surrogate outside these bounds. -/
def isSecondOfThree (a b : UInt8) : Bool :=
  (if a = 0xE0 then 0xA0 else 0x80) ≤ b && b ≤ (if a = 0xED then 0x9F else 0xBF)

/-- Whether `b` may follow the lead byte `a` of a character of four bytes. The lead 0xF0 would
start a shorter character's code and 0xF4 a number above the last code point outside these
bounds. -/
def isSecondOfFour (a b : UInt8) : Bool :=
  (if a = 0xF0 then 0x90 else 0x80) ≤ b && b ≤ (if a = 0xF4 then 0x8F else 0xBF)

/-- The six bits that a continuation byte carries. -/
def payload (b : UInt8) : Nat :=
  b.toNat % 64

/-- Reads the character that starts with the byte `a`, followed by `rest`. -/
def head (a : UInt8) (rest : List UInt8) : Head :=
  if a < 0x80 then .char (Char.ofNat a.toNat) 0
  else if a < 0xC2 then .invalid 1
  else if a < 0xE0 then
    match rest with
    | [] => .incomplete
    | b :: _ =>
      if isTail b then .char (Char.ofNat (a.toNat % 32 * 64 + payload b)) 1 else .invalid 1
  else if a < 0xF0 then
    match rest with
    | [] => .incomplete
    | b :: rest =>
      if isSecondOfThree a b then
        match rest with
        | [] => .incomplete
        | c :: _ =>
          if isTail c then
            .char (Char.ofNat ((a.toNat % 16 * 64 + payload b) * 64 + payload c)) 2
          else .invalid 2
      else .invalid 1
  else if a < 0xF5 then
    match rest with
    | [] => .incomplete
    | b :: rest =>
      if isSecondOfFour a b then
        match rest with
        | [] => .incomplete
        | c :: rest =>
          if isTail c then
            match rest with
            | [] => .incomplete
            | d :: _ =>
              if isTail d then
                .char (Char.ofNat
                  (((a.toNat % 8 * 64 + payload b) * 64 + payload c) * 64 + payload d)) 3
              else .invalid 3
          else .invalid 2
      else .invalid 1
  else .invalid 1

/-- Reads characters up to the end of the input; `index` is where the input starts. -/
def decodeFrom (index : Nat) : List UInt8 → Except DecodeError (List Char)
  | [] => .ok []
  | a :: rest =>
    match head a rest with
    | .char c extra => (decodeFrom (index + extra + 1) (rest.drop extra)).map (c :: ·)
    | .invalid length => .error (.invalid length index)
    | .incomplete => .error (.incomplete index)
  termination_by input => input.length
  decreasing_by simp only [List.length_drop, List.length_cons]; omega

/-- Reads bytes as text. -/
def decode (input : List UInt8) : Except DecodeError String :=
  (decodeFrom 0 input).map String.ofList

/-- The character that stands for an ill-formed piece. -/
def replacement : Char := '\uFFFD'

/-- Reads characters up to the end of the input, with a replacement character for each
ill-formed piece. -/
def decodeLossyList : List UInt8 → List Char
  | [] => []
  | a :: rest =>
    match head a rest with
    | .char c extra => c :: decodeLossyList (rest.drop extra)
    | .invalid length => replacement :: decodeLossyList (rest.drop (length - 1))
    | .incomplete => [replacement]
  termination_by input => input.length
  decreasing_by all_goals (simp only [List.length_drop, List.length_cons]; omega)

/-- Reads bytes as text, with a replacement character for each ill-formed piece. -/
def decodeLossy (input : List UInt8) : String :=
  String.ofList (decodeLossyList input)

end Reconcile.Utf8

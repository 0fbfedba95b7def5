import Reconcile.Url.Domain
import Reconcile.Url.Error
import Reconcile.Url.Percent

/-!
# Hosts

The host of a URL in its written form. A host in brackets is an address of eight pieces, a host
that ends in a number an address of four bytes; both are written in one way whatever way they were
given in. Other hosts are domain names, in ASCII. URLs of schemes that are not special have hosts
that nobody interprets.
-/

namespace Reconcile.Host

open Pieces

/-! ### Addresses of four bytes -/

/-- A part of an address: a number to base 16 after `0x`, to base 8 after another `0`, to base 10
otherwise. -/
def ipv4Part? (part : List Char) : Option Nat :=
  match part with
  | [] => none
  | '0' :: 'x' :: digits | '0' :: 'X' :: digits => Digit.number? 16 digits
  | '0' :: d :: digits => Digit.number? 8 (d :: digits)
  | part => Digit.number? 10 part

/-- Whether the last part of a name, a point at the end left aside, is a number. -/
def endsInNumber (name : List Char) : Bool :=
  let last : Option (List Char) :=
    match (splitOn '.' name).reverse with
    | [] :: last :: _ => some last
    | [[]] => none
    | last :: _ => some last
    | [] => none
  last.any fun part => (!part.isEmpty && part.all Char.isDigit) || (ipv4Part? part).isSome

/-- Reads an address of up to four parts; the last one fills the bytes that are left. -/
def ipv4? (name : List Char) : Option Nat := do
  let parts := splitOn '.' name
  let parts := if parts.getLast? = some [] then parts.dropLast else parts
  let numbers ← parts.mapM ipv4Part?
  let last ← numbers.getLast?
  let front := numbers.dropLast
  if front.length ≤ 3 ∧ front.all (· ≤ 255) ∧ last < wordSize (8 * (4 - front.length)) then
    some (front.foldr (fun n rest => n * wordSize 24 + rest / 256) 0 + last)
  else none

/-- Decimal digits. -/
def decimal (n : Nat) : List Char :=
  Nat.toDigits 10 n

/-- An address as its four bytes. -/
def renderIpv4 (address : Nat) : List Char :=
  joinWith '.'
    [decimal (address / wordSize 24), decimal (address / wordSize 16 % 256),
      decimal (address / 256 % 256), decimal (address % 256)]

/-! ### Addresses of eight pieces -/

/-- A piece of an address: one to four digits to base 16. -/
def ipv6Piece? (piece : List Char) : Option Nat :=
  if piece.isEmpty ∨ 4 < piece.length then none else Digit.number? 16 piece

/-- A byte of an address, in decimal digits without a zero in front. -/
def ipv4Byte? (part : List Char) : Option Nat := do
  let n ← if part.isEmpty ∨ 3 < part.length then none else Digit.number? 10 part
  if n ≤ 255 ∧ (part.length = 1 ∨ part.head? ≠ some '0') then some n else none

/-- Two pieces given as four bytes. -/
def embeddedIpv4? (text : List Char) : Option (List Nat) := do
  match ← (splitOn '.' text).mapM ipv4Byte? with
  | [a, b, c, d] => some [a * 256 + b, c * 256 + d]
  | _ => none

/-- Pieces between colons. The last one may be four bytes if `atEnd`. -/
def ipv6Pieces? (atEnd : Bool) : List (List Char) → Option (List Nat)
  | [] => some []
  | [last] =>
    if atEnd ∧ last.contains '.' then embeddedIpv4? last
    else (ipv6Piece? last).map ([·])
  | piece :: pieces => do
    let n ← ipv6Piece? piece
    return n :: (← ipv6Pieces? atEnd pieces)

/-- Pieces between colons; an empty text has none. -/
def ipv6Side? (atEnd : Bool) (text : List Char) : Option (List Nat) :=
  if text.isEmpty then some [] else ipv6Pieces? atEnd (splitOn ':' text)

/-- The texts before and after the first double colon. -/
def splitAtGap? : List Char → Option (List Char × List Char)
  | ':' :: ':' :: rest => some ([], rest)
  | c :: rest => (splitAtGap? rest).map fun parts => (c :: parts.1, parts.2)
  | [] => none

/-- Reads an address; a double colon stands for as many zero pieces as are missing. -/
def ipv6? (text : List Char) : Option (List Nat) :=
  match splitAtGap? text with
  | none => (ipv6Side? true text).filter (·.length = 8)
  | some (front, back) => do
    let front ← ipv6Side? false front
    let back ← ipv6Side? true back
    if front.length + back.length ≤ 7 then
      some (front ++ List.replicate (8 - front.length - back.length) 0 ++ back)
    else none

/-- The number of zeros at the start of a list. -/
def zerosAhead (pieces : List Nat) : Nat :=
  (pieces.takeWhile (· = 0)).length

/-- Where the first of the longest runs of zeros starts, and its length. -/
def longestZeros : List Nat → Nat × Nat
  | [] => (0, 0)
  | piece :: pieces =>
    let here := zerosAhead (piece :: pieces)
    let (start, length) := longestZeros pieces
    if 0 < here ∧ length ≤ here then (0, here) else (start + 1, length)

/-- Pieces with colons between them. -/
def renderPieces (pieces : List Nat) : List Char :=
  joinWith ':' (pieces.map (Nat.toDigits 16))

/-- An address with its longest run of two or more zero pieces left out, in brackets. -/
def renderIpv6 (pieces : List Nat) : List Char :=
  let (start, length) := longestZeros pieces
  let inside :=
    if 2 ≤ length then
      renderPieces (pieces.take start) ++ [':', ':'] ++ renderPieces (pieces.drop (start + length))
    else renderPieces pieces
  '[' :: inside ++ [']']

/-- Reads a host in brackets, of which the first is gone. -/
def bracketed (inside : List Char) : Except UrlError (List Char) :=
  if inside.getLast? = some ']' then
    match ipv6? inside.dropLast with
    | some pieces => .ok (renderIpv6 pieces)
    | none => .error .invalidIpv6
  else .error .invalidIpv6

/-! ### The whole -/

/-- Reads the host of a URL of a special scheme. -/
def parse (text : List Char) : Except UrlError (List Char) :=
  match text with
  | '[' :: inside => bracketed inside
  | _ =>
    let name := (Utf8.decode (Percent.decode text)).toOption
    match name.bind fun name => Domain.toAscii? name.toList with
    | none => .error .invalidDomainName
    | some name =>
      if name.isEmpty then .error .emptyHost
      else if endsInNumber name then
        match ipv4? name with
        | some address => .ok (renderIpv4 address)
        | none => .error .invalidIpv4
      else .ok name

/-- Whether a host that nobody interprets may not hold a character. -/
def isForbiddenOpaque (c : Char) : Bool :=
  ['\x00', '\t', '\n', '\r', ' ', '#', '/', ':', '<', '>', '?', '@', '[', '\\', ']', '^',
    '|'].contains c

/-- Reads the host of a URL of another scheme. -/
def parseOpaque (text : List Char) : Except UrlError (List Char) :=
  match text with
  | '[' :: inside => bracketed inside
  | _ =>
    if text.any isForbiddenOpaque then .error .invalidDomainCharacter
    else .ok (Percent.encode Percent.isGraphic text)

end Reconcile.Host

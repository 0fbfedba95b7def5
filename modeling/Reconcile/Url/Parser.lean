import Reconcile.Url
import Reconcile.Url.Host

/-!
# Reading URLs

A text as a URL, by the rules of the URL standard: blanks and controls at the two ends and all tabs
and line ends are dropped, special schemes take backslashes for slashes and any number of them in
front of the authority, and the segments `.` and `..` of a path are carried out. A text by itself
has no base, and is no URL without a scheme. A reference that stands at a URL of the web may leave
out what it shares with that URL, from the front.

The parts of an authority are read one after the other, each up to the character that ends it, so
a backslash after a port ends the authority even where it is no slash.
-/

namespace Reconcile.Url

/-- A text without the blanks and controls at its ends and without tabs and line ends. -/
def clean (text : List Char) : List Char :=
  let outer (c : Char) : Bool := c.toNat ≤ 0x20
  (((text.dropWhile outer).reverse.dropWhile outer).reverse).filter fun c => !isDropped c

/-- The scheme in front of a text, in lower case, and what follows its colon. -/
def scheme? (text : List Char) : Option (String × List Char) :=
  match text.span (· ≠ ':') with
  | (c :: name, _ :: rest) =>
    if c.isAlpha ∧ name.all fun c => c.isAlphanum || c == '+' || c == '-' || c == '.' then
      some (String.ofList ((c :: name).map Char.toLower), rest)
    else none
  | _ => none

/-- Whether a character separates path segments. -/
def isSlash (special : Bool) (c : Char) : Bool :=
  c == '/' || (special && c == '\\')

/-- Whether a character ends the path. -/
def endsPath (c : Char) : Bool :=
  c == '?' || c == '#'

/-- Whether a character ends name and password, or a host. -/
def endsAuthority (special : Bool) (c : Char) : Bool :=
  isSlash special c || endsPath c

/-! ### The authority -/

/-- The texts before and after the last at sign. -/
def splitAtSign? (text : List Char) : Option (List Char × List Char) :=
  match text.reverse.span (· ≠ '@') with
  | (_, []) => none
  | (after, _ :: before) => some (before.reverse, after.reverse)

/-- A name and password as they are written. -/
def encodeUserinfo (text : List Char) : List Char :=
  let encode := Percent.encode Percent.keepInUserinfo
  match text.span (· ≠ ':') with
  | (name, []) => encode name
  | (name, [_]) => encode name
  | (name, _ :: password) => encode name ++ ':' :: encode password

/-- Reads a name and password, and gives what follows them. -/
def parseUserinfo (special : Bool) (text : List Char) :
    Except UrlError (List Char × List Char) :=
  let (authority, rest) := text.span fun c => !endsAuthority special c
  match splitAtSign? authority with
  | none => .ok ([], text)
  | some (userinfo, after) =>
    if userinfo.isEmpty ∧ after.isEmpty ∧ !rest.isEmpty then .error .emptyHost
    else .ok (encodeUserinfo userinfo, after ++ rest)

/-- The host in front of a text and what follows it. Inside brackets a colon does not end it. -/
def splitHost (special inBrackets : Bool) : List Char → List Char × List Char
  | [] => ([], [])
  | c :: rest =>
    if endsAuthority special c ∨ (c = ':' ∧ !inBrackets) then ([], c :: rest)
    else
      let inBrackets := if c = '[' then true else if c = ']' then false else inBrackets
      let (host, after) := splitHost special inBrackets rest
      (c :: host, after)

/-- Reads a port, which may be missing, at most 65535, and gives what follows it: nothing, or a
slash of either kind, or what ends the path. -/
def parsePort (text : List Char) : Except UrlError (Option Nat × List Char) :=
  match text with
  | ':' :: text =>
    let (digits, rest) := text.span Char.isDigit
    if rest.head?.all fun c => isSlash true c || endsPath c then
      if digits.isEmpty then .ok (none, rest)
      else
        match (Digit.number? 10 digits).filter (· ≤ 65535) with
        | some port => .ok (some port, rest)
        | none => .error .invalidPort
    else .error .invalidPort
  | _ => .ok (none, text)

/-! ### The path -/

/-- A text without the number signs of encoded points. -/
def plainDots : List Char → List Char
  | '%' :: '2' :: 'e' :: rest => '.' :: plainDots rest
  | '%' :: '2' :: 'E' :: rest => '.' :: plainDots rest
  | c :: rest => c :: plainDots rest
  | [] => []

/-- The pieces of a path between its slashes. -/
def splitSegments (special : Bool) (text : List Char) : List (List Char) :=
  Pieces.splitOn '/' (text.map fun c => if isSlash special c then '/' else c)

/-- Puts segments behind a path, last first, and carries out those that are points. Points at the
end leave an empty segment. `adjust` is applied to any other segment, with whether it is the first
one of the path. -/
def resolveSegments (adjust : Bool → List Char → List Char) (path : List (List Char)) :
    List (List Char) → List (List Char)
  | [] => path
  | segment :: rest =>
    let written := Percent.encode Percent.keepInPath segment
    let dots := plainDots written
    if dots = ['.', '.'] ∨ dots = ['.'] then
      let path := if dots = ['.'] then path else dropSegment path
      if rest.isEmpty then [] :: path else resolveSegments adjust path rest
    else resolveSegments adjust (adjust path.isEmpty written :: path) rest

/-- Reads a path that starts behind its first slash. -/
def parsePath (special : Bool) (text : List Char) : List (List Char) :=
  (resolveSegments (fun _ segment => segment) [] (splitSegments special text)).reverse

/-- Reads the path behind an authority. That of a special scheme has a segment in any case. -/
def parsePathAfterAuthority (special : Bool) (text : List Char) : List (List Char) :=
  match text with
  | [] => if special then [[]] else []
  | c :: rest => parsePath special (if isSlash special c then rest else text)

/-! ### The whole -/

/-- A URL with its query and fragment, which start with their marks. -/
def withQueryAndFragment (url : Url) (text : List Char) : Url :=
  let (beforeFragment, fragment) := text.span (· ≠ '#')
  let query : Option (List Char) :=
    match beforeFragment with
    | [] => none
    | _ :: query => some (Percent.encode (Percent.keepInQuery (isSpecial url.scheme)) query)
  let fragment : Option (List Char) :=
    match fragment with
    | [] => none
    | _ :: fragment => some (Percent.encode Percent.keepInFragment fragment)
  { url with query, fragment }

/-- Reads what follows the two slashes in front of an authority. -/
def parseAfterSlashes (scheme : String) (text : List Char) : Except UrlError Url := do
  let special := isSpecial scheme
  let (userinfo, rest) ← parseUserinfo special text
  let (hostText, rest) := splitHost special false rest
  if special ∧ hostText.isEmpty then .error .emptyHost
  let host ← if special then Host.parse hostText else Host.parseOpaque hostText
  if host.isEmpty ∧ rest.head? = some ':' then .error .emptyHost
  let (port, rest) ← parsePort rest
  if host.isEmpty ∧ !userinfo.isEmpty then .error .emptyHost
  let (pathText, tail) := rest.span fun c => !endsPath c
  let url : Url :=
    { scheme
      userinfo
      host := some host
      port := port.filter fun port => defaultPort? scheme ≠ some port
      path := .segments (parsePathAfterAuthority special pathText)
      query := none
      fragment := none }
  return url.withQueryAndFragment tail

/-! ### Files -/

/-- Reads the host of a file, if there is one: a drive is none, and the local host is not named. -/
def parseFileHost (text : List Char) : Except UrlError (Option (List Char) × List Char) := do
  let (hostText, rest) := text.span fun c => !endsAuthority true c
  if isDrive hostText then return (none, text)
  else if hostText.isEmpty then return (none, rest)
  else
    let host ← Host.parse hostText
    return (if host = "localhost".toList then none else some host, rest)

/-- Reads the path of a file that starts behind its first slash. A drive in front of it is written
with a colon. -/
def parseFilePath (text : List Char) : List (List Char) :=
  (resolveSegments
    (fun isFirst segment => if isFirst ∧ isDrive segment then writeDrive segment else segment)
    [] (splitSegments true text)).reverse

/-- A path without the empty segments in front. -/
def dropEmptyFront : List (List Char) → List (List Char)
  | [] :: segment :: rest => dropEmptyFront (segment :: rest)
  | path => path

/-- A text without a slash in front. -/
def dropSlash : List Char → List Char
  | [] => []
  | c :: rest => if isSlash true c then rest else c :: rest

/-- Reads the host of a file, and gives what follows the first slash of its path. Behind two slashes
without a host a third one counts as an empty segment. -/
def parseFileFront (text : List Char) : Except UrlError (Option (List Char) × List Char) :=
  match text with
  | a :: b :: after =>
    if isSlash true a ∧ isSlash true b then
      (parseFileHost after).map fun (host, rest) =>
        (host, if host.isSome then dropSlash rest else rest)
    else .ok (none, dropSlash text)
  | _ => .ok (none, dropSlash text)

/-- Reads what follows the scheme `file` and its colon. Its host may be missing, and a host goes
with no drive. -/
def parseFile (text : List Char) : Except UrlError Url := do
  let (host, rest) ← parseFileFront text
  let (pathText, tail) := rest.span fun c => !endsPath c
  let path := parseFilePath pathText
  let url : Url :=
    { scheme := "file"
      userinfo := []
      host := some (if path.head?.any isDrive then [] else host.getD [])
      port := none
      path := .segments (dropEmptyFront path)
      query := none
      fragment := none }
  return url.withQueryAndFragment tail

/-- Reads what follows a scheme that is not special and its colon. -/
def parseOther (scheme : String) (text : List Char) : Except UrlError Url := do
  match text with
  | '/' :: '/' :: rest => parseAfterSlashes scheme rest
  | _ =>
    let (pathText, tail) := text.span fun c => !endsPath c
    let path : UrlPath :=
      match pathText with
      | '/' :: rest => .segments (parsePath false rest)
      | _ => .flat (Percent.encode Percent.isGraphic pathText)
    let url : Url :=
      { scheme, userinfo := [], host := none, port := none, path, query := none, fragment := none }
    return url.withQueryAndFragment tail

/-- Reads a URL. -/
def parse (text : String) : Except UrlError Url :=
  match scheme? (clean text.toList) with
  | none => .error .relativeWithoutBase
  | some (scheme, rest) =>
    if scheme = "file" then parseFile rest
    else if isSpecial scheme then
      parseAfterSlashes scheme (rest.dropWhile (isSlash true))
    else parseOther scheme rest

/-! ### References -/

/-- Reads what a reference adds to a URL of the web. Two slashes are in front of an authority, one
is in front of a path, and any other path goes on from the last slash of the URL's own. -/
def parseRelative (base : Url) (text : List Char) : Except UrlError Url :=
  let (pathText, tail) := text.span fun c => !endsPath c
  let path : List (List Char) :=
    match base.path with
    | .flat _ => []
    | .segments list => list
  match pathText with
  | [] =>
    if tail.head? = some '?' then .ok (base.withQueryAndFragment tail)
    else .ok { base.withQueryAndFragment tail with query := base.query }
  | c :: rest =>
    if isSlash true c then
      if rest.head?.any (isSlash true) then
        let after := if text.take 2 = ['/', '/'] then text.drop 2 else text.dropWhile (isSlash true)
        parseAfterSlashes base.scheme after
      else
        .ok (withQueryAndFragment { base with path := .segments (parsePath true rest) } tail)
    else
      let path := resolveSegments (fun _ segment => segment) path.dropLast.reverse
        (splitSegments true pathText)
      .ok (withQueryAndFragment { base with path := .segments path.reverse } tail)

/-- Reads a reference that stands at a URL of the web. One with the scheme of that URL and less than
two slashes behind it is relative too. -/
def resolve (base : Url) (reference : String) : Except UrlError Url :=
  let text := clean reference.toList
  match scheme? text with
  | none => base.parseRelative text
  | some (scheme, rest) =>
    if scheme = base.scheme ∧ (rest.takeWhile (isSlash true)).length < 2 then
      base.parseRelative rest
    else parse reference

end Reconcile.Url

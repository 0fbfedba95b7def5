import Reconcile.Url.Form

/-!
# URLs

A URL by its parts, each as it is written. The path is a list of segments, or a text for a URL
that has no hierarchy. The path of a URL of a special scheme is never empty: it has at least one
segment, which may be the empty text.

Segments that are added to a path are encoded, so that none is mistaken for more than one. The
segments `.` and `..` stand for no segment and are not added; tabs and line ends are dropped from
the others, and a segment that becomes `.` or `..` thereby counts as such only then: it is added
as an empty one, in the second case in place of the segment before it. A segment that looks like a
drive is never replaced in this way, whatever the scheme.
-/

namespace Reconcile

/-- The path of a URL. -/
inductive UrlPath where
  /-- A path without hierarchy. -/
  | flat (text : List Char)
  | segments (list : List (List Char))
  deriving DecidableEq, Repr, Inhabited

/-- A URL. -/
structure Url where
  scheme : String
  /-- Name and password, as they stand before the at sign. -/
  userinfo : List Char
  /-- The host, if the URL has an authority. -/
  host : Option (List Char)
  /-- The port, if it is not that of the scheme. -/
  port : Option Nat
  path : UrlPath
  query : Option (List Char)
  fragment : Option (List Char)
  deriving DecidableEq, Repr, Inhabited

namespace Url

/-- The schemes whose URLs have an authority and a hierarchical path, with their ports. -/
def specialSchemes : List (String × Option Nat) :=
  [("http", some 80), ("https", some 443), ("ws", some 80), ("wss", some 443),
    ("ftp", some 21), ("file", none)]

/-- Whether URLs of a scheme have an authority and a hierarchical path. -/
def isSpecial (scheme : String) : Bool :=
  specialSchemes.any (·.1 == scheme)

/-- The port of a scheme. -/
def defaultPort? (scheme : String) : Option Nat :=
  (specialSchemes.find? (·.1 == scheme)).bind (·.2)

/-- Whether the path of a URL has no hierarchy, so that nothing can be added to it. -/
def cannotBeABase (url : Url) : Bool :=
  match url.path with
  | .flat _ => true
  | .segments _ => false

/-! ### Writing -/

/-- A path as it is written. -/
def printPath : UrlPath → List Char
  | .flat text => text
  | .segments list => list.flatMap fun segment => '/' :: segment

/-- The authority of a URL with the slashes in front of it. A path without an authority that
starts like one has a dot in front. -/
def printAuthority (url : Url) : List Char :=
  match url.host with
  | some host =>
    '/' :: '/' ::
      ((if url.userinfo.isEmpty then [] else url.userinfo ++ ['@']) ++ host ++
        url.port.elim [] fun port => ':' :: Nat.toDigits 10 port)
  | none =>
    match url.path with
    | .segments ([] :: _ :: _) => ['/', '.']
    | _ => []

/-- A URL as it is written. -/
def print (url : Url) : List Char :=
  url.scheme.toList ++ ':' :: (url.printAuthority ++ printPath url.path ++
    url.query.elim [] ('?' :: ·) ++ url.fragment.elim [] ('#' :: ·))

/-- A URL as it is written. -/
def render (url : Url) : String :=
  String.ofList url.print

/-- Whether a text is UTF-8 once its encoded bytes are decoded. -/
def isDecodable (text : List Char) : Bool :=
  (Utf8.decode (Percent.decode text)).isOk

/-- A URL without name and password. They stay if the name cannot be decoded, and a password that
cannot be decoded stays without a name. -/
def withoutUserinfo (url : Url) : Url :=
  let (name, password) := url.userinfo.span (· ≠ ':')
  if isDecodable name ∧ (!name.isEmpty ∨ isDecodable password) then { url with userinfo := [] }
  else url

/-- A URL without its fragment. -/
def withoutFragment (url : Url) : Url :=
  { url with fragment := none }

/-- A URL as a server sees it. -/
def requested (url : Url) : String :=
  url.withoutUserinfo.withoutFragment.render

/-! ### Adding to a path -/

/-- Whether a character is dropped wherever it stands in a URL. -/
def isDropped (c : Char) : Bool :=
  c == '\t' || c == '\n' || c == '\r'

/-- A path without the empty segment at its end, unless that is its only one. -/
def popIfEmpty (path : List (List Char)) : List (List Char) :=
  match path.reverse with
  | [] :: segment :: rest => (segment :: rest).reverse
  | _ => path

/-- A path with a segment at its end. The only segment of a path is replaced if it is empty. -/
def appendSegment (path : List (List Char)) (segment : List Char) : List (List Char) :=
  if path = [[]] then [segment] else path ++ [segment]

/-- Whether a segment names a drive: a letter with a colon or a bar behind it. -/
def isDrive : List Char → Bool
  | [letter, mark] => letter.isAlpha && (mark == ':' || mark == '|')
  | _ => false

/-- Whether a segment names a drive in the way in which it is written, with a colon. -/
def isWrittenDrive (segment : List Char) : Bool :=
  isDrive segment && segment.getLast? == some ':'

/-- A drive as it is written. -/
def writeDrive (drive : List Char) : List Char :=
  drive.take 1 ++ [':']

/-- Whether two points leave a segment where it is: they do not lead out of a drive. What follows a
backslash does not count. -/
def isHeld (segment : List Char) : Bool :=
  isDrive (segment.take 2) && (segment.drop 2).head?.all (· == '\\')

/-- A path, last segment first, without its last segment. -/
def dropSegment : List (List Char) → List (List Char)
  | [] => []
  | segment :: path => if isHeld segment then segment :: path else path

/-- A path with two points at its end, which leave an empty segment. The only segment of a path is
replaced if it is empty. -/
def goUp (path : List (List Char)) : List (List Char) :=
  if path = [[]] then [[]] else (dropSegment path.reverse).reverse ++ [[]]

/-- Adds a text to the path of a URL of some scheme, as one segment. A drive in front of the path of
a file is written with a colon. -/
def pushSegment (scheme : String) (path : List (List Char)) (segment : String) :
    List (List Char) :=
  if segment = "." ∨ segment = ".." then path
  else
    let kept := segment.toList.filter fun c => !isDropped c
    if kept = ['.'] then appendSegment path []
    else if kept = ['.', '.'] then goUp path
    else if scheme = "file" ∧ path = [[]] ∧ isDrive kept then [writeDrive kept]
    else appendSegment path (Percent.encode (Percent.keepInSegment (isSpecial scheme)) kept)

/-- A URL with texts added to its path, each as one segment. -/
def extend (url : Url) (segments : List String) : Url :=
  match url.path with
  | .flat _ => url
  | .segments path =>
    { url with
      path := .segments (segments.foldl (pushSegment url.scheme) path) }

/-- A URL whose path has no empty segment at its end, unless that is its only one. -/
def trimPath (url : Url) : Url :=
  match url.path with
  | .flat _ => url
  | .segments path => { url with path := .segments (popIfEmpty path) }

/-- A URL with pairs added to its query. -/
def addQuery (url : Url) (pairs : List (String × String)) : Url :=
  { url with query := some (Form.append (url.query.getD []) pairs) }

/-- A path with a name in place of its last segment. The drive of a file stays: the name is put
below it if it is the whole path, and behind it otherwise. -/
def replaceLast (scheme : String) (path : List (List Char)) (name : List Char) :
    List (List Char) :=
  let last := path.getLast?.getD []
  if scheme = "file" ∧ isWrittenDrive last then
    if path.length = 1 then [last, name] else path.dropLast ++ [last ++ name]
  else path.dropLast ++ [name]

/-- The URL of a name next to the last segment of a URL's path. -/
def sibling (url : Url) (name : List Char) : Url :=
  match url.path with
  | .flat _ => url
  | .segments path =>
    { url with
      path := .segments (replaceLast url.scheme path name)
      query := none
      fragment := none }

end Url

end Reconcile

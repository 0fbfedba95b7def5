import Reconcile.Net.Http
import Reconcile.Text.Digit
import Reconcile.Url.Parser

/-!
# Requests and answers as bytes

The messages of HTTP/1.1 in which a request travels to its server and the answer back. Each request
has a connection of its own, which the server closes behind the answer. Heads that only announce an
answer may stand in front of it. The body of an answer ends where its announced length says, behind
its last chunk, or with the connection.
-/

namespace Reconcile.Message

/-- A request as it is sent, and where to. -/
structure Envelope where
  host : String
  port : Nat
  bytes : List UInt8
  deriving Repr

/-- The mark at the end of a line. -/
def lineEnd : List UInt8 :=
  [0x0D, 0x0A]

/-- The lines in front of the body of a request. -/
def requestLines (request : Request) (url : Url) (host : List Char) : List String :=
  let path := Url.printPath url.path ++ url.query.elim [] ('?' :: ·)
  let port := url.port.elim "" fun port => ":" ++ toString port
  [request.method.name ++ " " ++ String.ofList path ++ " HTTP/1.1",
    "host: " ++ String.ofList host ++ port,
    "accept: */*",
    "connection: close"] ++
    if request.method = .post then ["content-length: " ++ toString request.body.utf8ByteSize]
    else []

/-- A request as it is sent; none if its URL has no host. -/
def envelope? (request : Request) : Option Envelope := do
  let url ← (Url.parse request.url).toOption
  let host ← url.host
  let port ← url.port.or (Url.defaultPort? url.scheme)
  let head := (requestLines request url host).flatMap fun line => Utf8.bytes line ++ lineEnd
  return ⟨String.ofList (host.filter fun c => c ≠ '[' ∧ c ≠ ']'), port,
    head ++ lineEnd ++ Utf8.bytes request.body⟩

/-- The bytes before and after the first line end. -/
def splitLine? : List UInt8 → Option (List UInt8 × List UInt8)
  | 0x0D :: 0x0A :: rest => some ([], rest)
  | byte :: rest => (splitLine? rest).map fun parts => (byte :: parts.1, parts.2)
  | [] => none

/-- What follows a line is shorter than what there was. -/
theorem length_lt_of_splitLine? {bytes line rest : List UInt8}
    (h : splitLine? bytes = some (line, rest)) : rest.length < bytes.length := by
  fun_induction splitLine? bytes generalizing line with
  | case1 => cases h; simp only [List.length_cons]; omega
  | case2 byte tail _ ih =>
    obtain ⟨⟨before, after⟩, hsplit, heq⟩ := Option.map_eq_some_iff.1 h
    obtain ⟨-, rfl⟩ := Prod.mk.inj heq
    have : after.length < tail.length := ih hsplit
    simp only [List.length_cons]
    omega
  | case3 => cases h

/-- The lines up to the first empty one, and the bytes behind it. -/
def splitHead? (bytes : List UInt8) : Option (List String × List UInt8) :=
  match _h : splitLine? bytes with
  | none => none
  | some ([], body) => some ([], body)
  | some (line, rest) =>
    (splitHead? rest).map fun parts => (Utf8.decodeLossy line :: parts.1, parts.2)
  termination_by bytes.length
  decreasing_by exact length_lt_of_splitLine? ‹_›

/-- What follows a head is shorter than what there was. -/
theorem length_lt_of_splitHead? {bytes body : List UInt8} {lines : List String}
    (h : splitHead? bytes = some (lines, body)) : body.length < bytes.length := by
  fun_induction splitHead? bytes generalizing lines with
  | case1 => cases h
  | case2 bytes body' hsplit =>
    cases h
    exact length_lt_of_splitLine? hsplit
  | case3 bytes line rest _ hsplit ih =>
    obtain ⟨⟨before, after⟩, hhead, heq⟩ := Option.map_eq_some_iff.1 h
    obtain ⟨-, rfl⟩ := Prod.mk.inj heq
    exact Nat.lt_trans (ih hhead) (length_lt_of_splitLine? hsplit)

/-- A text without blanks at its ends. -/
def trimBlanks (text : List Char) : List Char :=
  let isBlank (c : Char) : Bool := c == ' ' || c == '\t'
  ((text.dropWhile isBlank).reverse.dropWhile isBlank).reverse

/-- The value of a header, without blanks at its ends. -/
def header? (name : String) (lines : List String) : Option String :=
  lines.findSome? fun line =>
    match line.toList.span (· ≠ ':') with
    | (_, []) => none
    | (before, _ :: value) =>
      if String.ofList (before.map Char.toLower) = name then some (String.ofList (trimBlanks value))
      else none

/-- The status in the first line of an answer, which has three digits. -/
def status? (lines : List String) : Option Nat := do
  match (← lines.head?).splitOn " " with
  | _ :: code :: _ => if code.length = 3 then code.toNat? else none
  | _ => none

/-- The status and the lines of an answer and the bytes behind them, without the heads in front that
only announce the answer. -/
def answerHead? (bytes : List UInt8) : Option (Nat × List String × List UInt8) :=
  match _h : splitHead? bytes with
  | none => none
  | some (lines, body) =>
    match status? lines with
    | none => none
    | some status =>
      if 100 ≤ status ∧ !isAnswerStatus status then answerHead? body
      else some (status, lines, body)
  termination_by bytes.length
  decreasing_by exact length_lt_of_splitHead? ‹_›

/-- The content of chunks, and whether the last one is missing. -/
def joinChunks (bytes : List UInt8) : List UInt8 × Bool :=
  match _h : splitLine? bytes with
  | none => ([], true)
  | some (line, rest) =>
    let digits := (Utf8.decodeLossy line).toList.takeWhile (· ≠ ';')
    match Digit.number? 16 (digits.filter (· ≠ ' ')) with
    | none => ([], true)
    | some 0 => ([], false)
    | some size =>
      if rest.length < size + 2 then (rest.take size, true)
      else
        let (content, cut) := joinChunks (rest.drop (size + 2))
        (rest.take size ++ content, cut)
  termination_by bytes.length
  decreasing_by
    have := length_lt_of_splitLine? ‹splitLine? bytes = some (line, rest)›
    simp only [List.length_drop]
    omega

/-- The URL that an answer names as the place to ask at, read at the URL of the request. -/
def location? (request : Request) (lines : List String) : Option Url := do
  let base ← (Url.parse request.url).toOption
  let reference ← header? "location" lines
  -- what is no UTF-8 is no reference
  if reference.contains '\uFFFD' then none else (base.resolve reference).toOption

/-- The reply to a request that some bytes are; bytes that are no answer count as silence. -/
def reply (request : Request) (bytes : List UInt8) : Reply :=
  match answerHead? bytes with
  | none => .silence
  | some (status, lines, body) =>
    let location := location? request lines
    if (header? "transfer-encoding" lines).map String.toLower = some "chunked" then
      let (content, cut) := joinChunks body
      .answer status content cut location
    else
      match (header? "content-length" lines).bind String.toNat? with
      | some length => .answer status (body.take length) (body.length < length) location
      | none => .answer status body false location

end Reconcile.Message

import Reconcile.Net.Error
import Reconcile.Text.Utf8
import Reconcile.Url

/-!
# Requests and answers

A client makes one request after the other in a network and gets an answer to each, or none. The
network is a value: the replies still to come, the first of which is the reply to the next request
that arrives, and the requests that arrived so far. Once the replies are used up nothing is found
any more. At a network that cannot be reached no request arrives.

A reply may send the client on to another URL. The client then makes the request there, and again
where the reply to that sends it, up to `maxRedirects` times; what arrives in this way uses up
replies too. Only the last reply is the answer.

What a server sees of a URL is neither its fragment nor its name and password. A body is read as
UTF-8, with replacement characters for what is none.
-/

namespace Reconcile

/-- A request as it arrives. -/
structure Request where
  method : Method
  url : String
  body : String
  deriving DecidableEq, Repr, Inhabited

/-- How a server replies to a request. -/
inductive Reply where
  /-- With a status and a body, and with the URL that it names as the place to ask at, as the client
  reads it. A cut body ends before its announced length. -/
  | answer (status : Nat) (body : List UInt8) (cut : Bool) (location : Option Url := none)
  /-- Not at all: the connection is closed, or the time for a request runs out. -/
  | silence
  deriving DecidableEq, Repr, Inhabited

/-- The reply of a server that finds nothing. -/
def Reply.notFound : Reply :=
  .answer 404 [] false

/-- What a client gets back for a request. -/
structure Response where
  status : Nat
  /-- The text of the body, unless the body is cut. -/
  body : Option String
  deriving DecidableEq, Repr, Inhabited

/-- A request that arrived. -/
structure Arrival where
  request : Request
  /-- Whether a server had sent the client on to it. -/
  follows : Bool
  deriving DecidableEq, Repr, Inhabited

/-- The request of an arrival, if the client has made it of its own accord. -/
def Arrival.made? (arrival : Arrival) : Option Request :=
  if arrival.follows then none else some arrival.request

/-- A network with a server in it. -/
structure Network where
  /-- Whether requests arrive. -/
  reachable : Bool
  /-- The replies to the next requests. -/
  replies : List Reply
  /-- The requests that arrived. -/
  arrivals : Array Arrival
  deriving Repr, Inhabited

/-- The requests that clients made of their own accord and that arrived. -/
def Network.requests (network : Network) : Array Request :=
  (network.arrivals.toList.filterMap Arrival.made?).toArray

/-! ### Statuses -/

/-- Whether an answer can have a status. Smaller ones only announce the answer, unless the
connection changes its protocol. -/
def isAnswerStatus (status : Nat) : Bool :=
  status == 101 || (200 ≤ status && status ≤ 999)

/-- Whether an answer has a body. -/
def hasBody (method : Method) (status : Nat) : Bool :=
  method ≠ .head && status ≠ 101 && status ≠ 204 && status ≠ 304

/-- The statuses that send a client on, with whether the request stays as it is. -/
def redirectStatuses : List (Nat × Bool) :=
  [(301, false), (302, false), (303, false), (307, true), (308, true)]

/-! ### URLs -/

/-- The longest URL that can be requested. -/
def maxUrlLength : Nat :=
  65534

/-- Whether a URL can stand in a request: its host is without the marks that are none of a
request's, and it is not too long. -/
def fitsRequest (url : Url) : Bool :=
  url.host.all (·.all fun c => !(['"', '\x60', '\x7b', '\x7d'].contains c)) &&
    url.print.length ≤ maxUrlLength

/-- Whether a URL can be requested: it has one of the two schemes for it and can stand in a
request. -/
def isRequestable (url : Url) : Bool :=
  (url.scheme == "http" || url.scheme == "https") && fitsRequest url

/-! ### Following -/

/-- Where a reply sends a client on to. -/
structure Redirect where
  url : Url
  /-- Whether the request stays as it is. -/
  keeps : Bool
  deriving DecidableEq, Repr

/-- Where a reply sends a client on to, if its status does so and it names a URL that can stand in a
request. -/
def Reply.redirect? : Reply → Option Redirect
  | .answer status _ _ (some location) =>
    if fitsRequest location then (redirectStatuses.lookup status).map (⟨location, ·⟩) else none
  | _ => none

/-- How often a client lets itself be sent on. -/
def maxRedirects : Nat :=
  10

/-- A request as a client makes it. -/
structure Outgoing where
  method : Method
  url : Url
  body : String

/-- An answer as a client gets it. -/
def responseOf (method : Method) (status : Nat) (content : List UInt8) (cut : Bool) : Response :=
  ⟨status, if hasBody method status then if cut then none else some (Utf8.decodeLossy content)
    else some ""⟩

namespace Outgoing

/-- The request as it arrives. -/
def request (outgoing : Outgoing) : Request :=
  ⟨outgoing.method, outgoing.url.requested, outgoing.body⟩

/-- What a client gets back for a request, by the reply to it. -/
def response (outgoing : Outgoing) : Reply → Except NetError Response
  | .silence => .error (.transport (.notAnswered outgoing.url.render))
  | .answer status content cut _ =>
    if isAnswerStatus status then .ok (responseOf outgoing.method status content cut)
    else .error (.transport (.notAnswered outgoing.url.render))

/-- The request that is made in place of one that is sent on. One that does not stay as it is has no
body, and writes nothing. -/
def redirected (outgoing : Outgoing) (redirect : Redirect) : Outgoing :=
  if redirect.keeps then { outgoing with url := redirect.url }
  else ⟨if outgoing.method = .head then .head else .get, redirect.url, ""⟩

end Outgoing

namespace Network

/-- A network whose server gives some replies. -/
def ofReplies (replies : List Reply) : Network :=
  ⟨true, replies, #[]⟩

/-- A network that cannot be reached. -/
def unreachable : Network :=
  ⟨false, [], #[]⟩

/-- The reply to a request that arrives. -/
def receive (arrival : Arrival) (network : Network) : Reply × Network :=
  (network.replies.headD .notFound,
    { network with replies := network.replies.tail, arrivals := network.arrivals.push arrival })

/-- What comes of a reply to a request: an answer, or what comes of the reply that the request gets
where the client is sent on to, so many times at most. -/
def follow (left : Nat) (outgoing : Outgoing) (reply : Reply) (network : Network) :
    Except NetError Response × Network :=
  match reply.redirect? with
  | none => (outgoing.response reply, network)
  | some redirect =>
    match left with
    | 0 => (.error (.transport (.tooManyRedirects outgoing.url.render)), network)
    | left + 1 =>
      let next := outgoing.redirected redirect
      if !isRequestable next.url then
        (.error (.transport (.unsupportedUrl next.url.render)), network)
      else
        let (reply, network) := network.receive ⟨next.request, true⟩
        follow left next reply network

/-- Sends a request and waits for the answer. -/
def send (method : Method) (target : Url) (body : String) (network : Network) :
    Except NetError Response × Network :=
  let outgoing : Outgoing := ⟨method, target.withoutUserinfo, body⟩
  if !isRequestable outgoing.url then
    (.error (.transport (.unsupportedUrl outgoing.url.render)), network)
  else if !network.reachable then
    (.error (.transport (.notAnswered outgoing.url.render)), network)
  else
    let (reply, network) := network.receive ⟨outgoing.request, false⟩
    follow maxRedirects outgoing reply network

/-- The text of an answer's body. -/
def bodyOf (response : Response) : Except NetError String :=
  match response.body with
  | some text => .ok text
  | none => .error (.transport .bodyCut)

/-- The failure of a call that does not expect an answer's status. -/
def unexpected (method : Method) (url : Url) (response : Response) : NetError :=
  .status method url.render response.status (response.body.getD "")

/-- The failure of a call whose answer's body is no JSON of the expected shape. -/
def undecodable (url : Url) : NetError :=
  .invalidResponse url.render "json"

/-- A request uses up a reply at most. -/
theorem length_replies_receive_le (arrival : Arrival) (network : Network) :
    (network.receive arrival).2.replies.length ≤ network.replies.length := by
  simp [receive]

/-- Following does not make more replies come. -/
theorem length_replies_follow_le (left : Nat) (outgoing : Outgoing) (reply : Reply)
    (network : Network) :
    (follow left outgoing reply network).2.replies.length ≤ network.replies.length := by
  induction left generalizing outgoing reply network with
  | zero =>
    rw [follow]
    split <;> exact Nat.le_refl _
  | succ left ih =>
    rw [follow]
    split
    · exact Nat.le_refl _
    · dsimp only
      split
      · exact Nat.le_refl _
      · exact Nat.le_trans (ih _ _ _) (length_replies_receive_le _ network)

/-- No request makes more replies come. -/
theorem length_replies_send_le (method : Method) (target : Url) (body : String)
    (network : Network) :
    (network.send method target body).2.replies.length ≤ network.replies.length := by
  unfold send
  dsimp only
  split
  · exact Nat.le_refl _
  · split
    · exact Nat.le_refl _
    · exact Nat.le_trans (length_replies_follow_le _ _ _ _) (length_replies_receive_le _ network)

/-- An answer other than that nothing is found uses up a reply. -/
theorem length_replies_send_lt {method : Method} {target : Url} {body : String}
    {network next : Network} {response : Response}
    (h : network.send method target body = (.ok response, next)) (hstatus : response.status ≠ 404) :
    next.replies.length < network.replies.length := by
  unfold send at h
  dsimp only at h
  split at h
  · cases h
  · split at h
    · cases h
    · cases hreplies : network.replies with
      | nil =>
        -- the reply of a server that finds nothing sends nobody on
        simp only [receive, hreplies, List.headD_nil] at h
        rw [follow] at h
        cases h
        exact absurd rfl hstatus
      | cons reply replies =>
        have hle := length_replies_follow_le maxRedirects ⟨method, target.withoutUserinfo, body⟩
          reply (network.receive ⟨Outgoing.request ⟨method, target.withoutUserinfo, body⟩, false⟩).2
        simp only [receive, hreplies, List.headD_cons, List.tail_cons] at h hle
        rw [h] at hle
        exact Nat.lt_succ_of_le hle

end Network

end Reconcile

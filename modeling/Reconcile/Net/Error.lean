import Reconcile.Url.Error

/-!
# Failures of remote calls

Why a call of the metadata service or of the blob store brings no answer. Failures of the
transport and statuses that blame the server are *retryable*: another attempt may succeed. All
others are final.
-/

namespace Reconcile

/-- The methods of requests. -/
inductive Method where
  | get
  | head
  | post
  deriving DecidableEq, Repr, Inhabited

/-- The name of a method. -/
def Method.name : Method → String
  | .get => "GET"
  | .head => "HEAD"
  | .post => "POST"

/-- How the transport of a request fails. -/
inductive TransportFailure where
  /-- The request cannot be made at all. -/
  | unbuildable
  /-- No request can be made for this URL. -/
  | unsupportedUrl (url : String)
  /-- The request cannot be sent, or no answer comes back in time. -/
  | notAnswered (url : String)
  /-- The answer is one more of too many that only say where else to ask. -/
  | tooManyRedirects (url : String)
  /-- The answer's body ends before its announced length. -/
  | bodyCut
  deriving DecidableEq, Repr, Inhabited

/-- The wording of a transport failure. -/
def TransportFailure.message : TransportFailure → String
  | .unbuildable => "builder error"
  | .unsupportedUrl url => "builder error for url (" ++ url ++ ")"
  | .notAnswered url => "error sending request for url (" ++ url ++ ")"
  | .tooManyRedirects url => "error following redirect for url (" ++ url ++ ")"
  | .bodyCut => "error decoding response body"

/-- Why a remote call brings no answer. -/
inductive NetError where
  | transport (failure : TransportFailure)
  /-- The server answered with a status that the call does not expect. -/
  | status (method : Method) (url : String) (code : Nat) (body : String)
  /-- The endpoint is no URL. -/
  | url (error : UrlError)
  /-- The endpoint is a URL to which no path can be added. -/
  | invalidEndpoint (endpoint : String)
  /-- The body of the answer does not have the expected shape. -/
  | invalidResponse (url reason : String)
  /-- A retryable failure lasted through every attempt; `last` is that of the last one. -/
  | retriesExhausted (attempts : Nat) (last : NetError)
  deriving DecidableEq, Repr, Inhabited

namespace NetError

/-- The wording of a failed call. -/
def message : NetError → String
  | .transport failure => "http error: " ++ failure.message
  | .status method target code body =>
    method.name ++ " " ++ target ++ " returned status " ++ toString code ++ ": " ++ body
  | .url error => "invalid url: " ++ error.message
  | .invalidEndpoint endpoint => "endpoint " ++ endpoint ++ " cannot be used as a base url"
  | .invalidResponse target reason => "invalid response from " ++ target ++ ": " ++ reason
  | .retriesExhausted attempts last =>
    "giving up after " ++ toString attempts ++ " attempts: " ++ last.message

/-- Whether a status may pass: the server's own failures, a request timeout, too many
requests. -/
def isTransientStatus (code : Nat) : Bool :=
  500 ≤ code || code == 408 || code == 429

/-- Whether another attempt may succeed. -/
def isRetryable : NetError → Bool
  | .transport _ => true
  | .status _ _ code _ => isTransientStatus code
  | _ => false

end NetError

end Reconcile

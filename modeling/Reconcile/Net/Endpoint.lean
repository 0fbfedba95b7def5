import Reconcile.Net.Error
import Reconcile.Url.Parser

/-!
# Endpoints

Where a service is found: a URL, or a host and a port. Whatever holds a scheme's mark is read as a
URL.
-/

namespace Reconcile

/-- Whether a text holds the mark between a scheme and an authority. -/
def hasSchemeMark : List Char → Bool
  | ':' :: '/' :: '/' :: _ => true
  | _ :: rest => hasSchemeMark rest
  | [] => false

/-- The URL of an endpoint, to whose path segments can be added. -/
def parseEndpoint (endpoint : String) : Except NetError Url :=
  match Url.parse (if hasSchemeMark endpoint.toList then endpoint else "http://" ++ endpoint) with
  | .error error => .error (.url error)
  | .ok url => if url.cannotBeABase then .error (.invalidEndpoint endpoint) else .ok url

end Reconcile

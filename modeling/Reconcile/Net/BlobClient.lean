import Reconcile.Json.Value
import Reconcile.Net.Endpoint
import Reconcile.Net.Http
import Reconcile.Net.Retry
import Reconcile.Repair

/-!
# The client of a blob store

A blob store offers its blobs under an alias, which its configuration names: the member `alias` of
the member `ring_driver:0`. The configuration stands next to the endpoint, under the name `.conf`.
-/

namespace Reconcile

/-- A client of a blob store. -/
structure BlobClient where
  base : Url
  /-- The segment under which the blobs stand. -/
  segment : String
  retry : RetryPolicy
  deriving Repr

namespace BlobClient

/-- The URL of the configuration of the blob store at an endpoint. -/
def configurationUrl (base : Url) : Url :=
  base.sibling ".conf".toList

/-- The URL of a blob. -/
def blobUrl (client : BlobClient) (blob : String) : Url :=
  client.base.trimPath.extend [client.segment, blob]

/-- The levels of nesting that a configuration may have. -/
def configurationLevels : Nat :=
  127

/-- The member of a configuration that describes the ring. -/
def ringDriver : String :=
  "ring_driver:0"

/-- What is wrong with a configuration that names no alias. -/
def missingAlias : String :=
  "missing " ++ ringDriver ++ ".alias"

/-- The alias that a configuration names. -/
def aliasOf (url : Url) (text : String) : Except NetError String :=
  match (Json.parse? text).bind (Json.Value.ofJson? configurationLevels) with
  | none => .error (Network.undecodable url)
  | some configuration =>
    match ((configuration.member? ringDriver).bind (·.member? "alias")).bind (·.text?) with
    | some name => .ok name
    | none => .error (.invalidResponse url.render missingAlias)

/-- One attempt to find the alias of a blob store. -/
def attemptAlias (url : Url) (network : Network) : Except NetError String × Network :=
  match network.send .get url "" with
  | (.error error, network) => (.error error, network)
  | (.ok response, network) =>
    (if response.status = 200 then (Network.bodyOf response).bind (aliasOf url)
      else .error (Network.unexpected .get url response),
      network)

/-- One attempt to look for a blob. -/
def attemptProbe (url : Url) (network : Network) : Except NetError BlobStatus × Network :=
  match network.send .head url "" with
  | (.error error, network) => (.error error, network)
  | (.ok response, network) =>
    (if response.status = 200 then .ok .present
      else if response.status = 404 then .ok .missing
      else .error (Network.unexpected .head url response),
      network)

/-- A client for the blob store at an endpoint, which has to tell its alias. -/
def connect (endpoint : String) (retry : RetryPolicy) (network : Network) :
    Except NetError BlobClient × Network :=
  match parseEndpoint endpoint with
  | .error error => (.error error, network)
  | .ok base =>
    let retried := retry.run (attemptAlias (configurationUrl base)) network
    (retried.result.map (⟨base, ·, retry⟩), retried.state)

/-- Looks for a blob. -/
def probe (client : BlobClient) (blob : String) (network : Network) :
    Except NetError BlobStatus × Network :=
  let retried := client.retry.run (attemptProbe (client.blobUrl blob)) network
  (retried.result, retried.state)

end BlobClient

end Reconcile

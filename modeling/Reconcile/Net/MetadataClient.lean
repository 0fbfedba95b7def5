import Reconcile.Json.Value
import Reconcile.Listing
import Reconcile.Net.Endpoint
import Reconcile.Net.Http
import Reconcile.Net.Retry

/-!
# The client of a metadata service

A metadata service offers the objects of a bucket under the path `default/bucket/` and the
bucket's name: the bucket itself lists its objects, and each object is a segment below it.

A value in a listing is the text that is stored under a key, or that text as an inline value of
JSON. An inline value is taken as it is written anew.
-/

namespace Reconcile

/-- A client of a metadata service. -/
structure MetadataClient where
  base : Url
  retry : RetryPolicy
  deriving Repr

namespace MetadataClient

/-- A client for an endpoint. -/
def ofEndpoint (endpoint : String) (retry : RetryPolicy) : Except NetError MetadataClient :=
  (parseEndpoint endpoint).map (⟨·, retry⟩)

/-! ### URLs -/

/-- The URL of a bucket. -/
def bucketUrl (client : MetadataClient) (bucket : String) : Url :=
  client.base.trimPath.extend ["default", "bucket", bucket]

/-- The URL of an object. -/
def objectUrl (client : MetadataClient) (name : ObjectName) : Url :=
  (client.bucketUrl name.bucket).extend [name.key]

/-- The pairs that a listing is asked for with. -/
def listingQuery (request : ListRequest) : List (String × String) :=
  [("listingType", "Basic"), ("maxKeys", toString request.limit)] ++
    (request.after.map (("gt", ·))).toList ++ (request.upTo.map (("lte", ·))).toList

/-- The URL of one page of a listing. -/
def listingUrl (client : MetadataClient) (request : ListRequest) : Url :=
  (client.bucketUrl request.bucket).addQuery (listingQuery request)

/-! ### Reading listings -/

/-- The levels of nesting that are left for a value in a listing. -/
def valueLevels : Nat :=
  125

/-- Reads one entry of a listing: a record of the object key and the value. -/
def itemOfJson? (bucket : String) (json : Json) : Option Item := do
  match ← Json.fields? ["key", "value"] json with
  | [some key, some value] =>
    let value ← Json.Value.ofJson? valueLevels value
    some (.ofObject ⟨bucket, ← key.text?⟩ value.asText)
  | _ => none

/-- Reads a page of a listing. -/
def parsePage? (bucket text : String) : Option (List Item) := do
  (← (← Json.parse? text).items?).mapM (itemOfJson? bucket)

/-! ### Calls -/

/-- One attempt to read the text of an object. -/
def attemptGet (url : Url) (network : Network) : Except NetError (Option String) × Network :=
  match network.send .get url "" with
  | (.error error, network) => (.error error, network)
  | (.ok response, network) =>
    (if response.status = 200 then (Network.bodyOf response).map some
      else if response.status = 404 then .ok none
      else .error (Network.unexpected .get url response),
      network)

/-- One attempt to write the text of an object. -/
def attemptPut (url : Url) (text : String) (network : Network) : Except NetError Unit × Network :=
  match network.send .post url text with
  | (.error error, network) => (.error error, network)
  | (.ok response, network) =>
    (if response.status = 200 then .ok () else .error (Network.unexpected .post url response),
      network)

/-- The items of an answer to the request for a page. -/
def pageOf (url : Url) (bucket : String) (response : Response) : Except NetError (List Item) :=
  if response.status = 200 then do
    match parsePage? bucket (← Network.bodyOf response) with
    | some page => .ok page
    | none => .error (Network.undecodable url)
  else if response.status = 404 then .ok []
  else .error (Network.unexpected .get url response)

/-- One attempt to list a page. -/
def attemptList (url : Url) (bucket : String) (network : Network) :
    Except NetError (List Item) × Network :=
  match network.send .get url "" with
  | (.error error, network) => (.error error, network)
  | (.ok response, network) => (pageOf url bucket response, network)

/-- The text of an object, if it exists. -/
def get (client : MetadataClient) (name : ObjectName) (network : Network) :
    Except NetError (Option String) × Network :=
  let retried := client.retry.run (attemptGet (client.objectUrl name)) network
  (retried.result, retried.state)

/-- Writes the text of an object. -/
def put (client : MetadataClient) (name : ObjectName) (text : String) (network : Network) :
    Except NetError Unit × Network :=
  let retried := client.retry.run (attemptPut (client.objectUrl name) text) network
  (retried.result, retried.state)

/-- One page of a listing. A bucket that does not exist has no items. -/
def list (client : MetadataClient) (request : ListRequest) (network : Network) :
    Except NetError (List Item) × Network :=
  let retried := client.retry.run (attemptList (client.listingUrl request) request.bucket) network
  (retried.result, retried.state)

/-! ### Listings end -/

/-- An attempt to list does not make more replies come. -/
theorem length_replies_attemptList_le (url : Url) (bucket : String) (network : Network) :
    (attemptList url bucket network).2.replies.length ≤ network.replies.length := by
  have h := Network.length_replies_send_le .get url "" network
  unfold attemptList
  split
  next heq => rw [heq] at h; exact h
  next heq => rw [heq] at h; exact h

/-- An attempt that gives a page with items in it uses up a reply. -/
theorem length_replies_attemptList_lt {url : Url} {bucket : String} {network next : Network}
    {page : List Item} (h : attemptList url bucket network = (.ok page, next)) (hpage : page ≠ []) :
    next.replies.length < network.replies.length := by
  unfold attemptList at h
  split at h
  · cases h
  next response after heq =>
    obtain ⟨hpageOf, rfl⟩ := Prod.mk.inj h
    refine Network.length_replies_send_lt heq fun hstatus => hpage ?_
    simp only [pageOf, hstatus, Nat.reduceEqDiff, if_false, if_true, Except.ok.injEq] at hpageOf
    exact hpageOf.symm

/-- The service as the leader of scans: each page with items in it uses up a reply. -/
def leader (client : MetadataClient) : Leader Network where
  list := client.list
  pagesLeft _ network := network.replies.length
  pagesLeft_lt := by
    intro request network next page key hlist hkey
    obtain ⟨hresult, rfl⟩ := Prod.mk.inj hlist
    refine RetryPolicy.attemptFrom_lt (· ≠ []) (length_replies_attemptList_le _ _)
      (fun _ _ _ => length_replies_attemptList_lt) hresult ?_
    rintro rfl
    cases hkey

end MetadataClient

end Reconcile

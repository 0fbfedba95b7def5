import Reconcile.Proofs.ListingTurns
import Reconcile.Proofs.QueryMark
import Reconcile.Proofs.TransientReplies

/-!
# The bounds of a listing in its requests

A listing of a metadata service asks for one page after the other, each from where the one before
has ended. Its bounds are object keys, and any text can be one. `MetadataClient.CarriesBounds` says
what a server reads from the requests that arrive, `Request.parameters`: the bounds exactly as they
were given, and from the second page on, in place of the marker, the text under `key` in the last
entry of the page before, as it stands in the body that was answered (`lastKeyText?`).

The way of such a text is from the JSON of an entry to the key of an item in a bucket, back to an
object key (`lastObjectKey?_eq_lastKeyText?`), and into a query, where nothing is lost
(`Form.decode_append`). The query is found behind the first question mark of the URL
(`parameters_listingUrl`). One call is `following_turn` and a run of calls
`turn_of_turns`; the main result is `MetadataClient.carriesBounds_of_ofEndpoint`.
-/

namespace Reconcile

/-! ### What a server reads -/

/-- The query of a request, behind the first question mark of its URL. -/
def Request.query? (request : Request) : Option (List Char) :=
  (splitAtFirst? '?' request.url.toList).map Prod.snd

/-- The pairs that a server reads from the query of a request. -/
def Request.parameters (request : Request) : List (String × String) :=
  Form.decode (request.query?.getD [])

/-- The text under `key` in an entry of a listing. -/
def keyText? (entry : Json) : Option String :=
  match Json.fields? ["key", "value"] entry with
  | some [some key, _] => key.text?
  | _ => none

/-- The text under `key` in the last entry of a listing's body. -/
def lastKeyText? (body : String) : Option String :=
  ((Json.parse? body).bind Json.items?).bind fun entries => entries.getLast?.bind keyText?

namespace MetadataClient

variable {client : MetadataClient}

/-- An endpoint has no question mark in front of its query. -/
theorem unmarked_of_ofEndpoint {endpoint : String} {retry : RetryPolicy}
    (h : ofEndpoint endpoint retry = .ok client) : client.base.Unmarked := by
  rw [ofEndpoint, parseEndpoint] at h
  split at h
  · cases h
  next url hurl =>
    split at h
    · cases h
    · cases h
      exact Url.unmarked_of_parse hurl

/-- **The pairs that are read from the request for a page** are those of the request. -/
theorem parameters_listingUrl (hbase : client.base.Unmarked)
    (hquery : client.base.query.getD [] = []) (request : ListRequest) (method : Method)
    (body : String) :
    Request.parameters ⟨method, (client.listingUrl request).requested, body⟩ =
      listingQuery request := by
  have hurl : (client.listingUrl request).Unmarked := (hbase.trimPath.extend _).addQuery _
  obtain ⟨front, hfront, hrequested⟩ := hurl.exists_requested_eq
  have hkept : (client.bucketUrl request.bucket).query = client.base.query := by
    rw [bucketUrl, Url.extend, Url.trimPath]
    split <;> split <;> rfl
  have hsplit : splitAtFirst? '?' (client.listingUrl request).requested.toList =
      some (front, Form.append [] (listingQuery request)) := by
    rw [hrequested, String.toList_ofList, listingUrl, Url.addQuery, hkept, hquery]
    exact splitAtFirst?_eq_some_iff.2 ⟨rfl, hfront⟩
  rw [Request.parameters, Request.query?, hsplit]
  exact Form.decode_append _

end MetadataClient

/-! ### From an entry to a bound -/

/-- What the last element of a list is read as comes last. -/
theorem getLast?_of_mapM {α β : Type} {read? : α → Option β} {list : List α} {values : List β}
    (h : list.mapM read? = some values) :
    (list.getLast? = none ∧ values.getLast? = none) ∨
      ∃ last value, list.getLast? = some last ∧ values.getLast? = some value ∧
        read? last = some value := by
  rcases List.eq_nil_or_concat' list with rfl | ⟨init, last, rfl⟩
  · cases h
    exact .inl ⟨rfl, rfl⟩
  · rw [List.mapM_append] at h
    obtain ⟨front, -, h⟩ := Option.bind_eq_some_iff.1 h
    obtain ⟨back, hback, h⟩ := Option.bind_eq_some_iff.1 h
    rw [List.mapM_cons] at hback
    obtain ⟨value, hvalue, hback⟩ := Option.bind_eq_some_iff.1 hback
    cases hback
    cases h
    exact .inr ⟨last, value, List.getLast?_concat, List.getLast?_concat, hvalue⟩

/-- An item made of an object has its key. -/
theorem objectKey?_ofObject {name : ObjectName} (hname : name.Proper) (value : String) :
    (Item.ofObject name value).objectKey? = some name.key := by
  have hproper : (Item.ofObject name value).name? = some name :=
    Item.name?_eq_some_iff.2 ⟨rfl, hname⟩
  rw [Item.objectKey?_eq, hproper]
  rfl

/-- The item of an entry has the text under `key` as its object key. -/
theorem objectKey?_eq_keyText? {bucket : String} {entry : Json} {item : Item}
    (hbucket : '/' ∉ bucket.toList) (h : MetadataClient.itemOfJson? bucket entry = some item) :
    item.objectKey? = keyText? entry := by
  obtain ⟨fields, hfields, h⟩ := Option.bind_eq_some_iff.1 h
  split at h
  next key value =>
    obtain ⟨text, -, h⟩ := Option.bind_eq_some_iff.1 h
    obtain ⟨name, hname, h⟩ := Option.bind_eq_some_iff.1 h
    cases h
    have hproper : (ObjectName.mk bucket name).Proper := hbucket
    rw [objectKey?_ofObject hproper, keyText?, hfields]
    exact hname.symm
  · cases h

/-- **The object key that a page ends with** is the text under `key` in the last entry. -/
theorem lastObjectKey?_eq_lastKeyText? {bucket text : String} {page : List Item}
    (hbucket : '/' ∉ bucket.toList) (h : MetadataClient.parsePage? bucket text = some page) :
    lastObjectKey? page = lastKeyText? text := by
  obtain ⟨json, hjson, h⟩ := Option.bind_eq_some_iff.1 h
  obtain ⟨entries, hentries, h⟩ := Option.bind_eq_some_iff.1 h
  rw [lastObjectKey?, lastKeyText?, hjson, Option.bind_some, hentries, Option.bind_some]
  rcases getLast?_of_mapM h with ⟨hentry, hitem⟩ | ⟨entry, item, hentry, hitem, hread⟩
  · rw [hentry, hitem]
    rfl
  · rw [hentry, hitem]
    exact objectKey?_eq_keyText? hbucket hread

/-! ### One call -/

namespace Listing.Turn

/-- All that arrived in a call, with what its client was sent on to. -/
def arrived (turn : Turn Network) : List Arrival :=
  turn.after.arrivals.toList.drop turn.state.arrivals.size

/-- The requests that a call sent of its own accord. -/
def sent (turn : Turn Network) : List Request :=
  turn.after.requests.toList.drop turn.state.requests.size

/-- The reply to the last request that arrived in a call. -/
def lastReply (turn : Turn Network) : Reply :=
  turn.state.lastReply turn.arrived

/-- The text of the body that a call was answered with. -/
def body (turn : Turn Network) : String :=
  match turn.lastReply with
  | .answer _ content _ _ => Utf8.decodeLossy content
  | .silence => ""

/-- What arrived in a call is what the network is ahead by. -/
theorem arrived_of_after {turn : Turn Network} {arrived : List Arrival}
    (h : turn.after = turn.state.advanced arrived) : turn.arrived = arrived := by
  rw [Turn.arrived, h, Network.advanced, Array.toList_append, ← Array.length_toList]
  exact List.drop_left

/-- A call that makes copies of a request has sent these. -/
theorem sent_of_after {turn : Turn Network} {request : Request} {times : Nat}
    {arrived : List Arrival} (h : turn.after = turn.state.advanced arrived)
    (hcopies : turn.state.Copies request times arrived) :
    turn.sent = List.replicate times request := by
  rw [sent, h, hcopies.toList_requests_advanced, ← Array.length_toList]
  exact List.drop_left

/-- The marker that the next call has to go on from: after a page, the text under `key` in the last
entry of the body. -/
def markerAfter (marker : Option String) (turn : Turn Network) : Option String :=
  if turn.page?.isSome then lastKeyText? turn.body else marker

end Listing.Turn

/-- The marker that some calls leave. -/
def markerAfter (marker : Option String) (turns : List (Listing.Turn Network)) : Option String :=
  turns.foldl Listing.Turn.markerAfter marker

namespace MetadataClient

/-- A page with an item in it is what the body of the reply was read as. -/
theorem exists_of_answer_list {url : Url} {bucket : String} {reply : Reply} {page : List Item}
    (h : (RemoteCall.list url bucket).answer reply = .ok page) (hpage : page ≠ []) :
    ∃ content location, reply = .answer 200 content false location ∧
      parsePage? bucket (Utf8.decodeLossy content) = some page := by
  rcases reply with ⟨status, content, cut, location⟩ | _
  · rw [RemoteCall.answer] at h
    split at h
    · cases h
    split at h
    next hstatus =>
      cases cut with
      | true => cases h
      | false =>
          refine ⟨content, location, by rw [hstatus], ?_⟩
          change (RemoteCall.list url bucket).found (Utf8.decodeLossy content) = .ok page at h
          dsimp only [RemoteCall.list] at h
          split at h
          next heq =>
            cases h
            exact heq
          · cases h
    · split at h
      next value hvalue =>
        split at hvalue
        · cases hvalue
          cases h
          exact absurd rfl hpage
        · cases hvalue
      · cases h
  · cases h

/-- The request of a call for a page as it arrives. -/
def listingRequest (client : MetadataClient) (request : ListRequest) : Request :=
  ⟨.get, (client.listingUrl request).requested, ""⟩

/-- What a call for a page sends, and what it has read if it comes to a page. -/
theorem list_cases (client : MetadataClient) (request : ListRequest) (network : Network) :
    (¬network.Takes (client.listingUrl request) ∧
        ∃ error, client.list request network = (.error error, network)) ∨
      network.Takes (client.listingUrl request) ∧ ∃ times arrived, 0 < times ∧
        network.Copies (client.listingRequest request) times arrived ∧
        (client.list request network).2 = network.advanced arrived ∧
        ∀ page, (client.list request network).1 = .ok page →
          (RemoteCall.list (client.listingUrl request) request.bucket).answer
            (network.lastReply arrived) = .ok page := by
  let call := RemoteCall.list (client.listingUrl request) request.bucket
  have hlist : client.list request network =
      ((client.retry.run call.attempt network).result,
        (client.retry.run call.attempt network).state) := by
    rw [list, attemptList_eq]
  by_cases htakes : network.Takes (client.listingUrl request)
  · have hcall : network.Takes call.url := htakes
    obtain ⟨times, arrived, hpos, -, hcopies, hafter, hread⟩ :=
      RemoteCall.exists_run_eq client.retry hcall
    rw [hlist]
    exact .inr ⟨htakes, times, arrived, hpos, hcopies, hafter, hread rfl⟩
  · have hcall : ¬network.Takes call.url := htakes
    obtain ⟨failure, hresult, hstate⟩ := RemoteCall.run_attempt_of_not_takes client.retry hcall
    exact .inl ⟨htakes, _, hlist.trans (Prod.ext hresult hstate)⟩

open Listing

variable (client : MetadataClient) (network : Network)

/-- **A call sends copies of the request of its listing**, at least one unless the listing is done
or requests do not arrive. -/
theorem exists_after_turn_eq (listing : Listing) :
    ∃ times arrived, network.Copies (client.listingRequest listing.request) times arrived ∧
      (listing.turn client.leader network).after = network.advanced arrived ∧
      (times = 0 ↔ listing.done = true ∨ ¬network.Takes (client.listingUrl listing.request)) := by
  have hnone : network.Copies (client.listingRequest listing.request) 0 [] := ⟨rfl, fun _ => rfl⟩
  obtain ⟨request, done⟩ := listing
  cases done with
  | true => exact ⟨0, [], hnone, (network.advanced_nil).symm, iff_of_true rfl (.inl rfl)⟩
  | false =>
      have hafter := after_turn client.leader request network
      rcases client.list_cases request network with
        ⟨htakes, error, hlist⟩ | ⟨htakes, times, arrived, hpos, hcopies, hlist, -⟩
      · refine ⟨0, [], hnone, ?_, iff_of_true rfl (.inr htakes)⟩
        rw [network.advanced_nil]
        exact hafter.trans (congrArg Prod.snd hlist)
      · refine ⟨times, arrived, hcopies, hafter.trans hlist, ?_⟩
        exact iff_of_false hpos.ne' fun h => h.elim nofun (absurd htakes)

/-- What a call sends is its request, as often as the policy makes it do so. -/
theorem exists_sent_turn_eq (listing : Listing) :
    ∃ times, (listing.turn client.leader network).sent =
        List.replicate times (client.listingRequest listing.request) ∧
      (times = 0 ↔ listing.done = true ∨ ¬network.Takes (client.listingUrl listing.request)) := by
  obtain ⟨times, arrived, hcopies, hafter, hzero⟩ := client.exists_after_turn_eq network listing
  exact ⟨times, Turn.sent_of_after hafter hcopies, hzero⟩

/-- **A page moves the marker** to the text under `key` in the last entry of its body, and nothing
else changes the request. -/
theorem following_turn (listing : Listing) (hbucket : '/' ∉ listing.request.bucket.toList) :
    (listing.turn client.leader network).following.request =
        { listing.request with
          after := (listing.turn client.leader network).markerAfter listing.request.after } ∧
      ∀ page, (listing.turn client.leader network).page? = some page →
        ∃ key, lastKeyText? (listing.turn client.leader network).body = some key ∧
          lastObjectKey? page = some key := by
  obtain ⟨request, done⟩ := listing
  cases done with
  | true => exact ⟨rfl, nofun⟩
  | false =>
      rcases client.list_cases request network with
        ⟨-, error, hlist⟩ | ⟨-, times, arrived, -, -, hstate, hread⟩
      · rw [turn_of_error hlist]
        exact ⟨rfl, nofun⟩
      · cases hresult : (client.list request network).1 with
        | error error =>
            rw [turn_of_error (Prod.ext hresult rfl)]
            exact ⟨rfl, nofun⟩
        | ok page =>
            have hlist : client.leader.list request network =
                (.ok page, network.advanced arrived) :=
              Prod.ext hresult hstate
            cases hkey : lastObjectKey? page with
            | none =>
                rw [turn_of_empty hlist hkey]
                exact ⟨rfl, nofun⟩
            | some key =>
                have hpage : page ≠ [] := by
                  rintro rfl
                  cases hkey
                obtain ⟨content, location, hreply, hparse⟩ :=
                  exists_of_answer_list (hread page hresult) hpage
                rw [turn_of_page hlist hkey]
                -- the turn is named before its last reply is, which is that of the client's last
                -- request
                generalize hturn : Turn.mk _ network (.ok (some page)) _ _ = turn
                have hlast : turn.lastReply = .answer 200 content false location := by
                  subst hturn
                  rw [Turn.lastReply, Turn.arrived_of_after rfl]
                  exact hreply
                have htext : lastKeyText? turn.body = some key := by
                  rw [Turn.body, hlast]
                  exact (lastObjectKey?_eq_lastKeyText? hbucket hparse).symm.trans hkey
                have hfound : turn.page? = some page := by
                  rw [← hturn]
                  rfl
                refine ⟨?_, fun other hother => ?_⟩
                · rw [Turn.markerAfter, hfound, htext, ← hturn]
                  rfl
                · obtain rfl := Option.some.inj (hfound.symm.trans hother)
                  exact ⟨key, htext, hkey⟩

/-- What clients have sent after a call is what they had sent before, and what the call sent. -/
theorem requests_turn (listing : Listing) :
    (listing.turn client.leader network).after.requests.toList =
      network.requests.toList ++ (listing.turn client.leader network).sent := by
  obtain ⟨times, arrived, hcopies, hafter, -⟩ := client.exists_after_turn_eq network listing
  rw [Turn.sent_of_after hafter hcopies, hafter, hcopies.toList_requests_advanced]

/-- If nobody is sent on, nothing else arrives. -/
theorem arrivals_turn (h : network.Direct) (listing : Listing) :
    (listing.turn client.leader network).after.Direct ∧
      (listing.turn client.leader network).after.arrivals.toList =
        network.arrivals.toList ++
          (listing.turn client.leader network).sent.map (Arrival.mk · false) := by
  obtain ⟨times, arrived, hcopies, hafter, -⟩ := client.exists_after_turn_eq network listing
  rw [Turn.sent_of_after hafter hcopies, hafter, hcopies.direct h, List.map_replicate]
  exact ⟨h.advanced _, Array.toList_append⟩

/-! ### A run of calls -/

/-- **What a call finds**, by the calls before it: the marker that they leave, and what they sent.
Nothing else has arrived if nobody is sent on. -/
theorem turn_of_turns {n : Nat} {listing : Listing} {before later : List (Turn Network)}
    {turn : Turn Network} (hbucket : '/' ∉ listing.request.bucket.toList)
    (h : turns client.leader n listing network = before ++ turn :: later) :
    turn = turn.listing.turn client.leader turn.state ∧
      turn.listing.request =
        { listing.request with after := Reconcile.markerAfter listing.request.after before } ∧
      turn.state.requests.toList = network.requests.toList ++ before.flatMap Turn.sent ∧
      (network.Direct → turn.state.Direct ∧ turn.state.arrivals.toList =
        network.arrivals.toList ++ (before.flatMap Turn.sent).map (Arrival.mk · false)) := by
  -- An invariant of the turns so far, the listing that they lead to and the network that they
  -- reach.
  let P (before : List (Turn Network)) (found : Listing) (reached : Network) : Prop :=
    found.request =
        { listing.request with after := Reconcile.markerAfter listing.request.after before } ∧
      reached.requests.toList = network.requests.toList ++ before.flatMap Turn.sent ∧
      (network.Direct → reached.Direct ∧ reached.arrivals.toList =
        network.arrivals.toList ++ (before.flatMap Turn.sent).map (Arrival.mk · false))
  have hstep : ∀ before found reached, P before found reached →
      P (before ++ [found.turn client.leader reached])
        (found.turn client.leader reached).following (found.turn client.leader reached).after := by
    rintro before found reached ⟨hrequest, hrequests, harrivals⟩
    have hfollowing := (client.following_turn reached found (by rw [hrequest]; exact hbucket)).1
    refine ⟨?_, ?_, fun hdirect => ?_⟩
    · rw [hfollowing, hrequest, Reconcile.markerAfter, Reconcile.markerAfter, List.foldl_concat]
    · rw [requests_turn, hrequests, List.flatMap_append, List.flatMap_singleton, List.append_assoc]
    · obtain ⟨hreached, hbefore⟩ := harrivals hdirect
      obtain ⟨hafter, hturn⟩ := client.arrivals_turn reached hreached found
      refine ⟨hafter, ?_⟩
      rw [hturn, hbefore, List.flatMap_append, List.flatMap_singleton, List.map_append,
        List.append_assoc]
  have hstart : P [] listing network :=
    ⟨rfl, (List.append_nil _).symm, fun hdirect => ⟨hdirect, (List.append_nil _).symm⟩⟩
  obtain ⟨m, found, reached, ⟨hrequest, hrequests, harrivals⟩, hlater⟩ :=
    exists_of_turns hstep hstart h
  obtain _ | m := m
  · cases hlater
  · obtain ⟨rfl, -⟩ := List.cons.inj hlater
    exact ⟨rfl, hrequest, hrequests, harrivals⟩

/-- **What the requests of a listing carry**, whatever is replied. Where a server sends the client
on to is up to the server. -/
structure CarriesBounds (client : MetadataClient) (range : Range) (pageSize : Nat) : Prop where
  /-- A server reads the page size and the bounds: at first the marker of the range, and from then
  on the text under `key` in the last entry of the page before. -/
  reads : ∀ network n before turn later,
    turns client.leader n (.start range pageSize) network = before ++ turn :: later →
      ∀ request ∈ turn.sent, request.method = .get ∧ request.body = "" ∧
        request.parameters =
          [("listingType", "Basic"), ("maxKeys", toString (max pageSize 1))] ++
            ((Reconcile.markerAfter range.marker before).map (("gt", ·))).toList ++
            (range.last.map (("lte", ·))).toList
  /-- A page has such an entry, and the text is the object key that the page ends with. -/
  moves : ∀ network n before turn later,
    turns client.leader n (.start range pageSize) network = before ++ turn :: later →
      ∀ page, turn.page? = some page →
        ∃ key, lastKeyText? turn.body = some key ∧ lastObjectKey? page = some key
  /-- A call sends its request, unless the listing is done or requests do not arrive. -/
  sends : ∀ network n before turn later,
    turns client.leader n (.start range pageSize) network = before ++ turn :: later →
      (turn.sent = [] ↔ turn.listing.done = true ∨
        ¬turn.state.Takes (client.listingUrl turn.listing.request))
  /-- Nothing else is sent. -/
  arrives : ∀ network n before turn later,
    turns client.leader n (.start range pageSize) network = before ++ turn :: later →
      turn.after.requests.toList =
        network.requests.toList ++ (before.flatMap Turn.sent ++ turn.sent)
  /-- And nothing else arrives, unless a server sends the client on. -/
  direct : ∀ network n before turn later,
    turns client.leader n (.start range pageSize) network = before ++ turn :: later →
      network.Direct → turn.after.arrivals.toList =
        network.arrivals.toList ++
          (before.flatMap Turn.sent ++ turn.sent).map (Arrival.mk · false)

/-- **The requests of a client's listings carry the bounds exactly.**

Each turn is found by those before it (`turn_of_turns`), and the query that it encodes is decoded to
the pairs that it was made of (`parameters_listingUrl`). -/
theorem carriesBounds_of_ofEndpoint {client : MetadataClient} {endpoint : String}
    {retry : RetryPolicy} (h : ofEndpoint endpoint retry = .ok client)
    (hquery : client.base.query.getD [] = []) {range : Range} (hbucket : '/' ∉ range.bucket.toList)
    (pageSize : Nat) : CarriesBounds client range pageSize where
  reads network n before turn later hturns request hsent := by
    obtain ⟨hturn, hrequest, -⟩ := client.turn_of_turns network hbucket hturns
    obtain ⟨times, hcopies, -⟩ := client.exists_sent_turn_eq turn.state turn.listing
    -- all that a turn sends are copies of one request, with the marker that the turns before it
    -- leave
    rw [hturn, hcopies] at hsent
    obtain rfl := List.eq_of_mem_replicate hsent
    refine ⟨rfl, rfl, ?_⟩
    rw [listingRequest, parameters_listingUrl (unmarked_of_ofEndpoint h) hquery, hrequest]
    rfl
  moves network n before turn later hturns page hpage := by
    obtain ⟨hturn, hrequest, -⟩ := client.turn_of_turns network hbucket hturns
    have hsame : '/' ∉ turn.listing.request.bucket.toList := by
      rw [hrequest]
      exact hbucket
    have hmoves := (client.following_turn turn.state turn.listing hsame).2
    rw [← hturn] at hmoves
    exact hmoves page hpage
  sends network n before turn later hturns := by
    obtain ⟨hturn, -, -⟩ := client.turn_of_turns network hbucket hturns
    obtain ⟨times, hcopies, hzero⟩ := client.exists_sent_turn_eq turn.state turn.listing
    rw [← hturn] at hcopies
    rw [← hzero, hcopies, List.replicate_eq_nil_iff]
  arrives network n before turn later hturns := by
    obtain ⟨hturn, -, hrequests, -⟩ := client.turn_of_turns network hbucket hturns
    have hafter := client.requests_turn turn.state turn.listing
    rw [← hturn] at hafter
    rw [hafter, hrequests, List.append_assoc]
  direct network n before turn later hturns hdirect := by
    obtain ⟨hturn, -, -, harrivals⟩ := client.turn_of_turns network hbucket hturns
    obtain ⟨hstate, hbefore⟩ := harrivals hdirect
    have hafter := (client.arrivals_turn turn.state hstate turn.listing).2
    rw [← hturn] at hafter
    rw [hafter, hbefore, List.map_append, List.append_assoc]

/-- The statement holds of a range whose bounds hold characters that a query has to encode. -/
theorem carriesBounds_onLoopback :
    let range : Range := ⟨"b", some "k\x00&=+% é", some "z?#"⟩
    ofEndpoint "[::1]:81" .single = .ok onLoopback ∧ onLoopback.base.query.getD [] = [] ∧
      '/' ∉ range.bucket.toList ∧ CarriesBounds onLoopback range 0 := by
  intro range
  have hbucket : '/' ∉ range.bucket.toList := by decide
  exact ⟨ofEndpoint_loopback, rfl, hbucket,
    carriesBounds_of_ofEndpoint ofEndpoint_loopback rfl hbucket 0⟩

/-- The key of the last entry, as the body has it, is the marker of the next request. -/
example :
    let body := "[\x7b\"key\":\"a\\u0000&=+% é\",\"value\":\"x\"\x7d]"
    let network := Network.ofReplies [.answer 200 (Utf8.bytes body) false]
    (turns onLoopback.leader 2 (.start ⟨"b", none, some "z?#"⟩ 0) network).map
        (fun turn => turn.sent.map Request.parameters) =
      [[[("listingType", "Basic"), ("maxKeys", "1"), ("lte", "z?#")]],
        [[("listingType", "Basic"), ("maxKeys", "1"), ("gt", "a\x00&=+% é"), ("lte", "z?#")]]] := by
  decide +kernel

end MetadataClient

end Reconcile

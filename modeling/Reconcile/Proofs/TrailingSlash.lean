import Reconcile.Proofs.TransientReplies
import Reconcile.Proofs.UrlSlash

/-!
# A slash at the end of an endpoint

A slash behind an endpoint is one more segment of its path, which is empty. A client adds its
segments to the path without such a segment, so that all that it sends below the path is the same
with the slash and without it. A blob store is asked for its configuration next to the last segment
of the path, be it empty or not, and so in another place with the slash. Requests for URLs of
schemes other than the two of the web are not sent at all.

The main result is `onlyMovesConfiguration_of_parseEndpoint`.
-/

namespace Reconcile

/-! ### Endpoints -/

/-- A slash behind a text that does not end in one makes no mark of a scheme. -/
theorem hasSchemeMark_concat {text : List Char} (h : text.getLast? ≠ some '/') :
    hasSchemeMark (text ++ ['/']) = hasSchemeMark text := by
  induction text using hasSchemeMark.induct with
  | case1 rest => rfl
  | case2 c rest hne ih =>
      have hnone : ∀ after, c = ':' → rest ++ ['/'] = '/' :: '/' :: after → False := by
        rintro after rfl hrest
        rcases rest with _ | ⟨d, _ | ⟨e, more⟩⟩
        · cases hrest
        · cases hrest
          exact h rfl
        · cases hrest
          exact hne more rfl rfl
      have hrest : rest.getLast? ≠ some '/' := by
        intro hlast
        exact h (Url.getLast?_of_suffix (List.suffix_cons c rest) hlast)
      rw [List.cons_append, hasSchemeMark, hasSchemeMark, ih hrest]
      · exact hne
      · exact hnone
  | case3 => rfl

/-- The text of the URL that an endpoint stands for. -/
def endpointText (endpoint : String) : String :=
  if hasSchemeMark endpoint.toList then endpoint else "http://" ++ endpoint

/-- An endpoint is a text that is read as a URL which others can be built on. -/
theorem parseEndpoint_eq_ok_iff {endpoint : String} {base : Url} :
    parseEndpoint endpoint = .ok base ↔
      Url.parse (endpointText endpoint) = .ok base ∧ base.cannotBeABase = false := by
  rw [parseEndpoint, endpointText]
  cases hparse : Url.parse (if hasSchemeMark endpoint.toList then endpoint
      else "http://" ++ endpoint) with
  | error error => simp
  | ok url =>
      cases hbase : url.cannotBeABase with
      | true =>
          simp only [if_true, reduceCtorEq, Except.ok.injEq, false_iff, hbase]
          rintro ⟨rfl, hfalse⟩
          rw [hbase] at hfalse
          cases hfalse
      | false =>
          simp only [Except.ok.injEq, Bool.false_eq_true, if_false, hbase]
          refine iff_self_and.2 ?_
          rintro rfl
          exact hbase

section Endpoint

variable {endpoint : String}

/-- A slash behind an endpoint is one behind the text of its URL. -/
theorem endpointText_concat (h : Url.endsPlainly endpoint.toList = true) :
    endpointText (endpoint ++ "/") = endpointText endpoint ++ "/" ∧
      Url.endsPlainly (endpointText endpoint).toList = true := by
  have hlast : endpoint.toList.getLast? ≠ some '/' := by
    intro hlast
    obtain ⟨front, hfront⟩ := List.getLast?_eq_some_iff.1 hlast
    rw [Url.endsPlainly, hfront, List.filter_append, List.getLast?_append] at h
    cases h
  have hmark : hasSchemeMark (endpoint ++ "/").toList = hasSchemeMark endpoint.toList := by
    rw [String.toList_append]
    exact hasSchemeMark_concat hlast
  rw [endpointText, endpointText, hmark]
  split
  · exact ⟨rfl, h⟩
  · refine ⟨String.append_assoc.symm, ?_⟩
    obtain ⟨c, hc, hplain⟩ := (Option.any_eq_true _ _).1 h
    rw [Url.endsPlainly, String.toList_append, List.filter_append, List.getLast?_append, hc]
    exact hplain

variable {base : Url} (h : parseEndpoint endpoint = .ok base)
  (hends : Url.endsPlainly endpoint.toList = true)

include h hends

/-- A slash does not change the scheme of an endpoint. -/
theorem scheme_parseEndpoint_concat {slashed : Url}
    (hslashed : parseEndpoint (endpoint ++ "/") = .ok slashed) : slashed.scheme = base.scheme := by
  obtain ⟨htext, hendsText⟩ := endpointText_concat hends
  obtain ⟨_, -, hconcat, -⟩ := Url.exists_scheme?_concat (parseEndpoint_eq_ok_iff.1 h).1 hendsText
  obtain ⟨_, hscheme⟩ := Url.scheme?_of_parse (parseEndpoint_eq_ok_iff.1 hslashed).1
  rw [htext, hconcat] at hscheme
  exact (Prod.mk.inj (Option.some.inj hscheme)).1.symm

/-- **What a slash behind an endpoint does**: its path takes it. -/
theorem exists_parseEndpoint_concat (hweb : base.IsWeb) (hquery : base.query = none)
    (hfragment : base.fragment = none) :
    ∃ path slashed, base.path = .segments path ∧ Url.TakesSlash path slashed ∧
      parseEndpoint (endpoint ++ "/") = .ok { base with path := .segments slashed } := by
  obtain ⟨htext, hendsText⟩ := endpointText_concat hends
  obtain ⟨path, slashed, hpath, htakes, hparse⟩ :=
    Url.exists_parse_concat (parseEndpoint_eq_ok_iff.1 h).1 hweb hquery hfragment hendsText
  exact ⟨path, slashed, hpath, htakes, parseEndpoint_eq_ok_iff.2 ⟨by rw [htext, hparse], rfl⟩⟩

section Segments

variable (hweb : base.IsWeb) (hquery : base.query = none) (hfragment : base.fragment = none)
  {front : List (List Char)}

include hweb hquery hfragment

/-- It adds nothing to a path that ends in an empty segment. -/
theorem parseEndpoint_concat_of_empty (hpath : base.path = .segments (front ++ [[]])) :
    parseEndpoint (endpoint ++ "/") = .ok base := by
  obtain ⟨path, slashed, heq, htakes, hslashed⟩ :=
    exists_parseEndpoint_concat h hends hweb hquery hfragment
  obtain rfl := UrlPath.segments.inj (heq.symm.trans hpath)
  rw [htakes.eq_of_concat, if_pos rfl, ← hpath] at hslashed
  exact hslashed

/-- To any other path it adds an empty segment. -/
theorem parseEndpoint_concat_of_ne {last : List Char} (hlast : last ≠ [])
    (hpath : base.path = .segments (front ++ [last])) :
    parseEndpoint (endpoint ++ "/") =
      .ok { base with path := .segments (front ++ [last] ++ [[]]) } := by
  obtain ⟨path, slashed, heq, htakes, hslashed⟩ :=
    exists_parseEndpoint_concat h hends hweb hquery hfragment
  obtain rfl := UrlPath.segments.inj (heq.symm.trans hpath)
  rw [htakes.eq_of_concat, if_neg hlast] at hslashed
  exact hslashed

end Segments

end Endpoint

/-! ### Calls -/

namespace Url

/-- Trimming the path leaves the scheme. -/
theorem scheme_trimPath (url : Url) : url.trimPath.scheme = url.scheme := by
  unfold trimPath
  split <;> rfl

/-- Extending the path leaves the scheme. -/
theorem scheme_extend (url : Url) (segments : List String) :
    (url.extend segments).scheme = url.scheme := by
  unfold extend
  split <;> rfl

/-- A sibling has the same scheme. -/
theorem scheme_sibling (url : Url) (name : List Char) : (url.sibling name).scheme = url.scheme := by
  unfold sibling
  split <;> rfl

/-- Only requests for URLs of two schemes arrive. -/
theorem isWeb_of_takes {network : Network} {url : Url} (h : network.Takes url) : url.IsWeb := by
  have hrequestable := h.1
  obtain ⟨userinfo, hbare⟩ := url.exists_withoutUserinfo_eq
  rw [isRequestable, Bool.and_eq_true, Bool.or_eq_true, beq_iff_eq, beq_iff_eq, hbare]
    at hrequestable
  exact hrequestable.1

end Url

namespace RemoteCall

variable {α : Type} {call : RemoteCall α} {policy : RetryPolicy}
  {make : Network → Except NetError α × Network}

/-- A call for a URL of another scheme changes nothing. -/
theorem RidesOut.state_of_not_isWeb (h : call.RidesOut policy make) {base : Url}
    (hscheme : call.url.scheme = base.scheme) (hbase : ¬base.IsWeb) (network : Network) :
    (make network).2 = network := by
  have htakes : ¬network.Takes call.url := fun htakes => by
    have hweb := Url.isWeb_of_takes htakes
    rw [Url.IsWeb, hscheme] at hweb
    exact hbase hweb
  obtain ⟨failure, hmake⟩ := h.unsent network htakes
  rw [hmake]

/-- A call whose request arrives sends it at least once. -/
theorem RidesOut.exists_requests_eq (h : call.RidesOut policy make) {network : Network}
    (htakes : network.Takes call.url) :
    ∃ more, (make network).2.requests.toList =
      network.requests.toList ++ List.replicate (more + 1) call.request := by
  obtain ⟨times, arrived, hpos, -, hcopies, hafter⟩ := h.copies network htakes
  obtain ⟨more, rfl⟩ := Nat.exists_eq_succ_of_ne_zero hpos.ne'
  exact ⟨more, by rw [hafter, hcopies.toList_requests_advanced]⟩

/-- All that a call sends are copies of its request. -/
theorem RidesOut.adds (h : call.RidesOut policy make) (network : Network) :
    Network.Adds call.request network (make network).2 := by
  by_cases htakes : network.Takes call.url
  · obtain ⟨times, arrived, -, -, hcopies, hafter⟩ := h.copies network htakes
    exact ⟨times, arrived, hcopies, hafter⟩
  · obtain ⟨failure, hmake⟩ := h.unsent network htakes
    rw [hmake]
    exact .refl _ network

/-- Calls with different requests do not send the same, unless neither is sent. -/
theorem RidesOut.requests_ne {β : Type} (h : call.RidesOut policy make) {other : RemoteCall β}
    {makeOther : Network → Except NetError β × Network} (hother : other.RidesOut policy makeOther)
    (hne : other.request ≠ call.request) {network : Network} (htakes : network.Takes call.url) :
    (makeOther network).2.requests ≠ (make network).2.requests := by
  obtain ⟨more, hrequests⟩ := h.exists_requests_eq htakes
  obtain ⟨times, hadded⟩ := (hother.adds network).exists_toList_requests_eq
  intro heq
  rw [heq, hrequests] at hadded
  have hreplicate := List.append_cancel_left hadded
  have hmem : call.request ∈ List.replicate times other.request := by
    rw [← hreplicate]
    exact List.mem_replicate.2 ⟨Nat.succ_ne_zero more, rfl⟩
  exact hne (List.eq_of_mem_replicate hmem).symm

end RemoteCall

/-- **Whether the clients of two URLs send the same requests** and leave the same replies to
others, whatever they are asked for. -/
structure SendsAlike (base other : Url) : Prop where
  get : ∀ retry name network, (MetadataClient.get ⟨other, retry⟩ name network).2 =
    (MetadataClient.get ⟨base, retry⟩ name network).2
  put : ∀ retry name text network, (MetadataClient.put ⟨other, retry⟩ name text network).2 =
    (MetadataClient.put ⟨base, retry⟩ name text network).2
  list : ∀ retry request network, (MetadataClient.list ⟨other, retry⟩ request network).2 =
    (MetadataClient.list ⟨base, retry⟩ request network).2
  probe : ∀ retry segment blob network,
    (BlobClient.probe ⟨other, segment, retry⟩ blob network).2 =
      (BlobClient.probe ⟨base, segment, retry⟩ blob network).2

/-- All that a client sends is sent below its path without an empty segment at the end. -/
theorem sendsAlike_of_trimPath {base other : Url} (h : other.trimPath = base.trimPath) :
    SendsAlike base other := by
  have hbucket : ∀ retry bucket, MetadataClient.bucketUrl ⟨other, retry⟩ bucket =
      MetadataClient.bucketUrl ⟨base, retry⟩ bucket := by
    intro retry bucket
    rw [MetadataClient.bucketUrl, MetadataClient.bucketUrl, h]
  have hobject : ∀ retry name, MetadataClient.objectUrl ⟨other, retry⟩ name =
      MetadataClient.objectUrl ⟨base, retry⟩ name := by
    intro retry name
    rw [MetadataClient.objectUrl, MetadataClient.objectUrl, hbucket]
  constructor
  · intro retry name network
    rw [MetadataClient.get, MetadataClient.get, hobject]
  · intro retry name text network
    rw [MetadataClient.put, MetadataClient.put, hobject]
  · intro retry request network
    rw [MetadataClient.list, MetadataClient.list, MetadataClient.listingUrl,
      MetadataClient.listingUrl, hbucket]
  · intro retry segment blob network
    rw [BlobClient.probe, BlobClient.probe, BlobClient.blobUrl, BlobClient.blobUrl, h]

/-- Whether the clients of a URL send no requests. -/
structure SendsNothing (base : Url) : Prop where
  get : ∀ retry name network, (MetadataClient.get ⟨base, retry⟩ name network).2 = network
  put : ∀ retry name text network, (MetadataClient.put ⟨base, retry⟩ name text network).2 = network
  list : ∀ retry request network, (MetadataClient.list ⟨base, retry⟩ request network).2 = network
  probe : ∀ retry segment blob network,
    (BlobClient.probe ⟨base, segment, retry⟩ blob network).2 = network

/-- Nothing is sent below a URL of another scheme. -/
theorem sendsNothing_of_not_isWeb {base : Url} (h : ¬base.IsWeb) : SendsNothing base := by
  have hbucket : ∀ retry bucket,
      (MetadataClient.bucketUrl ⟨base, retry⟩ bucket).scheme = base.scheme := fun _ _ =>
    (Url.scheme_extend _ _).trans (Url.scheme_trimPath base)
  have hobject : ∀ retry name,
      (MetadataClient.objectUrl ⟨base, retry⟩ name).scheme = base.scheme := fun _ _ =>
    (Url.scheme_extend _ _).trans (hbucket _ _)
  constructor
  · intro retry name network
    exact (MetadataClient.ridesOut_get ⟨base, retry⟩ name).state_of_not_isWeb
      (hobject retry name) h network
  · intro retry name text network
    exact (MetadataClient.ridesOut_put ⟨base, retry⟩ name text).state_of_not_isWeb
      (hobject retry name) h network
  · intro retry request network
    exact (MetadataClient.ridesOut_list ⟨base, retry⟩ request).state_of_not_isWeb
      (hbucket retry request.bucket) h network
  · intro retry segment blob network
    exact (BlobClient.ridesOut_probe ⟨base, segment, retry⟩ blob).state_of_not_isWeb
      ((Url.scheme_extend _ _).trans (Url.scheme_trimPath base)) h network

/-- Two URLs whose clients send no requests send alike. -/
theorem SendsNothing.sendsAlike {base other : Url} (hbase : SendsNothing base)
    (hother : SendsNothing other) : SendsAlike base other where
  get retry name network := by rw [hbase.get, hother.get]
  put retry name text network := by rw [hbase.put, hother.put]
  list retry request network := by rw [hbase.list, hother.list]
  probe retry segment blob network := by rw [hbase.probe, hother.probe]

/-! ### The configuration of a blob store -/

namespace Url

/-- The path of a URL with a host is written between texts that do not depend on it. -/
theorem exists_toList_requested_eq {base : Url} {host : List Char} (hhost : base.host = some host) :
    ∃ front back : List Char, ∀ path,
      ({ base with path } : Url).requested.toList = front ++ printPath path ++ back := by
  let bare : Url := base.withoutUserinfo.withoutFragment
  obtain ⟨userinfo, hsame⟩ := base.exists_withoutUserinfo_eq
  have hbare : bare.host = some host := by
    dsimp only [bare, withoutFragment]
    rw [hsame, hhost]
  refine ⟨bare.scheme.toList ++ ':' :: bare.printAuthority, bare.query.elim [] ('?' :: ·),
    fun path => ?_⟩
  have hwith : ({ base with path } : Url).withoutUserinfo =
      { base.withoutUserinfo with path, query := base.query } :=
    withoutUserinfo_with base path base.query
  have hquery : base.withoutUserinfo.query = base.query := by rw [hsame]
  have hrequested : ({ base with path } : Url).requested =
      String.ofList ({ bare with path } : Url).print := by
    rw [requested, hwith, ← hquery]
    rfl
  have hauthority : ({ bare with path } : Url).printAuthority = bare.printAuthority := by
    rw [printAuthority, printAuthority, hbare]
  rw [hrequested, String.toList_ofList, print, hauthority]
  simp only [bare, withoutFragment, Option.elim_none, List.append_nil, List.append_assoc,
    List.cons_append]

/-- URLs with a host whose paths are written differently arrive as different ones. -/
theorem requested_ne {base : Url} {host : List Char} (hhost : base.host = some host)
    {path other : UrlPath} (h : printPath path ≠ printPath other) :
    ({ base with path } : Url).requested ≠ ({ base with path := other } : Url).requested := by
  obtain ⟨front, back, hrequested⟩ := exists_toList_requested_eq hhost
  intro heq
  have htext := congrArg String.toList heq
  rw [hrequested, hrequested] at htext
  exact h (List.append_cancel_left (List.append_cancel_right htext))

/-- A name below the last segment of a path is not in its place. -/
theorem printPath_concat_ne (front : List (List Char)) (last name : List Char) :
    printPath (.segments (front ++ [last] ++ [name])) ≠
      printPath (.segments (front ++ [name])) := by
  intro heq
  have hlength := congrArg List.length heq
  simp only [printPath, List.flatMap_append, List.length_append, List.flatMap_singleton,
    List.length_cons] at hlength
  omega

end Url

namespace BlobClient

variable {base : Url}

/-- The configuration stands in place of the last segment of an endpoint. -/
theorem configurationUrl_eq (hweb : base.IsWeb) (hquery : base.query = none)
    (hfragment : base.fragment = none) {front : List (List Char)} {last : List Char}
    (hpath : base.path = .segments (front ++ [last])) :
    configurationUrl base = { base with path := .segments (front ++ [".conf".toList]) } := by
  rw [configurationUrl, Url.sibling.eq_def]
  split
  next heq =>
    rw [hpath] at heq
    cases heq
  next path heq =>
    rw [hpath] at heq
    cases heq
    rw [Url.replaceLast, if_neg fun hdrive => hweb.scheme_ne_file hdrive.1, List.dropLast_concat,
      hquery, hfragment]

/-- Nobody connects to an endpoint of another scheme. -/
theorem state_connect_of_not_isWeb {endpoint : String}
    (h : ∀ base, parseEndpoint endpoint = .ok base → ¬base.IsWeb) (retry : RetryPolicy)
    (network : Network) : (connect endpoint retry network).2 = network := by
  cases hbase : parseEndpoint endpoint with
  | error error => rw [connect, hbase]
  | ok base =>
      exact (ridesOut_connect retry hbase).state_of_not_isWeb (Url.scheme_sibling base _)
        (h base hbase) network

end BlobClient

/-! ### Endpoints with a slash -/

/-- **What a slash behind an endpoint changes** of what is sent to it: nothing, unless the path of
the endpoint has a last segment that is not empty, and then only the request for the configuration
of a blob store. -/
structure OnlyMovesConfiguration (endpoint : String) (base : Url) : Prop where
  /-- With the slash it still is an endpoint, if requests are made for it. -/
  accepted : base.IsWeb → ∃ slashed, parseEndpoint (endpoint ++ "/") = .ok slashed
  /-- Objects are read and written, buckets listed, and blobs looked for as without it. -/
  alike : ∀ slashed, parseEndpoint (endpoint ++ "/") = .ok slashed → SendsAlike base slashed
  /-- The configuration is asked for as without it if the path ends in an empty segment. -/
  stays : (¬base.IsWeb ∨ ∃ front, base.path = .segments (front ++ [[]])) → ∀ retry network,
    (BlobClient.connect (endpoint ++ "/") retry network).2 =
      (BlobClient.connect endpoint retry network).2
  /-- Otherwise it is asked for below the last segment, and without the slash in its place. -/
  moves : ∀ front last, base.IsWeb → base.path = .segments (front ++ [last]) → last ≠ [] →
    ∃ slashed, parseEndpoint (endpoint ++ "/") = .ok slashed ∧
      BlobClient.configurationUrl base =
        { base with path := .segments (front ++ [".conf".toList]) } ∧
      BlobClient.configurationUrl slashed =
        { base with path := .segments (front ++ [last] ++ [".conf".toList]) } ∧
      ∀ retry network, network.Takes (BlobClient.configurationUrl base) →
        (BlobClient.connect (endpoint ++ "/") retry network).2.requests ≠
          (BlobClient.connect endpoint retry network).2.requests

/-- **A slash behind an endpoint moves the configuration of a blob store and nothing else**, if the
endpoint has neither query nor fragment and its text ends, but for tabs and line ends, in a
character that is read as such. Behind a slash of either kind, a blank or another control character
a slash moves what is asked for objects too.

The slash is followed through the reading of the text to the path (`exists_parseEndpoint_concat`).
Both paths are the same once they are trimmed, as for objects, and not as siblings, as for the
configuration. -/
theorem onlyMovesConfiguration_of_parseEndpoint {endpoint : String} {base : Url}
    (h : parseEndpoint endpoint = .ok base) (hquery : base.query = none)
    (hfragment : base.fragment = none) (hends : Url.endsPlainly endpoint.toList = true) :
    OnlyMovesConfiguration endpoint base := by
  -- The slash leaves the scheme alone, so that both URLs are of the web or neither is.
  have hother : ¬base.IsWeb → ∀ slashed, parseEndpoint (endpoint ++ "/") = .ok slashed →
      ¬slashed.IsWeb := by
    intro hweb slashed hslashed
    rwa [Url.IsWeb, scheme_parseEndpoint_concat h hends hslashed]
  constructor
  case accepted =>
    intro hweb
    obtain ⟨_, _, -, -, hslashed⟩ := exists_parseEndpoint_concat h hends hweb hquery hfragment
    exact ⟨_, hslashed⟩
  case alike =>
    intro slashed hslashed
    by_cases hweb : base.IsWeb
    · obtain ⟨path, slashedPath, hpath, htakes, heq⟩ :=
        exists_parseEndpoint_concat h hends hweb hquery hfragment
      rw [hslashed] at heq
      cases heq
      refine sendsAlike_of_trimPath ?_
      -- the clients drop an empty last segment before they extend the path
      rw [Url.trimPath, Url.trimPath, hpath]
      dsimp only
      rw [htakes.popIfEmpty_eq]
    · exact (sendsNothing_of_not_isWeb hweb).sendsAlike
        (sendsNothing_of_not_isWeb (hother hweb slashed hslashed))
  case stays =>
    intro hstays retry network
    by_cases hweb : base.IsWeb
    · obtain ⟨front, hfront⟩ := hstays.resolve_left (not_not_intro hweb)
      have hslashed := parseEndpoint_concat_of_empty h hends hweb hquery hfragment hfront
      rw [BlobClient.connect, BlobClient.connect, h, hslashed]
    · rw [BlobClient.state_connect_of_not_isWeb (hother hweb),
        BlobClient.state_connect_of_not_isWeb fun other heq => ?_]
      rw [h] at heq
      cases heq
      exact hweb
  case moves =>
    intro front last hweb hfront hne
    have hslashed := parseEndpoint_concat_of_ne h hends hweb hquery hfragment hne hfront
    have hbaseUrl := BlobClient.configurationUrl_eq hweb hquery hfragment hfront
    have hslashedUrl := @BlobClient.configurationUrl_eq
      { base with path := .segments (front ++ [last] ++ [[]]) } hweb hquery hfragment _ [] rfl
    refine ⟨_, hslashed, hbaseUrl, hslashedUrl, fun retry network htakes => ?_⟩
    refine (BlobClient.ridesOut_connect retry h).requests_ne
      (BlobClient.ridesOut_connect retry hslashed) (fun heq => ?_) htakes
    -- one request that is the same for both would have the same URL, but the two paths differ
    have hurl : (BlobClient.configurationUrl
        { base with path := .segments (front ++ [last] ++ [[]]) }).requested =
          (BlobClient.configurationUrl base).requested := congrArg Request.url heq
    rw [hbaseUrl, hslashedUrl] at hurl
    obtain ⟨host, hhost⟩ := hweb.exists_host (parseEndpoint_eq_ok_iff.1 h).1
    exact Url.requested_ne hhost (Url.printPath_concat_ne front last _) hurl

/-- The statement holds of an endpoint below a path at the address of the machine itself, where the
slash moves the configuration. -/
theorem onlyMovesConfiguration_below_path :
    let base : Url := { MetadataClient.onLoopback.base with path := .segments [['p']] }
    let network := Network.ofReplies []
    parseEndpoint "[::1]:81/p" = .ok base ∧ Url.endsPlainly "[::1]:81/p".toList = true ∧
      OnlyMovesConfiguration "[::1]:81/p" base ∧ base.IsWeb ∧
      network.Takes (BlobClient.configurationUrl base) := by
  intro base network
  have hbase : parseEndpoint "[::1]:81/p" = .ok base := eq_ok_of_toOption (by decide +kernel)
  have hends : Url.endsPlainly "[::1]:81/p".toList = true := by decide +kernel
  exact ⟨hbase, hends, onlyMovesConfiguration_of_parseEndpoint hbase rfl rfl hends, .inl rfl,
    by decide +kernel, rfl⟩

/-- Behind a backslash and behind a blank a slash moves objects too, behind a tab it does not. -/
example :
    let moves (text : String) : Bool :=
      let url (endpoint : String) : Option Url :=
        (MetadataClient.ofEndpoint endpoint .single).toOption.map (·.objectUrl ⟨"b", "k"⟩)
      url (text ++ "/") != url text
    ["\\", " ", "\t"].map (fun tail => moves ("[::1]:81/p" ++ tail)) = [true, true, false] := by
  decide +kernel

/-- An endpoint that does not end in a slash and the same endpoint with one are asked for different
configurations. -/
theorem exists_requests_connect_ne :
    ∃ (endpoint : String) (base slashed : Url), parseEndpoint endpoint = .ok base ∧
      parseEndpoint (endpoint ++ "/") = .ok slashed ∧ base.query = none ∧ base.fragment = none ∧
      endpoint.toList.getLast? ≠ some '/' ∧
      let network := Network.ofReplies []
      (BlobClient.connect endpoint .single network).2.requests =
          #[⟨.get, "http://[::1]:81/.conf", ""⟩] ∧
        (BlobClient.connect (endpoint ++ "/") .single network).2.requests =
          #[⟨.get, "http://[::1]:81/p/.conf", ""⟩] :=
  ⟨"[::1]:81/p", { MetadataClient.onLoopback.base with path := .segments [['p']] },
    { MetadataClient.onLoopback.base with path := .segments [['p'], []] },
    eq_ok_of_toOption (by decide +kernel), eq_ok_of_toOption (by decide +kernel), rfl, rfl,
    by decide +kernel, by decide +kernel, by decide +kernel⟩

end Reconcile

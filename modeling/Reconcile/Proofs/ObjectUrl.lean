import Reconcile.Net.MetadataClient
import Reconcile.Proofs.Arrivals
import Reconcile.Proofs.Key
import Reconcile.Proofs.Percent

/-!
# The URLs of objects

A text is added to a path as one segment that no other text is added as, unless it is a point or
two, or holds a character that URLs drop: then another text is added in the same way
(`Url.pushSegment_of_isWhole`, `Url.exists_pushSegment_eq`).

All URLs of a client start alike, up to the segments `default` of its paths (`Url.Below`,
`Url.exists_requested_eq`). So two of them differ if what stands below does, and the main result is
`MetadataClient.tellsApart_of_ofEndpoint`:

* the URLs that are requested for two objects differ if bucket and object key of both are whole;
* an object of which one of the two is not whole shares its URL with another one;
* the URL of a page of a listing is never that of an object, since it has the longer query;
* a call makes no other request than for its object or page. Where servers send a client on to is
  not the client's to tell apart.
-/

namespace Reconcile

/-- A text is cut in one way at the first occurrence of a separator. -/
theorem append_cons_inj_of_not_mem {separator : Char} {a b c d : List Char} (ha : separator ∉ a)
    (hc : separator ∉ c) (h : a ++ separator :: b = c ++ separator :: d) : a = c ∧ b = d := by
  have hsplit := splitAtFirst?_eq_some_iff.2 ⟨h, hc⟩
  rw [splitAtFirst?_eq_some_iff.2 ⟨rfl, ha⟩] at hsplit
  exact Prod.mk.inj (Option.some.inj hsplit)

namespace Url

/-! ### Segments -/

/-- Whether a text is added to a path as a segment of its own: it is not a point or two, and none of
its characters is dropped. -/
def IsWhole (segment : String) : Prop :=
  segment ≠ "." ∧ segment ≠ ".." ∧ ∀ c ∈ segment.toList, isDropped c = false

instance (segment : String) : Decidable (IsWhole segment) :=
  haveI : Decidable (∀ c ∈ segment.toList, isDropped c = false) := List.decidableBAll _ _
  inferInstanceAs (Decidable (_ ∧ _ ∧ _))

/-- The characters that are kept in a segment of a URL. -/
abbrev keep (scheme : String) : Char → Bool :=
  Percent.keepInSegment (isSpecial scheme)

/-- No character that ends a segment or a path is kept in a segment. -/
theorem keep_eq_false {scheme : String} {c : Char} (h : c ∈ ['%', '/', '?', '#']) :
    keep scheme c = false := by
  have hall : ∀ special, ['%', '/', '?', '#'].all
      (fun c => !Percent.keepInSegment special c) = true := by
    decide
  exact Bool.not_eq_eq_eq_not.1 (List.all_eq_true.1 (hall _) c h)

/-- A segment that a client pushes has no slash, question mark or hash of its own. -/
theorem not_mem_encode {scheme : String} {c : Char} (h : c ∈ ['/', '?', '#']) (text : List Char) :
    c ∉ Percent.encode (keep scheme) text := by
  have hall : ['/', '?', '#'].all (fun c => c != '%' && !c.isAlphanum) = true := by decide
  obtain ⟨hpercent, hsign⟩ := Bool.and_eq_true_iff.1 (List.all_eq_true.1 hall c h)
  intro hmem
  rcases Percent.mem_encode hmem with ⟨-, hkept⟩ | heq | halnum
  · exact Bool.false_ne_true ((keep_eq_false (List.mem_cons_of_mem _ h)).symm.trans hkept)
  · exact bne_iff_ne.1 hpercent heq
  · exact Bool.false_ne_true ((Bool.not_eq_eq_eq_not.1 hsign).symm.trans halnum)

/-- **A whole text is added as one segment**, unless it names the drive that a path starts with. -/
theorem pushSegment_eq_appendSegment {scheme segment : String} (h : IsWhole segment)
    {path : List (List Char)} (hdrive : isDrive segment.toList = true → path ≠ [[]]) :
    pushSegment scheme path segment =
      appendSegment path (Percent.encode (keep scheme) segment.toList) := by
  obtain ⟨hone, htwo, hkept⟩ := h
  have hfilter : segment.toList.filter (fun c => !isDropped c) = segment.toList :=
    List.filter_eq_self.2 fun c hc => by rw [hkept c hc]; rfl
  have hpoint : segment.toList ≠ ['.'] := fun heq =>
    hone (String.toList_inj.1 (heq.trans (by decide)))
  have hpoints : segment.toList ≠ ['.', '.'] := fun heq =>
    htwo (String.toList_inj.1 (heq.trans (by decide)))
  rw [pushSegment, if_neg (not_or.2 ⟨hone, htwo⟩)]
  dsimp only
  rw [hfilter, if_neg hpoint, if_neg hpoints, if_neg fun hfile => hdrive hfile.2.2 hfile.2.1]

/-- A whole text stands behind a path that is not just one empty segment. -/
theorem pushSegment_of_isWhole {scheme segment : String} (h : IsWhole segment)
    {path : List (List Char)} (hpath : path ≠ [[]]) :
    pushSegment scheme path segment = path ++ [Percent.encode (keep scheme) segment.toList] := by
  rw [pushSegment_eq_appendSegment h fun _ => hpath, appendSegment, if_neg hpath]

/-- **A text that is not whole is added as another one is.** -/
theorem exists_pushSegment_eq {segment : String} (h : ¬IsWhole segment) :
    ∃ other, other ≠ segment ∧ ('/' ∉ segment.toList → '/' ∉ other.toList) ∧
      ∀ scheme path, pushSegment scheme path other = pushSegment scheme path segment := by
  by_cases hone : segment = "."
  · refine ⟨"..", by rw [hone]; decide, fun _ => by decide, fun scheme path => ?_⟩
    rw [pushSegment, if_pos (.inr rfl), pushSegment, if_pos (.inl hone)]
  by_cases htwo : segment = ".."
  · refine ⟨".", by rw [htwo]; decide, fun _ => by decide, fun scheme path => ?_⟩
    rw [pushSegment, if_pos (.inl rfl), pushSegment, if_pos (.inr htwo)]
  -- a character is dropped, so that one more does not show
  obtain ⟨c, hc, hdropped⟩ : ∃ c ∈ segment.toList, isDropped c = true := by
    by_contra hnone
    refine h ⟨hone, htwo, fun c hc => ?_⟩
    exact Bool.eq_false_iff.2 fun hdropped => hnone ⟨c, hc, hdropped⟩
  have hlonger : ∀ text : String, (segment ++ "\t") = text → '\t' ∈ text.toList := by
    rintro _ rfl
    rw [String.toList_append]
    exact List.mem_append_right _ List.mem_cons_self
  refine ⟨segment ++ "\t", fun heq => ?_, fun hslash => ?_, fun scheme path => ?_⟩
  · have hlength := congrArg String.length heq
    rw [String.length_append] at hlength
    exact absurd hlength (Nat.succ_ne_self _)
  · rw [String.toList_append, List.mem_append, not_or]
    exact ⟨hslash, by decide⟩
  · have hfilter : (segment ++ "\t").toList.filter (fun c => !isDropped c) =
        segment.toList.filter fun c => !isDropped c := by
      rw [String.toList_append, List.filter_append]
      exact List.append_nil _
    rw [pushSegment, pushSegment, hfilter, if_neg (not_or.2 ⟨hone, htwo⟩), if_neg ?_]
    rintro (heq | heq)
    · exact absurd (hlonger _ heq) (by decide)
    · exact absurd (hlonger _ heq) (by decide)

/-! ### Paths below a front -/

/-- Whether a path goes on below some segments in front of it, and without a question mark. -/
def Below (front path : List (List Char)) : Prop :=
  ∃ rest, rest ≠ [] ∧ (∀ segment ∈ rest, '?' ∉ segment) ∧ path = front ++ rest

section Below

variable {front path : List (List Char)} {scheme : String}

/-- A path below a front stays below it with one more segment. -/
theorem Below.concat (h : Below front path) {segment : List Char} (hsegment : '?' ∉ segment) :
    Below front (path ++ [segment]) := by
  obtain ⟨rest, -, hrest, rfl⟩ := h
  refine ⟨rest ++ [segment], List.concat_ne_nil _ _, fun other hother => ?_, List.append_assoc ..⟩
  rcases List.mem_append.1 hother with hother | hother
  · exact hrest other hother
  · exact List.mem_singleton.1 hother ▸ hsegment

/-- A path below some segments is not just one empty segment. -/
theorem Below.ne (h : Below front path) (hfront : front ≠ []) : path ≠ [[]] := by
  obtain ⟨rest, hrest, -, rfl⟩ := h
  intro heq
  have hlength := congrArg List.length heq
  rw [List.length_append, List.length_singleton] at hlength
  have hone := List.length_pos_iff.2 hfront
  have hother := List.length_pos_iff.2 hrest
  omega

/-- Two points do not lead out of the front: there is a segment below it that they can leave. -/
theorem Below.goUp (h : Below front path) (hfront : front ≠ []) : Below front (goUp path) := by
  rw [Url.goUp, if_neg (h.ne hfront)]
  obtain ⟨rest, hrest, hmark, rfl⟩ := h
  obtain ⟨init, last, rfl⟩ := (List.eq_nil_or_concat' rest).resolve_left hrest
  have hreverse : (front ++ (init ++ [last])).reverse = last :: (front ++ init).reverse := by
    rw [← List.append_assoc, List.reverse_concat]
  have hpath : Below front (front ++ (init ++ [last])) := ⟨_, hrest, hmark, rfl⟩
  rw [hreverse, dropSegment]
  split
  · rw [← hreverse, List.reverse_reverse]
    exact hpath.concat List.not_mem_nil
  · rw [List.reverse_reverse, List.append_assoc]
    refine ⟨init ++ [[]], List.concat_ne_nil _ _, fun segment hsegment => ?_, rfl⟩
    rcases List.mem_append.1 hsegment with hsegment | hsegment
    · exact hmark segment (List.mem_append_left _ hsegment)
    · exact List.mem_singleton.1 hsegment ▸ List.not_mem_nil

/-- **A text that is added to a path below a front leaves it below the front.** -/
theorem Below.pushSegment (h : Below front path) (scheme : String) (hfront : front ≠ [])
    (segment : String) :
    Below front (pushSegment scheme path segment) := by
  have hpath := h.ne hfront
  rw [Url.pushSegment]
  split
  · exact h
  dsimp only
  split
  · rw [appendSegment, if_neg hpath]
    exact h.concat List.not_mem_nil
  split
  · exact h.goUp hfront
  split
  next hfile => exact absurd hfile.2.1 hpath
  · rw [appendSegment, if_neg hpath]
    exact h.concat (not_mem_encode (by decide) _)

end Below

/-! ### What is requested -/

/-- Taking the user information out of a URL leaves its path and its query alone. -/
theorem withoutUserinfo_with (base : Url) (path : UrlPath) (query : Option (List Char)) :
    ({ base with path, query } : Url).withoutUserinfo =
      { base.withoutUserinfo with path, query } := by
  unfold withoutUserinfo
  dsimp only
  split <;> rfl

/-- Nothing of a URL but its user information is taken out with it. -/
theorem exists_withoutUserinfo_eq (url : Url) :
    ∃ userinfo, url.withoutUserinfo = { url with userinfo } := by
  unfold withoutUserinfo
  dsimp only
  split
  · exact ⟨[], rfl⟩
  · exact ⟨url.userinfo, rfl⟩

/-- What a path has below some segments in front of it does not change the authority. -/
theorem printAuthority_append (base : Url) {front : List (List Char)} (hfront : front ≠ [])
    {rest other : List (List Char)} (hrest : rest ≠ []) (hother : other ≠ [])
    (query query' : Option (List Char)) :
    ({ base with path := .segments (front ++ rest), query } : Url).printAuthority =
      ({ base with path := .segments (front ++ other), query := query' } : Url).printAuthority := by
  obtain ⟨first, front, rfl⟩ := List.exists_cons_of_ne_nil hfront
  obtain ⟨second, tail, hsecond⟩ :=
    List.exists_cons_of_ne_nil (List.append_ne_nil_of_right_ne_nil front hrest)
  obtain ⟨second', tail', hsecond'⟩ :=
    List.exists_cons_of_ne_nil (List.append_ne_nil_of_right_ne_nil front hother)
  simp only [printAuthority, List.cons_append, hsecond, hsecond']
  cases first with
  | nil => rfl
  | cons c first => rfl

/-- **URLs whose paths go on below the same segments start alike.** -/
theorem exists_requested_eq (base : Url) {front : List (List Char)} (hfront : front ≠ []) :
    ∃ start : List Char, ∀ rest query, rest ≠ [] →
      ({ base with path := .segments (front ++ rest), query } : Url).requested =
        String.ofList (start ++ (printPath (.segments rest) ++ query.elim [] ('?' :: ·))) := by
  let bare : Url := base.withoutUserinfo.withoutFragment
  let parent : Url := { bare with path := .segments (front ++ [[]]), query := none }
  refine ⟨bare.scheme.toList ++ ':' :: (parent.printAuthority ++ printPath (.segments front)),
    fun rest query hrest => ?_⟩
  have hbare : ({ base with path := .segments (front ++ rest), query } : Url).withoutUserinfo =
      { base.withoutUserinfo with path := .segments (front ++ rest), query } :=
    withoutUserinfo_with base _ query
  have hauthority := printAuthority_append bare hfront hrest (List.cons_ne_nil [] []) query none
  have hpath : printPath (.segments (front ++ rest)) =
      printPath (.segments front) ++ printPath (.segments rest) := List.flatMap_append
  rw [requested, hbare, render]
  change String.ofList ({ bare with path := .segments (front ++ rest), query } : Url).print = _
  rw [print, hauthority]
  dsimp only
  rw [hpath]
  simp only [bare, withoutFragment, parent, Option.elim_none, List.append_nil, List.append_assoc,
    List.cons_append]

end Url

/-- Pairs that are added to a query make it longer. -/
theorem Form.length_lt_length_append (query : List Char) {pairs : List (String × String)}
    (h : pairs ≠ []) : query.length < (append query pairs).length := by
  induction pairs generalizing query with
  | nil => exact absurd rfl h
  | cons pair pairs ih =>
      rw [append]
      have hpair : query.length <
          ((if query.isEmpty then [] else query ++ ['&']) ++ encodePair pair).length := by
        rw [encodePair, List.length_append, List.length_append, List.length_cons]
        split
        next hempty => rw [List.isEmpty_iff.1 hempty, List.length_nil]; omega
        next => rw [List.length_append]; omega
      cases pairs with
      | nil => exact hpair
      | cons second pairs => exact hpair.trans (ih _ (List.cons_ne_nil _ _))

/-- Whether bucket and object key of an object are added to a path as segments of their own. -/
def ObjectName.IsWhole (name : ObjectName) : Prop :=
  Url.IsWhole name.bucket ∧ Url.IsWhole name.key

namespace MetadataClient

open Url

variable {client : MetadataClient}

/-! ### The paths of a client -/

/-- The segments in front of all paths of a client. -/
def root (client : MetadataClient) : List (List Char) :=
  match client.base.path with
  | .flat _ => []
  | .segments path => pushSegment client.base.scheme (popIfEmpty path) "default"

/-- The path under which the buckets stand. -/
def shelf (client : MetadataClient) : List (List Char) :=
  client.root ++ [Percent.encode (keep client.base.scheme) "bucket".toList]

/-- An endpoint that is accepted has a path to which segments can be added. -/
theorem cannotBeABase_of_ofEndpoint {endpoint : String} {retry : RetryPolicy}
    (h : ofEndpoint endpoint retry = .ok client) : client.base.cannotBeABase = false := by
  rw [ofEndpoint, parseEndpoint] at h
  split at h
  · cases h
  · split at h
    · cases h
    next hbase =>
      cases h
      exact Bool.eq_false_iff.2 hbase

/-- The bucket segment is below the root. -/
theorem below_shelf (client : MetadataClient) : Below client.root client.shelf :=
  ⟨_, List.cons_ne_nil _ _, fun _ hsegment =>
    List.mem_singleton.1 hsegment ▸ not_mem_encode (by decide) _, rfl⟩

section Paths

variable (h : client.base.cannotBeABase = false)

include h

/-- The base of a client has a path of segments. -/
theorem exists_path_eq : ∃ path, client.base.path = .segments path := by
  rw [cannotBeABase] at h
  split at h
  · cases h
  · exact ⟨_, ‹_›⟩

/-- The root of a client ends in a segment that is not empty. -/
theorem exists_root_eq_concat : ∃ front last, last ≠ [] ∧ client.root = front ++ [last] := by
  obtain ⟨path, hpath⟩ := exists_path_eq h
  have hencode : Percent.encode (keep client.base.scheme) "default".toList ≠ [] := fun hnil =>
    absurd ((Percent.encode_inj (keep_eq_false List.mem_cons_self)).1
      (hnil.trans (List.flatMap_nil : Percent.encode (keep client.base.scheme) [] = []).symm))
      (by decide)
  have hroot : client.root = appendSegment (popIfEmpty path)
      (Percent.encode (keep client.base.scheme) "default".toList) := by
    rw [root, hpath]
    exact pushSegment_eq_appendSegment (by decide) fun hdrive => absurd hdrive (by decide)
  rw [hroot, appendSegment]
  split
  · exact ⟨[], _, hencode, rfl⟩
  · exact ⟨_, _, hencode, rfl⟩

/-- The root of a client has a segment. -/
theorem root_ne_nil : client.root ≠ [] := by
  obtain ⟨front, last, -, hroot⟩ := exists_root_eq_concat h
  exact hroot ▸ List.concat_ne_nil _ _

/-- The shelf of a client is its root with the bucket segment pushed onto it. -/
theorem shelf_eq : client.shelf = pushSegment client.base.scheme client.root "bucket" := by
  obtain ⟨front, last, hlast, hroot⟩ := exists_root_eq_concat h
  have hne : client.root ≠ [[]] := by
    rw [hroot]
    intro heq
    have hone := List.append_eq_singleton_iff.1 heq
    rcases hone with ⟨-, hsingle⟩ | ⟨-, hnil⟩
    · exact hlast (List.cons.inj hsingle).1
    · cases hnil
  rw [pushSegment_of_isWhole (by decide) hne, shelf]

/-- **A bucket stands on the shelf.** -/
theorem bucketUrl_eq (bucket : String) :
    client.bucketUrl bucket = { client.base with
      path := .segments (pushSegment client.base.scheme client.shelf bucket) } := by
  obtain ⟨path, hpath⟩ := exists_path_eq h
  rw [shelf_eq h, root, hpath, bucketUrl, trimPath, hpath]
  rfl

/-- **An object stands in its bucket.** -/
theorem objectUrl_eq (name : ObjectName) :
    client.objectUrl name = { client.base with
      path := .segments (pushSegment client.base.scheme
        (pushSegment client.base.scheme client.shelf name.bucket) name.key) } := by
  rw [objectUrl, bucketUrl_eq h]
  rfl

/-- What arrives in requests for URLs whose paths go on below the root, up to a start that is the
same for all of them. -/
theorem exists_requested_eq_of_below :
    ∃ start : List Char, ∀ path query, Below client.root path → ∃ written, '?' ∉ written ∧
      ({ client.base with path := .segments path, query } : Url).requested =
        String.ofList (start ++ (written ++ query.elim [] ('?' :: ·))) := by
  obtain ⟨start, hstart⟩ := exists_requested_eq client.base (root_ne_nil h)
  refine ⟨start, ?_⟩
  rintro path query ⟨rest, hrest, hmark, rfl⟩
  refine ⟨printPath (.segments rest), fun hmem => ?_, hstart rest query hrest⟩
  obtain ⟨segment, hsegment, hc⟩ := List.mem_flatMap.1 hmem
  rcases List.mem_cons.1 hc with hslash | hc
  · exact absurd hslash (by decide)
  · exact hmark segment hsegment hc

end Paths

/-! ### Objects and listings -/

section Distinct

variable (h : client.base.cannotBeABase = false)

include h

/-- The path of an object that is whole. -/
theorem path_of_isWhole {name : ObjectName} (hname : name.IsWhole) :
    pushSegment client.base.scheme (pushSegment client.base.scheme client.shelf name.bucket)
        name.key =
      client.root ++ ([Percent.encode (keep client.base.scheme) "bucket".toList] ++
        [Percent.encode (keep client.base.scheme) name.bucket.toList] ++
        [Percent.encode (keep client.base.scheme) name.key.toList]) := by
  have hshelf := below_shelf client
  have hbucket := hshelf.pushSegment client.base.scheme (root_ne_nil h) name.bucket
  rw [pushSegment_of_isWhole hname.2 (hbucket.ne (root_ne_nil h)),
    pushSegment_of_isWhole hname.1 (hshelf.ne (root_ne_nil h)), shelf, List.append_assoc,
    List.append_assoc, List.append_assoc]

/-- **Objects that are whole have URLs of their own.** -/
theorem objectUrl_inj {name other : ObjectName} (hname : name.IsWhole) (hother : other.IsWhole)
    (heq : (client.objectUrl name).requested = (client.objectUrl other).requested) :
    name = other := by
  obtain ⟨start, hstart⟩ := exists_requested_eq client.base (root_ne_nil h)
  rw [objectUrl_eq h, objectUrl_eq h, path_of_isWhole h hname, path_of_isWhole h hother,
    hstart _ _ (List.concat_ne_nil _ _), hstart _ _ (List.concat_ne_nil _ _),
    String.ofList_inj] at heq
  have hpaths := List.append_cancel_right (List.append_cancel_left heq)
  have hprint : ∀ first second third : List Char,
      printPath (.segments ([first] ++ [second] ++ [third])) =
        ('/' :: first ++ ['/']) ++ (second ++ '/' :: third) := by
    intro first second third
    simp [printPath]
  rw [hprint, hprint] at hpaths
  have hslash : '/' ∈ ['/', '?', '#'] := List.mem_cons_self
  obtain ⟨hbucket, hkey⟩ := append_cons_inj_of_not_mem (not_mem_encode hslash _)
    (not_mem_encode hslash _) (List.append_cancel_left hpaths)
  have hpercent : keep client.base.scheme '%' = false := keep_eq_false List.mem_cons_self
  exact congrArg₂ ObjectName.mk (String.toList_inj.1 ((Percent.encode_inj hpercent).1 hbucket))
    (String.toList_inj.1 ((Percent.encode_inj hpercent).1 hkey))

/-- **The URL of a page of a listing is never that of an object.** -/
theorem listingUrl_ne_objectUrl (request : ListRequest) (name : ObjectName) :
    (client.listingUrl request).requested ≠ (client.objectUrl name).requested := by
  obtain ⟨start, hstart⟩ := exists_requested_eq_of_below h
  have hroot := root_ne_nil h
  have hbelow : ∀ bucket, Below client.root (pushSegment client.base.scheme client.shelf bucket) :=
    fun bucket => (below_shelf client).pushSegment client.base.scheme hroot bucket
  obtain ⟨listed, hlisted, hlisting⟩ := hstart _ (some (Form.append (client.base.query.getD [])
    (listingQuery request))) (hbelow request.bucket)
  obtain ⟨written, hwritten, hobject⟩ := hstart _ client.base.query
    ((hbelow name.bucket).pushSegment client.base.scheme hroot name.key)
  have hpairs : listingQuery request ≠ [] := by
    rw [listingQuery, List.append_assoc]
    exact List.cons_ne_nil _ _
  -- A listing adds parameters to the query of the endpoint, which an object leaves as it is.
  have hlonger := Form.length_lt_length_append (client.base.query.getD []) hpairs
  rw [listingUrl, bucketUrl_eq h, objectUrl_eq h, addQuery]
  dsimp only
  rw [hlisting, hobject, Ne, String.ofList_inj, List.append_cancel_left_eq, Option.elim_some]
  intro heq
  cases hquery : client.base.query with
  | none =>
      rw [hquery, Option.elim_none, List.append_nil] at heq
      exact hwritten (heq ▸ List.mem_append_right _ List.mem_cons_self)
  | some query =>
      rw [hquery, Option.elim_some] at heq
      have hsame := (append_cons_inj_of_not_mem hlisted hwritten heq).2
      rw [hquery] at hlonger
      rw [hsame] at hlonger
      exact absurd hlonger (Nat.lt_irrefl _)

/-- **An object that is not whole shares its URL with another one.** -/
theorem exists_objectUrl_eq {name : ObjectName} (hname : ¬name.IsWhole) :
    ∃ other : ObjectName, other ≠ name ∧ (name.Proper → other.Proper) ∧
      client.objectUrl other = client.objectUrl name := by
  by_cases hbucket : Url.IsWhole name.bucket
  · have hkey : ¬Url.IsWhole name.key := fun hkey => hname ⟨hbucket, hkey⟩
    obtain ⟨key, hne, -, hpush⟩ := exists_pushSegment_eq hkey
    refine ⟨⟨name.bucket, key⟩, fun heq => hne (congrArg ObjectName.key heq), id, ?_⟩
    rw [objectUrl_eq h, objectUrl_eq h, hpush]
  · obtain ⟨bucket, hne, hslash, hpush⟩ := exists_pushSegment_eq hbucket
    refine ⟨⟨bucket, name.key⟩, fun heq => hne (congrArg ObjectName.bucket heq), hslash, ?_⟩
    rw [objectUrl_eq h, objectUrl_eq h, hpush]

end Distinct

end MetadataClient

/-- What can be evaluated of an outcome is that there is a value, and which. -/
theorem eq_ok_of_toOption {ε α : Type} {outcome : Except ε α} {value : α}
    (h : outcome.toOption = some value) : outcome = .ok value := by
  cases outcome with
  | error error => cases h
  | ok other => exact congrArg Except.ok (Option.some.inj h)

/-! ### What a call requests -/

namespace MetadataClient

open Network

variable (client : MetadataClient) (network : Network)

/-- Whatever the outcome, reading an object adds nothing but copies of its request. -/
theorem adds_get (name : ObjectName) :
    Adds ⟨.get, (client.objectUrl name).requested, ""⟩ network (client.get name network).2 := by
  refine client.retry.state_run_of_attempt (fun state hstate => ?_) (Adds.refl _ network)
  have hsend := hstate.send
  unfold attemptGet
  split <;> rename_i heq <;> rwa [heq] at hsend

/-- Whatever the outcome, writing an object adds nothing but copies of its request. -/
theorem adds_put (name : ObjectName) (text : String) :
    Adds ⟨.post, (client.objectUrl name).requested, text⟩ network
      (client.put name text network).2 := by
  refine client.retry.state_run_of_attempt (fun state hstate => ?_) (Adds.refl _ network)
  have hsend := hstate.send
  unfold attemptPut
  split <;> rename_i heq <;> rwa [heq] at hsend

/-- Whatever the outcome, listing a bucket adds nothing but copies of its request. -/
theorem adds_list (request : ListRequest) :
    Adds ⟨.get, (client.listingUrl request).requested, ""⟩ network
      (client.list request network).2 := by
  refine client.retry.state_run_of_attempt (fun state hstate => ?_) (Adds.refl _ network)
  have hsend := hstate.send
  unfold attemptList
  split <;> rename_i heq <;> rwa [heq] at hsend

/-- What the requests of a client tell apart: each call sends copies of one request, and objects and
listings have URLs as the module's introduction says. -/
structure TellsApart (client : MetadataClient) : Prop where
  /-- All that reading an object sends are copies of one request for its URL. -/
  get : ∀ name network,
    Adds ⟨.get, (client.objectUrl name).requested, ""⟩ network (client.get name network).2
  /-- So it is with writing one. -/
  put : ∀ name text network,
    Adds ⟨.post, (client.objectUrl name).requested, text⟩ network (client.put name text network).2
  /-- And with listing a bucket. -/
  list : ∀ request network,
    Adds ⟨.get, (client.listingUrl request).requested, ""⟩ network (client.list request network).2
  /-- Objects whose names are whole have URLs of their own. -/
  objects : ∀ name other : ObjectName, name.IsWhole → other.IsWhole → name ≠ other →
    (client.objectUrl name).requested ≠ (client.objectUrl other).requested
  /-- An object whose name is not whole shares its URL with another one. -/
  shared : ∀ name : ObjectName, ¬name.IsWhole → ∃ other : ObjectName, other ≠ name ∧
    (name.Proper → other.Proper) ∧ client.objectUrl other = client.objectUrl name
  /-- No object has the URL of a page of a listing. -/
  listings : ∀ request name,
    (client.listingUrl request).requested ≠ (client.objectUrl name).requested

/-- **A client for any endpoint tells objects apart whose names are whole**, and no others.

The URL of an object is that of the client's shelf with two segments encoded below it, and neither
holds a slash. So the segments can be read off the URL if each arrives as it was encoded, which is
what `IsWhole` asks for. -/
theorem tellsApart_of_ofEndpoint {endpoint : String} {retry : RetryPolicy} {client : MetadataClient}
    (h : ofEndpoint endpoint retry = .ok client) : TellsApart client := by
  have hbase := cannotBeABase_of_ofEndpoint h
  exact
    { get := fun name network => client.adds_get network name
      put := fun name text network => client.adds_put network name text
      list := fun request network => client.adds_list network request
      objects := fun _ _ hname hother hne heq => hne (objectUrl_inj hbase hname hother heq)
      shared := fun _ => exists_objectUrl_eq hbase
      listings := listingUrl_ne_objectUrl hbase }

/-- A client for an endpoint at the address of the machine itself. -/
def onLoopback : MetadataClient :=
  ⟨⟨"http", [], some ['[', ':', ':', '1', ']'], some 81, .segments [[]], none, none⟩, .single⟩

/-- An endpoint whose host is an address in brackets can be read. -/
theorem parseEndpoint_loopback : parseEndpoint "[::1]:81" = .ok onLoopback.base :=
  eq_ok_of_toOption (by decide +kernel)

/-- A client can be made of an endpoint whose host is an address in brackets. -/
theorem ofEndpoint_loopback : ofEndpoint "[::1]:81" .single = .ok onLoopback := by
  rw [ofEndpoint, parseEndpoint_loopback]
  rfl

/-- The statement holds of a client for an endpoint at the address of the machine itself. -/
theorem tellsApart_onLoopback :
    ofEndpoint "[::1]:81" .single = .ok onLoopback ∧ TellsApart onLoopback :=
  ⟨ofEndpoint_loopback, tellsApart_of_ofEndpoint ofEndpoint_loopback⟩

/-- Two objects can have one URL: a tab in an object key does not show. -/
theorem exists_objectUrl_eq_of_ne :
    ∃ (endpoint : String) (client : MetadataClient) (name other : ObjectName),
      ofEndpoint endpoint .single = .ok client ∧ name.Proper ∧ other.Proper ∧ name ≠ other ∧
        (client.objectUrl name).requested = (client.objectUrl other).requested :=
  ⟨"[::1]:81", onLoopback, ⟨"b", "a\tb"⟩, ⟨"b", "ab"⟩, ofEndpoint_loopback, by decide +kernel,
    by decide +kernel, by decide +kernel, by decide +kernel⟩

end MetadataClient

end Reconcile

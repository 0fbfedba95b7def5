import Reconcile.Proofs.Decision
import Reconcile.Proofs.JsonValue
import Reconcile.Proofs.Merge
import Reconcile.Proofs.TransientReplies
import Reconcile.Proofs.Utf8

/-!
# Objects that a listing holds inline

A listing may hold the JSON object that is stored under a key as a value of its own instead of the
text of the object. It is taken as a value and written anew, so that the item has a text for the
object, but not always the text that reading the object gives (`MetadataClient.inlineText?`): the
members come in the order of their names, one for each name, without blanks, and with strings and
numbers in one spelling. An object that is nested too deep, or that holds a number or a string that
is none, makes the whole listing fail.

The two texts agree exactly for objects that are stored in this form
(`MetadataClient.IsCanonicalText`). Any other object shows as a difference from a follower that
holds its text, and as changed since the scan when it is to be repaired.

The main result is `MetadataClient.respellsInline_of_parse?`.
-/

namespace Reconcile

/-- The bytes of a text are valid, so a lossy reading of them loses nothing. -/
theorem Utf8.decodeLossy_bytes (text : String) : decodeLossy (bytes text) = text := by
  rw [decodeLossy, bytes, decodeLossyList_encode, String.ofList_toList]

/-- A conclusive reply is the answer to a call, unless it sends the client on. -/
theorem RemoteCall.RidesOut.result_eq {α : Type} {call : RemoteCall α} {policy : RetryPolicy}
    {make : Network → Except NetError α × Network} (h : call.RidesOut policy make)
    {network : Network} (htakes : network.Takes call.url)
    (hnext : call.isTransient network.next = false) (hdirect : network.next.redirect? = none) :
    (make network).1 = call.answer network.next := by
  obtain ⟨left, hleft⟩ := policy.exists_attempts_eq
  have hone : call.rounds policy.attempts network.replies = 1 := by
    rw [hleft]
    exact rounds_of_not_isTransient hnext left
  have hdecisive : call.decisive policy.attempts network.replies = network.next :=
    decisive_of_rounds_eq_one hone
  have hresult := h.conclusive network htakes (by rw [hdecisive]; exact hdirect)
    (by rw [hdecisive]; exact hnext)
  rw [hresult.1, hdecisive]

namespace MetadataClient

/-! ### What calls come to -/

section Calls

variable (client : MetadataClient) {network : Network} {text : String} {location : Option Url}
  (hnext : network.next = .answer 200 (Utf8.bytes text) false location)

include hnext

/-- An object is what the body of the answer says. -/
theorem get_of_answer {name : ObjectName} (htakes : network.Takes (client.objectUrl name)) :
    (client.get name network).1 = .ok (some text) := by
  have hresult := (client.ridesOut_get name).result_eq htakes (by rw [hnext]; rfl)
    (by rw [hnext]; exact Reply.redirect?_ok _ _ _)
  rw [hnext] at hresult
  refine hresult.trans ?_
  change Except.ok (some (Utf8.decodeLossy (Utf8.bytes text))) = _
  rw [Utf8.decodeLossy_bytes]

/-- A page is what the body of the answer is read as. -/
theorem list_of_answer {request : ListRequest}
    (htakes : network.Takes (client.listingUrl request)) :
    (client.list request network).1 =
      (RemoteCall.list (client.listingUrl request) request.bucket).found text := by
  have hresult := (client.ridesOut_list request).result_eq htakes (by rw [hnext]; rfl)
    (by rw [hnext]; exact Reply.redirect?_ok _ _ _)
  rw [hnext] at hresult
  refine hresult.trans ?_
  change (RemoteCall.list _ _).found (Utf8.decodeLossy (Utf8.bytes text)) = _
  rw [Utf8.decodeLossy_bytes]

end Calls

/-! ### Inline values -/

/-- The text that a listing gives for an object that it holds inline, by the object's own text. -/
def inlineText? (text : String) : Option String :=
  ((Json.parse? text).bind (Json.Value.ofJson? valueLevels)).map Json.Value.asText

/-- **Whether the body of a listing holds a document inline** under an object key, in an entry
between others. -/
def HoldsInline (body : String) (before : List Json) (key : String) (document : Json)
    (after : List Json) : Prop :=
  ∃ entry name, Json.parse? body = some (.array (before ++ entry :: after)) ∧
    Json.fields? ["key", "value"] entry = some [some name, some document] ∧
    name.text? = some key

/-- An entry of a listing with the text of an object as its value. -/
def inlineEntry (key text : String) : List Char :=
  Json.printObject [("key", Json.printString key), ("value", text.toList)]

section Inline

variable {bucket key text body : String} {members : List (Json.Text × Json)}
  {before after : List Json}

/-- The text of any object can stand in an entry, and is read there as it is by itself. -/
theorem holdsInline_of_inlineEntry (h : Json.parse? text = some (.object members))
    {front back : List (List Char)} (hfront : List.Forall₂ Json.ReadsAs front before)
    (hback : List.Forall₂ Json.ReadsAs back after) :
    HoldsInline (String.ofList (Json.printArray (front ++ inlineEntry key text :: back))) before key
      (.object members) after := by
  have hspells : Json.Spells text.toList (.object members) :=
    Json.spells_of_read? h fun spelling => nofun
  let entry : Json := .object [(Json.Text.ofChars "key".toList, .string (.ofChars key.toList)),
    (Json.Text.ofChars "value".toList, .object members)]
  have hentry : Json.Spells (inlineEntry key text) entry :=
    Json.spells_printObject (.cons ⟨rfl, (Json.spells_printString key).readsAs⟩
      (.cons ⟨rfl, hspells.readsAs⟩ .nil))
  have hbody := Json.spells_printArray
    (List.rel_append hfront (.cons hentry.readsAs hback))
  refine ⟨entry, .string (.ofChars key.toList), ?_, rfl, Json.Text.string?_ofChars key⟩
  rw [Json.parse?, String.toList_ofList]
  exact hbody.read?

/-- An inline object is taken as a value and written anew. -/
theorem itemOfJson?_of_fields {entry name : Json}
    (hfields : Json.fields? ["key", "value"] entry = some [some name, some (.object members)])
    (hname : name.text? = some key) (h : Json.parse? text = some (.object members)) :
    itemOfJson? bucket entry = (inlineText? text).map (Item.ofObject ⟨bucket, key⟩) := by
  rw [itemOfJson?, hfields, inlineText?, h]
  dsimp only [bind, Option.bind]
  cases Json.Value.ofJson? valueLevels (.object members) with
  | none => rfl
  | some value =>
      rw [hname]
      rfl

/-- The page of a listing that holds an object inline. -/
theorem parsePage?_of_holdsInline (hbody : HoldsInline body before key (.object members) after)
    (h : Json.parse? text = some (.object members)) :
    parsePage? bucket body =
      (before.mapM (itemOfJson? bucket)).bind fun earlier =>
        (inlineText? text).bind fun shown =>
          (after.mapM (itemOfJson? bucket)).map fun later =>
            earlier ++ Item.ofObject ⟨bucket, key⟩ shown :: later := by
  obtain ⟨entry, name, hparse, hfields, hname⟩ := hbody
  have hentry : itemOfJson? bucket entry = _ := itemOfJson?_of_fields hfields hname h
  rw [parsePage?, hparse]
  dsimp only [bind, Option.bind, Json.items?]
  rw [List.mapM_append, List.mapM_cons, hentry]
  cases before.mapM (itemOfJson? bucket) with
  | none => rfl
  | some earlier =>
      cases inlineText? text with
      | none => rfl
      | some shown =>
          cases after.mapM (itemOfJson? bucket) <;> rfl

end Inline

/-! ### Canonical texts -/

/-- **Whether a text is what a canonical object is written as**: without blanks, with the names of
every object ascending, and with strings and numbers as they are written. -/
def IsCanonicalText (text : String) : Prop :=
  ∃ members, (Json.Value.object members).IsCanonical valueLevels ∧
    text.toList = (Json.Value.object members).print

/-- A listing gives the text of an object exactly if it is canonical. -/
theorem inlineText?_eq_self_iff {text : String} {members : List (Json.Text × Json)}
    (h : Json.parse? text = some (.object members)) :
    inlineText? text = some text ↔ IsCanonicalText text := by
  rw [IsCanonicalText, ← Json.Value.print_eq_iff h, inlineText?, h, Option.bind_some]
  cases hvalue : Json.Value.ofJson? valueLevels (.object members) with
  | none => simp
  | some value =>
      obtain ⟨members', rfl⟩ : ∃ members', value = .object members' := by
        rw [valueLevels, Json.Value.ofJson?] at hvalue
        obtain ⟨members', -, rfl⟩ := Option.map_eq_some_iff.1 hvalue
        exact ⟨members', rfl⟩
      rw [Option.map_some, Option.map_some, Option.some.injEq, Option.some.injEq,
        ← String.toList_inj]
      exact Iff.of_eq (congrArg (· = text.toList) (String.toList_ofList ..))

/-! ### The whole -/

/-- **What becomes of an object that is listed inline**, and what of one that is read. -/
structure RespellsInline (text : String) (document : Json) : Prop where
  /-- Reading an object gives its text. -/
  read : ∀ (client : MetadataClient) (name : ObjectName) (network : Network),
    network.Takes (client.objectUrl name) →
    ∀ location, network.next = .answer 200 (Utf8.bytes text) false location →
      (client.get name network).1 = .ok (some text)
  /-- An entry of a listing can hold it inline, whatever stands in the entries around. -/
  held : ∀ key before after front back, List.Forall₂ Json.ReadsAs front before →
    List.Forall₂ Json.ReadsAs back after →
      HoldsInline (String.ofList (Json.printArray (front ++ inlineEntry key text :: back))) before
        key document after
  /-- A listing that holds it gives the text that it is written anew as. -/
  listed : ∀ (client : MetadataClient) (request : ListRequest) (network : Network)
    (body key shown : String) (before after : List Json) (earlier later : List Item),
    network.Takes (client.listingUrl request) →
    ∀ location, network.next = .answer 200 (Utf8.bytes body) false location →
    HoldsInline body before key document after → inlineText? text = some shown →
    before.mapM (itemOfJson? request.bucket) = some earlier →
    after.mapM (itemOfJson? request.bucket) = some later →
      (client.list request network).1 =
        .ok (earlier ++ Item.ofObject ⟨request.bucket, key⟩ shown :: later)
  /-- If there is no such text, the listing fails. -/
  refused : ∀ (client : MetadataClient) (request : ListRequest) (network : Network)
    (body key : String) (before after : List Json),
    network.Takes (client.listingUrl request) →
    ∀ location, network.next = .answer 200 (Utf8.bytes body) false location →
    HoldsInline body before key document after → inlineText? text = none →
      (client.list request network).1 = .error (Network.undecodable (client.listingUrl request))
  /-- The two texts agree exactly if the object's text is canonical. -/
  agrees : inlineText? text = some text ↔ IsCanonicalText text
  /-- A follower that holds the text differs from the listing exactly if it is not. -/
  compared : ∀ shown, inlineText? text = some shown →
    ∀ (follower leader : List Item) (key : String),
    AscendingByKey Item.key follower → AscendingByKey Item.key leader →
    ⟨key, text⟩ ∈ follower → ⟨key, shown⟩ ∈ leader →
      ((∃ difference ∈ mergeSorted follower leader, difference.key = key) ↔
        ¬IsCanonicalText text)
  /-- And exactly then a repair takes the object that it reads for a changed one. -/
  decided : ∀ shown, inlineText? text = some shown → ∀ (follower leader : ReplicaState)
    (cutoff : Option Instant), leader.value = some shown →
      ((decideRepair follower leader (some text) cutoff).status = .updatedByClient ↔
        ¬IsCanonicalText text)

/-- **An object that is listed inline is written anew.**

An object is read into its members and printed with the members in order and nothing between them,
so what is listed is the text itself only if it is written in that way
(`inlineText?_eq_self_iff`). -/
theorem respellsInline_of_parse? {text : String} {members : List (Json.Text × Json)}
    (h : Json.parse? text = some (.object members)) : RespellsInline text (.object members) := by
  have hagrees := inlineText?_eq_self_iff h
  -- The listing shows the text itself exactly if the text is canonical; the rest follows from that.
  have hsame : ∀ shown, inlineText? text = some shown → (text ≠ shown ↔ ¬IsCanonicalText text) := by
    intro shown hshown
    rw [← hagrees, hshown, Option.some.injEq, eq_comm]
  constructor
  case read => exact fun client name network htakes _ hnext => client.get_of_answer hnext htakes
  case held => exact fun key before after front back => holdsInline_of_inlineEntry h
  case listed =>
    intro client request network body key shown before after earlier later htakes _ hnext hbody
      hshown hearlier hlater
    rw [client.list_of_answer hnext htakes, RemoteCall.list]
    dsimp only
    rw [parsePage?_of_holdsInline hbody h, hearlier, hshown, hlater]
    rfl
  case refused =>
    intro client request network body key before after htakes _ hnext hbody hnone
    rw [client.list_of_answer hnext htakes, RemoteCall.list]
    dsimp only
    rw [parsePage?_of_holdsInline hbody h, hnone]
    cases before.mapM (itemOfJson? request.bucket) <;> rfl
  case agrees => exact hagrees
  case compared =>
    intro shown hshown follower leader key hfollower hleader htext hlisted
    have hheld : findKey? follower key = some ⟨key, text⟩ :=
      (findKey?_eq_some_iff hfollower).2 ⟨htext, rfl⟩
    have hfound : findKey? leader key = some ⟨key, shown⟩ :=
      (findKey?_eq_some_iff hleader).2 ⟨hlisted, rfl⟩
    rw [exists_mem_mergeSorted_iff hfollower hleader, hheld, hfound, ← hsame shown hshown]
    simp
  case decided =>
    intro shown hshown follower leader cutoff hvalue
    rw [status_decideRepair_eq_updatedByClient_iff, hvalue, ← hsame shown hshown]
    simp

/-- The statement holds of an object whose members are stored out of order. It is listed with its
members in order, and the text that it is listed as is canonical. -/
theorem respellsInline_out_of_order :
    let text := "\x7b\"b\":1,\"a\":2\x7d"
    let shown := "\x7b\"a\":2,\"b\":1\x7d"
    let members : List (Json.Text × Json) :=
      [([.char 'b'], .number ['1']), ([.char 'a'], .number ['2'])]
    Json.parse? text = some (.object members) ∧ RespellsInline text (.object members) ∧
      inlineText? text = some shown ∧ ¬IsCanonicalText text ∧ IsCanonicalText shown := by
  intro text shown members
  have hparse : Json.parse? text = some (.object members) := by
    have hchars : text.toList =
        ['{', '"', 'b', '"', ':', '1', ',', '"', 'a', '"', ':', '2', '}'] := by decide +kernel
    rw [Json.parse?, hchars]
    rfl
  have htext : inlineText? text = some shown := by decide +kernel
  have hrespells := respellsInline_of_parse? hparse
  refine ⟨hparse, hrespells, htext, fun hcanonical => ?_, ?_⟩
  · have hsame := htext.symm.trans (hrespells.agrees.2 hcanonical)
    exact absurd (Option.some.inj hsame) (by decide +kernel)
  · have hchars : shown.toList =
        ['{', '"', 'a', '"', ':', '2', ',', '"', 'b', '"', ':', '1', '}'] := by decide +kernel
    have hsorted : Json.parse? shown = some (.object members.reverse) := by
      rw [Json.parse?, hchars]
      rfl
    exact (respellsInline_of_parse? hsorted).agrees.1 (by decide +kernel)

/-- The text that a listing gives for an object need not be the text that reading it gives. The
object, which nobody has changed, then differs from a follower that holds its text, and counts as
changed since the scan. -/
theorem listed_ne_read :
    let text := "\x7b\"b\":1,\"a\":2\x7d"
    let shown := "\x7b\"a\":2,\"b\":1\x7d"
    let network := Network.ofReplies [
      .answer 200 (Utf8.encode (Json.printArray [inlineEntry "k" text])) false,
      .answer 200 (Utf8.bytes text) false]
    let listed := onLoopback.list ⟨"b", none, none, 10⟩ network
    listed.1.toOption = some [⟨"b/k", shown⟩] ∧
      (onLoopback.get ⟨"b", "k"⟩ listed.2).1.toOption = some (some text) ∧ shown ≠ text ∧
      mergeSorted [⟨"b/k", text⟩] [⟨"b/k", shown⟩] =
        [.differing ⟨"b/k", text⟩ ⟨"b/k", shown⟩] ∧
      (decideRepair ⟨some text, none, true⟩ ⟨some shown, none, true⟩ (some text) none).status =
        .updatedByClient := by
  decide +kernel

end MetadataClient

end Reconcile

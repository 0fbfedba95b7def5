import Mathlib.Data.List.Basic
import Reconcile.Net.Http

/-!
# What arrives for a request

A request that a client makes is the first of those that arrive for it: each of the others is one
that a server has sent the client on to. Every arrival uses up a reply, and only the reply to the
last one can be the answer (`Network.exists_send_eq`). The replies up to that one have sent the
client on, so in a network that sends nobody on, a request is all that arrives for itself
(`Network.send_of_direct`).

`Network.Adds` says what many requests do that are the same, however often the client is sent on.
-/

namespace Reconcile

/-- Leaving out name and password once more changes nothing. -/
theorem Url.withoutUserinfo_withoutUserinfo (url : Url) :
    url.withoutUserinfo.withoutUserinfo = url.withoutUserinfo := by
  by_cases h : isDecodable (url.userinfo.span (· ≠ ':')).1 = true ∧
      (!(url.userinfo.span (· ≠ ':')).1.isEmpty ∨ isDecodable (url.userinfo.span (· ≠ ':')).2)
  · have hurl : url.withoutUserinfo = { url with userinfo := [] } := if_pos h
    rw [hurl]
    exact ite_self _
  · have hurl : url.withoutUserinfo = url := if_neg h
    rw [hurl, hurl]

/-- A client that reads goes on reading where it is sent on to. -/
theorem Outgoing.method_redirected {outgoing : Outgoing} (h : outgoing.method = .get)
    (redirect : Redirect) : (outgoing.redirected redirect).method = .get := by
  rw [redirected, h]
  split <;> rfl

/-- An answer with status 200 sends nobody on, whatever URL it names. -/
theorem Reply.redirect?_ok (content : List UInt8) (cut : Bool) (location : Option Url) :
    (Reply.answer 200 content cut location).redirect? = none := by
  cases location with
  | none => rfl
  | some url => exact ite_self _

namespace Network

variable {network : Network}

/-! ### What arrives -/

/-- The network in which some requests more have arrived, each of which has used up a reply. -/
def advanced (arrived : List Arrival) (network : Network) : Network :=
  { network with
    replies := network.replies.drop arrived.length
    arrivals := network.arrivals ++ arrived.toArray }

/-- The reply that comes next. -/
def next (network : Network) : Reply :=
  network.replies.headD .notFound

/-- The reply to the last of some requests more. -/
def lastReply (arrived : List Arrival) (network : Network) : Reply :=
  (network.replies.drop (arrived.length - 1)).headD .notFound

/-- Whether no reply that is still to come sends a client on. -/
def Direct (network : Network) : Prop :=
  ∀ reply ∈ network.replies, reply.redirect? = none

/-- Nothing changes if nothing arrives. -/
theorem advanced_nil (network : Network) : network.advanced [] = network := by
  rw [advanced, List.length_nil, List.drop_zero, Array.append_empty]

/-- What arrives in two parts arrives one after the other. -/
theorem advanced_advanced (arrived more : List Arrival) (network : Network) :
    (network.advanced arrived).advanced more = network.advanced (arrived ++ more) := by
  simp only [advanced, List.drop_drop, List.length_append, Array.append_assoc, List.append_toArray]

/-- An arrival uses up the next reply. -/
theorem receive_eq (arrival : Arrival) (network : Network) :
    network.receive arrival = (network.next, network.advanced [arrival]) := by
  rw [receive, advanced, List.length_singleton, List.drop_one]
  rfl

/-- The requests that clients make, in a list. -/
theorem toList_requests (network : Network) :
    network.requests.toList = network.arrivals.toList.filterMap Arrival.made? :=
  rfl

/-- The requests that clients make are added as they arrive. -/
theorem toList_requests_advanced (arrived : List Arrival) (network : Network) :
    (network.advanced arrived).requests.toList =
      network.requests.toList ++ arrived.filterMap Arrival.made? := by
  rw [toList_requests, toList_requests, advanced, Array.toList_append, List.filterMap_append]

/-- The last of some requests gets the reply that it gets behind the others. -/
theorem lastReply_append (arrived : List Arrival) {more : List Arrival} (hmore : more ≠ [])
    (network : Network) :
    network.lastReply (arrived ++ more) = (network.advanced arrived).lastReply more := by
  have hpos := List.length_pos_iff.2 hmore
  have hlength : (arrived ++ more).length - 1 = arrived.length + (more.length - 1) := by
    rw [List.length_append]
    omega
  rw [lastReply, lastReply, advanced, List.drop_drop, hlength]

/-- Where the replies are used up, the next one is that nothing is found, however often. -/
theorem headD_drop_next (network : Network) (n : Nat) :
    ((network.next :: network.replies.drop 1).drop n).headD .notFound =
      (network.replies.drop n).headD .notFound := by
  rw [next]
  cases network.replies with
  | nil => cases n <;> simp
  | cons reply replies => rfl

/-- A network that sends nobody on keeps to that. -/
theorem Direct.advanced (h : network.Direct) (arrived : List Arrival) :
    (network.advanced arrived).Direct :=
  fun reply hreply => h reply (List.mem_of_mem_drop hreply)

/-- The next reply of such a network sends nobody on, be there one or none. -/
theorem Direct.redirect?_next (h : network.Direct) : network.next.redirect? = none := by
  rw [next]
  cases hreplies : network.replies with
  | nil => rfl
  | cons reply replies => exact h reply (hreplies ▸ List.mem_cons_self)

/-! ### Following -/

/-- A reply that sends nobody on is the answer, or that there is none. -/
theorem follow_of_direct {reply : Reply} (h : reply.redirect? = none) (left : Nat)
    (outgoing : Outgoing) (network : Network) :
    follow left outgoing reply network = (outgoing.response reply, network) := by
  unfold follow
  rw [h]

/-- What follows a reply: nothing if it is the answer or brings the call to an end, and otherwise
one request more with all that follows the reply to it. -/
theorem follow_cases (left : Nat) (outgoing : Outgoing) (reply : Reply) (network : Network) :
    (reply.redirect? = none ∧
        follow left outgoing reply network = (outgoing.response reply, network)) ∨
      (∃ failure, follow left outgoing reply network = (.error (.transport failure), network)) ∨
      ∃ redirect less, reply.redirect? = some redirect ∧ left = less + 1 ∧
        follow left outgoing reply network =
          follow less (outgoing.redirected redirect) network.next
            (network.advanced [⟨(outgoing.redirected redirect).request, true⟩]) := by
  cases hredirect : reply.redirect? with
  | none => exact .inl ⟨rfl, follow_of_direct hredirect left outgoing network⟩
  | some redirect =>
      refine .inr ?_
      cases left with
      | zero =>
          rw [follow, hredirect]
          exact .inl ⟨_, rfl⟩
      | succ less =>
          have hreceive := receive_eq ⟨(outgoing.redirected redirect).request, true⟩ network
          by_cases hurl : isRequestable (outgoing.redirected redirect).url = true
          · refine .inr ⟨redirect, less, rfl, rfl, ?_⟩
            rw [follow, hredirect]
            dsimp only
            rw [hreceive, hurl]
            rfl
          · refine .inl ⟨.unsupportedUrl (outgoing.redirected redirect).url.render, ?_⟩
            rw [follow, hredirect]
            dsimp only
            rw [Bool.eq_false_iff.2 hurl]
            rfl

/-- **What arrives after a reply** is where servers have sent the client on to. An answer is that of
the last reply, and reading stays reading. -/
theorem exists_follow_eq (left : Nat) (outgoing : Outgoing) (reply : Reply) (network : Network) :
    ∃ sentOn : List Request,
      (follow left outgoing reply network).2 = network.advanced (sentOn.map (⟨·, true⟩)) ∧
        ∀ response, (follow left outgoing reply network).1 = .ok response →
          ∃ last : Outgoing, (outgoing.method = .get → last.method = .get) ∧
            last.response (((reply :: network.replies).drop sentOn.length).headD .notFound) =
              .ok response := by
  induction left using Nat.strongRecOn generalizing outgoing reply network with
  | ind left ih =>
      rcases follow_cases left outgoing reply network with
        ⟨-, hfollow⟩ | ⟨failure, hfollow⟩ | ⟨redirect, less, -, rfl, hfollow⟩
      · rw [hfollow]
        exact ⟨[], (advanced_nil network).symm, fun response h => ⟨outgoing, id, h⟩⟩
      · rw [hfollow]
        exact ⟨[], (advanced_nil network).symm, nofun⟩
      · let next := outgoing.redirected redirect
        obtain ⟨sentOn, hafter, hresponse⟩ := ih less less.lt_succ_self next network.next
          (network.advanced [⟨next.request, true⟩])
        refine ⟨next.request :: sentOn, ?_, fun response h => ?_⟩
        · rw [hfollow, hafter, advanced_advanced]
          rfl
        · obtain ⟨last, hmethod, hlast⟩ := hresponse response (hfollow ▸ h)
          refine ⟨last, fun hget => hmethod (Outgoing.method_redirected hget redirect), ?_⟩
          rw [← hlast]
          exact congrArg last.response (headD_drop_next network sentOn.length).symm

/-! ### Sending -/

/-- Whether requests for a URL arrive. -/
def Takes (network : Network) (url : Url) : Prop :=
  isRequestable url.withoutUserinfo = true ∧ network.reachable = true

/-- A request as a client sends it. -/
def outgoing (method : Method) (target : Url) (body : String) : Outgoing :=
  ⟨method, target.withoutUserinfo, body⟩

variable {target : Url}

/-- A request that arrives gets the next reply, and goes where that sends it. -/
theorem send_of_takes (h : network.Takes target) (method : Method) (body : String) :
    network.send method target body =
      follow maxRedirects (outgoing method target body) network.next
        (network.advanced [⟨⟨method, target.requested, body⟩, false⟩]) := by
  have hrequest : (outgoing method target body).request = ⟨method, target.requested, body⟩ := by
    rw [outgoing, Outgoing.request, Url.requested, Url.withoutUserinfo_withoutUserinfo]
    rfl
  unfold send
  dsimp only
  rw [if_neg (by rw [h.1]; decide), if_neg (by rw [h.2]; decide), receive_eq]
  exact congrArg (fun request => follow _ _ _ (network.advanced [⟨request, false⟩])) hrequest

/-- A request that does not arrive changes nothing. -/
theorem send_of_not_takes (h : ¬network.Takes target) (method : Method) (body : String) :
    ∃ failure, network.send method target body = (.error (.transport failure), network) := by
  unfold send
  dsimp only
  split
  · exact ⟨_, rfl⟩
  next hrequestable =>
    split
    · exact ⟨_, rfl⟩
    next hreachable => exact absurd ⟨by simpa using hrequestable, by simpa using hreachable⟩ h

/-- A reply that sends nobody on is all that a request gets. -/
theorem send_of_direct (h : network.Takes target) (hnext : network.next.redirect? = none)
    (method : Method) (body : String) :
    network.send method target body =
      ((outgoing method target body).response network.next,
        network.advanced [⟨⟨method, target.requested, body⟩, false⟩]) := by
  rw [send_of_takes h, follow_of_direct hnext]

/-! ### Copies of one request -/

/-- **Whether some requests that arrive are copies of one**, made so many times, together with those
that servers send the client on to. -/
structure Copies (request : Request) (times : Nat) (arrived : List Arrival) (network : Network) :
    Prop where
  /-- Those that the client made are the copies. -/
  made : arrived.filterMap Arrival.made? = List.replicate times request
  /-- There are no others if nobody is sent on. -/
  direct : network.Direct → arrived = List.replicate times ⟨request, false⟩

/-- Whether all that arrived between two states of a network are copies of one request, together
with those that servers sent the client on to, and each has used up a reply. -/
def Adds (request : Request) (before after : Network) : Prop :=
  ∃ times arrived, before.Copies request times arrived ∧ after = before.advanced arrived

section Copies

variable {request : Request} {times more : Nat} {arrived later : List Arrival}

/-- Copies that arrive one after the other are copies. -/
theorem Copies.append (h : network.Copies request times arrived)
    (hlater : (network.advanced arrived).Copies request more later) :
    network.Copies request (times + more) (arrived ++ later) where
  made := by rw [List.filterMap_append, h.made, hlater.made, List.replicate_append_replicate]
  direct hdirect := by
    rw [h.direct hdirect, hlater.direct (hdirect.advanced arrived), List.replicate_append_replicate]

/-- Where a copy arrives, something does. -/
theorem Copies.ne_nil (h : network.Copies request times arrived) (hpos : 0 < times) :
    arrived ≠ [] := by
  rintro rfl
  have hlength := congrArg List.length h.made
  rw [List.length_replicate] at hlength
  exact Nat.ne_of_lt hpos hlength

/-- **What arrives for a request** is one copy of it. An answer is that of the last reply, and
reading stays reading. -/
theorem exists_send_eq (h : network.Takes target) (method : Method) (body : String) :
    ∃ arrived, network.Copies ⟨method, target.requested, body⟩ 1 arrived ∧
      (network.send method target body).2 = network.advanced arrived ∧
      ∀ response, (network.send method target body).1 = .ok response →
        ∃ last : Outgoing, (method = .get → last.method = .get) ∧
          last.response (network.lastReply arrived) = .ok response := by
  by_cases hnext : network.next.redirect? = none
  · rw [send_of_direct h hnext]
    exact ⟨_, ⟨rfl, fun _ => rfl⟩, rfl, fun response hok => ⟨_, id, hok⟩⟩
  · obtain ⟨sentOn, hafter, hresponse⟩ := exists_follow_eq maxRedirects
      (outgoing method target body) network.next
      (network.advanced [⟨⟨method, target.requested, body⟩, false⟩])
    have hnone : (sentOn.map (Arrival.mk · true)).filterMap Arrival.made? = [] := by
      rw [List.filterMap_map, List.filterMap_eq_nil_iff]
      exact fun _ _ => rfl
    rw [send_of_takes h]
    refine ⟨⟨⟨method, target.requested, body⟩, false⟩ :: sentOn.map (⟨·, true⟩), ⟨?_, ?_⟩, ?_, ?_⟩
    · exact congrArg (List.cons _) hnone
    · exact fun hdirect => absurd hdirect.redirect?_next hnext
    · rw [hafter, advanced_advanced]
      rfl
    · intro response hok
      obtain ⟨last, hmethod, hlast⟩ := hresponse response hok
      refine ⟨last, hmethod, ?_⟩
      rw [← hlast, lastReply, List.length_cons, List.length_map, Nat.add_sub_cancel]
      exact congrArg last.response (headD_drop_next network sentOn.length).symm

/-- The requests that were made are copies of one. -/
theorem Copies.toList_requests_advanced (h : network.Copies request times arrived) :
    (network.advanced arrived).requests.toList =
      network.requests.toList ++ List.replicate times request := by
  rw [Network.toList_requests_advanced, h.made]

end Copies

/-- Nothing is added if nothing arrives. -/
theorem Adds.refl (request : Request) (network : Network) : Adds request network network :=
  ⟨0, [], ⟨rfl, fun _ => rfl⟩, (advanced_nil network).symm⟩

/-- One request is added by sending it once more. -/
theorem Adds.send {method : Method} {body : String} {before : Network}
    (h : Adds ⟨method, target.requested, body⟩ before network) :
    Adds ⟨method, target.requested, body⟩ before (network.send method target body).2 := by
  by_cases htakes : network.Takes target
  · obtain ⟨times, arrived, hcopies, rfl⟩ := h
    obtain ⟨later, hlater, hafter, -⟩ := exists_send_eq htakes method body
    exact ⟨_, _, hcopies.append hlater, by rw [hafter, advanced_advanced]⟩
  · obtain ⟨failure, hsend⟩ := send_of_not_takes htakes method body
    rwa [hsend]

/-- The requests that were made are copies of one. -/
theorem Adds.exists_toList_requests_eq {request : Request} {before after : Network}
    (h : Adds request before after) :
    ∃ times, after.requests.toList = before.requests.toList ++ List.replicate times request := by
  obtain ⟨times, arrived, hcopies, rfl⟩ := h
  exact ⟨times, hcopies.toList_requests_advanced⟩

end Network

end Reconcile

import Reconcile.Net.BlobClient
import Reconcile.Proofs.ObjectUrl

/-!
# Transient replies

The five calls of the two clients differ in what they ask for and in how they read a reply, but not
in how they come to it. A `RemoteCall` says what a call asks for and what each reply means to it,
and one attempt of each of the five is an attempt of such a call (`attemptGet_eq` and the lemmas
beside it). All else is about remote calls under a policy.

A reply is transient for a call if another attempt may follow it. A call sends its request again for
each transient reply that comes first, as often as its policy allows (`RemoteCall.rounds`), and only
the reply to the last of its requests decides about its result (`RemoteCall.decisive`). No transient
reply sends the client on to another place. If the reply that decides does, the result is up to the
place that it names, and of the requests nothing more is said than that they are copies of one.

## Main results

* `RemoteCall.run_attempt`: the result of a call under a policy and the network it leaves;
* `RemoteCall.exists_run_eq`: what arrives for a call, wherever its client is sent on to;
* `RemoteCall.run_attempt_append`: fewer transient replies than attempts, in front of a conclusive
  one, do not show;
* `callsRideOut_of_parseEndpoint`: all calls of both clients ride out transient replies.
-/

namespace Reconcile

/-- Whether a failure is final, and none that retrying has wrapped. -/
def NetError.IsFinal (error : NetError) : Prop :=
  error.isRetryable = false ∧ ∀ attempts last, error ≠ .retriesExhausted attempts last

/-- At least one attempt is made. -/
theorem RetryPolicy.exists_attempts_eq (policy : RetryPolicy) :
    ∃ left, policy.attempts = left + 1 :=
  ⟨policy.attempts - 1, (Nat.sub_add_cancel (Nat.le_max_right _ _)).symm⟩

/-- The network in which a request has arrived a number of times and has been replied to. -/
def Network.exchanged (request : Request) (times : Nat) (network : Network) : Network :=
  network.advanced (List.replicate times ⟨request, false⟩)

/-- Exchanges of one request add up. -/
theorem Network.exchanged_exchanged (request : Request) (times more : Nat) (network : Network) :
    (network.exchanged request times).exchanged request more =
      network.exchanged request (times + more) := by
  rw [exchanged, exchanged, exchanged, advanced_advanced, List.replicate_append_replicate]

/-! ### Remote calls -/

/-- A call as it is sent and as its replies are read. -/
structure RemoteCall (α : Type) where
  method : Method
  url : Url
  body : String
  /-- Whether the body of an answer with status 200 is read. -/
  reads : Bool
  /-- What an answer with status 200 comes to, by the text of its body; by none if it is not
  read. -/
  found : String → Except NetError α
  /-- What an answer with status 404 comes to, if it is no failure. -/
  missing : Option α
  /-- A body is read only if there is one. -/
  method_ne : reads = true → method ≠ .head
  /-- No text of a body makes another attempt worthwhile. -/
  isFinal : ∀ text error, found text = .error error → error.IsFinal

namespace RemoteCall

variable {α : Type}

/-- The request of a call as it arrives. -/
def request (call : RemoteCall α) : Request :=
  ⟨call.method, call.url.requested, call.body⟩

/-- Whether a reply is transient for a call: there is no answer, the body that has to be read is
cut, or the status is that of a request timeout, of too many requests or of a failing server. A
status that only announces an answer leaves the call without one. -/
def isTransient (call : RemoteCall α) : Reply → Bool
  | .silence => true
  | .answer status _ cut _ =>
    !isAnswerStatus status || (status == 200 && call.reads && cut) || status == 408 ||
      status == 429 || 500 ≤ status

/-- The text that stands in the failure that an answer is. There is none of a cut body. -/
def textOf (call : RemoteCall α) (status : Nat) (content : List UInt8) (cut : Bool) : String :=
  if hasBody call.method status && !cut then Utf8.decodeLossy content else ""

/-- The failure of a call that gets no answer. -/
def unanswered (call : RemoteCall α) : NetError :=
  .transport (.notAnswered call.url.withoutUserinfo.render)

/-- What a reply means to a call that it does not send on. -/
def answer (call : RemoteCall α) : Reply → Except NetError α
  | .silence => .error call.unanswered
  | .answer status content cut _ =>
    if !isAnswerStatus status then .error call.unanswered
    else if status = 200 then
      if !call.reads then call.found ""
      else if cut then .error (.transport .bodyCut)
      else call.found (Utf8.decodeLossy content)
    else
      match if status = 404 then call.missing else none with
      | some value => .ok value
      | none =>
        .error (.status call.method call.url.render status (call.textOf status content cut))

/-- That nothing is found is a conclusive reply. -/
theorem isTransient_notFound (call : RemoteCall α) : call.isTransient .notFound = false := by
  simp [isTransient, Reply.notFound, isAnswerStatus]

/-- Apart from answers with status 200 the status tells which answers are transient. -/
theorem isTransient_of_ne (call : RemoteCall α) {status : Nat} (h : status ≠ 200)
    (content : List UInt8) (cut : Bool) (location : Option Url) :
    call.isTransient (.answer status content cut location) =
      (!isAnswerStatus status || NetError.isTransientStatus status) := by
  rw [isTransient, NetError.isTransientStatus, beq_eq_false_iff_ne.2 h, Bool.false_and,
    Bool.false_and, Bool.or_false]
  ac_rfl

/-- **A transient reply is a failure that is retried.** -/
theorem answer_of_isTransient {call : RemoteCall α} {reply : Reply}
    (h : call.isTransient reply = true) :
    ∃ error, call.answer reply = .error error ∧ error.isRetryable = true := by
  cases reply with
  | silence => exact ⟨_, rfl, rfl⟩
  | answer status content cut location =>
      cases hanswer : isAnswerStatus status with
      | false => exact ⟨call.unanswered, by rw [answer, hanswer]; rfl, rfl⟩
      | true =>
          by_cases hok : status = 200
          · subst hok
            obtain ⟨hreads, rfl⟩ : call.reads = true ∧ cut = true := by
              simpa [isTransient, hanswer] using h
            refine ⟨.transport .bodyCut, ?_, rfl⟩
            rw [answer, hanswer, hreads]
            rfl
          · rw [isTransient_of_ne call hok, hanswer] at h
            have hfound : status ≠ 404 := by rintro rfl; cases h
            refine ⟨.status call.method call.url.render status (call.textOf status content cut), ?_,
              h⟩
            rw [answer, hanswer, if_neg hok, if_neg hfound]
            rfl

/-- **Any other reply is a value or a final failure.** -/
theorem isFinal_of_not_isTransient {call : RemoteCall α} {reply : Reply}
    (h : call.isTransient reply = false) {error : NetError}
    (herror : call.answer reply = .error error) : error.IsFinal := by
  cases reply with
  | silence => cases h
  | answer status content cut location =>
      have hanswer : isAnswerStatus status = true := by
        by_contra hnone
        rw [isTransient, Bool.eq_false_iff.2 hnone] at h
        cases h
      rw [answer, hanswer] at herror
      by_cases hok : status = 200
      · subst hok
        rw [if_neg (by decide), if_pos rfl] at herror
        split at herror
        · exact call.isFinal _ _ herror
        next hreads =>
          -- a body that is cut short is transient if it has to be read, so this one is whole
          have hread : call.reads = true := by simpa using hreads
          have hcut : cut = false := by simpa [isTransient, hanswer, hread] using h
          rw [hcut] at herror
          exact call.isFinal _ _ herror
      · rw [isTransient_of_ne call hok, hanswer] at h
        rw [if_neg (by decide), if_neg hok] at herror
        split at herror
        · cases herror
        · cases herror
          exact ⟨h, fun _ _ => NetError.noConfusion⟩

/-- The statuses that send a client on are those of conclusive answers. -/
theorem isTransientStatus_of_mem_redirectStatuses :
    ∀ entry ∈ redirectStatuses, entry.1 ≠ 200 ∧ isAnswerStatus entry.1 = true ∧
      NetError.isTransientStatus entry.1 = false := by
  decide

/-- **No transient reply sends a client on.** -/
theorem redirect?_of_isTransient {call : RemoteCall α} {reply : Reply}
    (h : call.isTransient reply = true) : reply.redirect? = none := by
  rcases reply with ⟨status, content, cut, _ | location⟩ | _
  · rfl
  · have hnone : redirectStatuses.lookup status = none := by
      refine List.lookup_eq_none_iff.2 fun entry hentry => bne_iff_ne.2 ?_
      rintro rfl
      obtain ⟨hok, hanswer, hstatus⟩ := isTransientStatus_of_mem_redirectStatuses entry hentry
      rw [isTransient_of_ne call hok, hanswer, hstatus] at h
      cases h
    rw [Reply.redirect?, hnone]
    exact ite_self _
  · rfl

/-! ### The reply that decides -/

/-- How many requests a call sends if that many attempts are allowed: one, and one more for each
transient reply that comes first. -/
def rounds (call : RemoteCall α) (allowed : Nat) (replies : List Reply) : Nat :=
  min allowed (1 + (replies.takeWhile call.isTransient).length)

/-- The reply to the last request that a call sends. -/
def decisive (call : RemoteCall α) (allowed : Nat) (replies : List Reply) : Reply :=
  (replies.drop (call.rounds allowed replies - 1)).headD .notFound

section Rounds

variable {call : RemoteCall α} {replies : List Reply} {reply : Reply}

/-- The only attempt allowed sends one request. -/
theorem rounds_one (call : RemoteCall α) (replies : List Reply) : call.rounds 1 replies = 1 :=
  Nat.min_eq_left (Nat.le_add_right 1 _)

/-- A transient reply costs a request and leaves one attempt less. -/
theorem rounds_of_isTransient (h : call.isTransient reply = true) (left : Nat) :
    call.rounds (left + 1 + 1) (reply :: replies) = 1 + call.rounds (left + 1) replies := by
  rw [rounds, rounds, List.takeWhile_cons_of_pos h, List.length_cons]
  omega

/-- A conclusive reply to the first request is the only one. -/
theorem rounds_of_not_isTransient (h : call.isTransient (replies.headD .notFound) = false)
    (left : Nat) : call.rounds (left + 1) replies = 1 := by
  have hnone : replies.takeWhile call.isTransient = [] := by
    cases replies with
    | nil => rfl
    | cons reply replies => exact List.takeWhile_cons_of_neg (Bool.eq_false_iff.1 h)
  rw [rounds, hnone, List.length_nil]
  omega

/-- The reply to the only request decides. -/
theorem decisive_of_rounds_eq_one {allowed : Nat} (h : call.rounds allowed replies = 1) :
    call.decisive allowed replies = replies.headD .notFound := by
  rw [decisive, h]
  rfl

/-- A transient reply that another attempt follows does not decide. -/
theorem decisive_of_isTransient (h : call.isTransient reply = true) (left : Nat) :
    call.decisive (left + 1 + 1) (reply :: replies) = call.decisive (left + 1) replies := by
  have hpos : 0 < call.rounds (left + 1) replies := by rw [rounds]; omega
  obtain ⟨times, htimes⟩ := Nat.exists_eq_succ_of_ne_zero hpos.ne'
  rw [decisive, decisive, rounds_of_isTransient h, htimes, Nat.add_sub_cancel_left]
  rfl

/-- A reply that decides although it is transient is that to the last attempt. -/
theorem rounds_of_isTransient_decisive {left : Nat}
    (h : call.isTransient (call.decisive (left + 1) replies) = true) :
    call.rounds (left + 1) replies = left + 1 := by
  induction left generalizing replies with
  | zero => exact rounds_one call replies
  | succ left ih =>
      cases hhead : call.isTransient (replies.headD .notFound) with
      | false =>
          have hone := rounds_of_not_isTransient hhead (left + 1)
          rw [decisive_of_rounds_eq_one hone, hhead] at h
          cases h
      | true =>
          cases replies with
          | nil => rw [List.headD_nil, isTransient_notFound] at hhead; cases hhead
          | cons reply replies =>
              rw [List.headD_cons] at hhead
              rw [decisive_of_isTransient hhead] at h
              rw [rounds_of_isTransient hhead, ih h, Nat.add_comm]

section Noise

variable {noise : List Reply} (hnoise : ∀ reply ∈ noise, call.isTransient reply = true)
  (h : call.isTransient (replies.headD .notFound) = false)

include hnoise h

/-- **Transient replies in front of a conclusive one cost a request each.** -/
theorem rounds_append (left : Nat) :
    call.rounds (noise.length + left + 1) (noise ++ replies) = noise.length + 1 := by
  induction noise with
  | nil => exact rounds_of_not_isTransient h _
  | cons reply noise ih =>
      have hreply := hnoise reply List.mem_cons_self
      have hrest := ih fun other hother => hnoise other (List.mem_cons_of_mem _ hother)
      rw [List.length_cons, List.cons_append, Nat.add_right_comm noise.length 1 left,
        rounds_of_isTransient hreply, hrest, Nat.add_comm]

/-- **The conclusive reply still decides.** -/
theorem decisive_append (left : Nat) :
    call.decisive (noise.length + left + 1) (noise ++ replies) = replies.headD .notFound := by
  rw [decisive, rounds_append hnoise h, Nat.add_sub_cancel, List.drop_left]

end Noise

end Rounds

/-! ### A call under a policy -/

/-- How a call reads an answer. -/
def interpret (call : RemoteCall α) (response : Response) : Except NetError α :=
  if response.status = 200 then
    if call.reads then (Network.bodyOf response).bind call.found else call.found ""
  else
    match if response.status = 404 then call.missing else none with
    | some value => .ok value
    | none => .error (Network.unexpected call.method call.url response)

/-- One attempt to make a call. -/
def attempt (call : RemoteCall α) (network : Network) : Except NetError α × Network :=
  match network.send call.method call.url call.body with
  | (.error error, network) => (.error error, network)
  | (.ok response, network) => (call.interpret response, network)

/-- What a call under a policy comes to if a reply decides. -/
def outcome (call : RemoteCall α) (policy : RetryPolicy) (reply : Reply) : Except NetError α :=
  match call.answer reply with
  | .ok value => .ok value
  | .error error => .error (if error.isRetryable then policy.exhausted error else error)

/-- **A call reads an answer for what it means to it.** -/
theorem interpret_responseOf (call : RemoteCall α) {status : Nat}
    (hanswer : isAnswerStatus status = true) (content : List UInt8) (cut : Bool)
    (location : Option Url) :
    call.interpret (responseOf call.method status content cut) =
      call.answer (.answer status content cut location) := by
  rw [answer, hanswer, if_neg (by decide)]
  by_cases hok : status = 200
  · subst hok
    cases hreads : call.reads with
    | false =>
        rw [interpret, hreads]
        rfl
    | true =>
        have hbody : hasBody call.method 200 = true := by
          simp [hasBody, call.method_ne hreads]
        rw [interpret, responseOf, hbody, hreads]
        cases cut <;> rfl
  · have htext : (responseOf call.method status content cut).body.getD "" =
        call.textOf status content cut := by
      rw [responseOf, textOf]
      cases hasBody call.method status <;> cases cut <;> rfl
    rw [interpret, if_neg hok, if_neg (show ¬(responseOf ..).status = 200 from hok),
      Network.unexpected, htext]
    rfl

section Attempts

variable {call : RemoteCall α} {policy : RetryPolicy} {network : Network}

/-- **What an attempt reads** is what the reply means to it that the answer is of. -/
theorem response_eq_answer {outgoing : Outgoing} (hmethod : outgoing.method = call.method)
    {reply : Reply} {response : Response} (h : outgoing.response reply = .ok response) :
    call.interpret response = call.answer reply := by
  rcases reply with ⟨status, content, cut, location⟩ | _
  · rw [Outgoing.response] at h
    split at h
    next hanswer =>
      cases h
      rw [hmethod]
      exact call.interpret_responseOf hanswer content cut location
    · cases h
  · cases h

/-- A reply that is no answer means to a call that there is none. -/
theorem answer_of_response_error {body : String} {reply : Reply} {error : NetError}
    (h : (Network.outgoing call.method call.url body).response reply = .error error) :
    call.answer reply = .error error := by
  rcases reply with ⟨status, content, cut, location⟩ | _
  · rw [Outgoing.response] at h
    split at h
    · cases h
    next hnone =>
      cases h
      rw [answer, Bool.eq_false_iff.2 hnone]
      rfl
  · cases h
    rfl

/-- An attempt sends the request and comes to what the reply to it means, unless that sends the
client on. -/
theorem attempt_of_direct (h : network.Takes call.url) (hnext : network.next.redirect? = none) :
    call.attempt network = (call.answer network.next, network.exchanged call.request 1) := by
  rw [attempt, Network.send_of_direct h hnext]
  cases hresponse : (Network.outgoing call.method call.url call.body).response network.next with
  | ok response => exact congrArg (·, _) (response_eq_answer rfl hresponse)
  | error error => exact congrArg (·, _) (answer_of_response_error hresponse).symm

/-- **What arrives for an attempt** is one copy of its request, and an attempt to read has read the
last reply. -/
theorem exists_attempt_eq (h : network.Takes call.url) :
    ∃ arrived, network.Copies call.request 1 arrived ∧
      (call.attempt network).2 = network.advanced arrived ∧
      (call.method = .get → ∀ value, (call.attempt network).1 = .ok value →
        call.answer (network.lastReply arrived) = .ok value) := by
  obtain ⟨arrived, hcopies, hafter, hresponse⟩ := Network.exists_send_eq h call.method call.body
  refine ⟨arrived, hcopies, ?_, fun hget value hvalue => ?_⟩
  · rw [attempt, ← hafter]
    split
    next heq => rw [heq]
    next heq => rw [heq]
  · rw [attempt] at hvalue
    split at hvalue
    · cases hvalue
    next response after heq =>
      obtain ⟨last, hmethod, hlast⟩ := hresponse response (congrArg Prod.fst heq)
      rw [← response_eq_answer ((hmethod hget).trans hget.symm) hlast]
      exact hvalue

/-- An attempt whose request does not arrive fails and changes nothing. -/
theorem attempt_of_not_takes (h : ¬network.Takes call.url) :
    ∃ failure, call.attempt network = (.error (.transport failure), network) := by
  obtain ⟨failure, hsend⟩ := Network.send_of_not_takes h call.method call.body
  exact ⟨failure, by rw [attempt, hsend]⟩

/-- A call ends with a conclusive reply, and with any reply to the last attempt. -/
theorem attemptFrom_stop (htakes : network.Takes call.url) (hnext : network.next.redirect? = none)
    {left : Nat} (hstop : left = 0 ∨ call.isTransient network.next = false) (n time : Nat) :
    policy.attemptFrom call.attempt left n time network =
      ⟨call.outcome policy network.next, network.exchanged call.request 1, [time]⟩ := by
  unfold RetryPolicy.attemptFrom outcome
  rw [attempt_of_direct htakes hnext]
  cases hanswer : call.answer network.next with
  | ok value => rfl
  | error error =>
      dsimp only
      cases hretry : error.isRetryable with
      | false => rfl
      | true =>
          rcases hstop with rfl | hconclusive
          · rfl
          · rw [(isFinal_of_not_isTransient hconclusive hanswer).1] at hretry
            cases hretry

/-- After a transient reply a call goes on with the next attempt. -/
theorem attemptFrom_again (htakes : network.Takes call.url)
    (htransient : call.isTransient network.next = true) (left n time : Nat) :
    let rest := policy.attemptFrom call.attempt left (n + 1) (time + policy.delayBefore n)
      (network.exchanged call.request 1)
    policy.attemptFrom call.attempt (left + 1) n time network =
      { rest with startedAt := time :: rest.startedAt } := by
  intro rest
  obtain ⟨error, hanswer, hretry⟩ := answer_of_isTransient htransient
  rw [RetryPolicy.attemptFrom, attempt_of_direct htakes (redirect?_of_isTransient htransient),
    hanswer]
  dsimp only
  rw [if_pos hretry]

/-- What the attempts from some one on come to, unless the reply that decides sends the client on.
-/
theorem attemptFrom_attempt (policy : RetryPolicy) (left n time : Nat)
    (htakes : network.Takes call.url)
    (hdirect : (call.decisive (left + 1) network.replies).redirect? = none) :
    (policy.attemptFrom call.attempt left n time network).result =
        call.outcome policy (call.decisive (left + 1) network.replies) ∧
      (policy.attemptFrom call.attempt left n time network).state =
        network.exchanged call.request (call.rounds (left + 1) network.replies) := by
  induction left generalizing n time network with
  | zero =>
      have hone := rounds_one call network.replies
      rw [Nat.zero_add, decisive_of_rounds_eq_one hone] at hdirect ⊢
      rw [attemptFrom_stop htakes hdirect (.inl rfl), hone]
      exact ⟨rfl, rfl⟩
  | succ left ih =>
      cases htransient : call.isTransient network.next with
      | false =>
          have hone := rounds_of_not_isTransient htransient (left + 1)
          rw [decisive_of_rounds_eq_one hone] at hdirect ⊢
          rw [attemptFrom_stop htakes hdirect (.inr htransient), hone]
          exact ⟨rfl, rfl⟩
      | true =>
          -- the attempts that are left see the replies behind the one that is used up
          rw [attemptFrom_again htakes htransient]
          have hrest := @ih (network.exchanged call.request 1) (n + 1)
            (time + policy.delayBefore n) htakes
          obtain ⟨reachable, replies, arrivals⟩ := network
          cases replies with
          | nil =>
              -- the reply of a server that finds nothing ends every call
              exact absurd htransient (Bool.eq_false_iff.1 call.isTransient_notFound)
          | cons reply replies =>
              have hreply : call.isTransient reply = true := htransient
              rw [decisive_of_isTransient hreply] at hdirect ⊢
              rw [rounds_of_isTransient hreply]
              rw [Network.exchanged_exchanged] at hrest
              exact hrest hdirect

/-- **What a call under a policy comes to**, unless the reply that decides sends the client on. -/
theorem run_attempt (policy : RetryPolicy) (htakes : network.Takes call.url)
    (hdirect : (call.decisive policy.attempts network.replies).redirect? = none) :
    (policy.run call.attempt network).result =
        call.outcome policy (call.decisive policy.attempts network.replies) ∧
      (policy.run call.attempt network).state =
        network.exchanged call.request (call.rounds policy.attempts network.replies) := by
  obtain ⟨left, hleft⟩ := policy.exists_attempts_eq
  rw [hleft] at hdirect
  rw [RetryPolicy.run, hleft]
  exact attemptFrom_attempt policy left 1 0 htakes hdirect

/-- **What arrives for a call**, wherever its client is sent on to: its request at least once and as
often as the policy allows at most. A call that reads has read the last reply. -/
theorem exists_run_eq (policy : RetryPolicy) (htakes : network.Takes call.url) :
    ∃ times arrived, 0 < times ∧ times ≤ policy.attempts ∧
      network.Copies call.request times arrived ∧
      (policy.run call.attempt network).state = network.advanced arrived ∧
      (call.method = .get → ∀ value, (policy.run call.attempt network).result = .ok value →
        call.answer (network.lastReply arrived) = .ok value) := by
  -- By induction on the attempts that are left, since each starts where the one before it leaves
  -- the network.
  have hfrom : ∀ left n time (network : Network), network.Takes call.url →
      ∃ times arrived, 0 < times ∧ times ≤ left + 1 ∧ network.Copies call.request times arrived ∧
        (policy.attemptFrom call.attempt left n time network).state = network.advanced arrived ∧
        (call.method = .get →
          ∀ value, (policy.attemptFrom call.attempt left n time network).result = .ok value →
            call.answer (network.lastReply arrived) = .ok value) := by
    intro left
    induction left using Nat.strongRecOn with
    | ind left ih =>
        intro n time network htakes
        obtain ⟨arrived, hcopies, hafter, hread⟩ := exists_attempt_eq htakes
        rcases policy.attemptFrom_cases call.attempt left n time network with
          ⟨hstate, hlast⟩ | ⟨less, rfl, hstate, hresult⟩
        · refine ⟨1, arrived, Nat.one_pos, Nat.le_add_left 1 left, hcopies, hstate.trans hafter, ?_⟩
          exact fun hget value hvalue => hread hget value (hlast value hvalue)
        · obtain ⟨times, later, hpos, hle, hlater, hlaterAfter, hlaterRead⟩ :=
            ih less less.lt_succ_self (n + 1) (time + policy.delayBefore n)
              (network.advanced arrived) htakes
          rw [hafter] at hstate hresult
          refine ⟨1 + times, arrived ++ later, by omega, by omega, hcopies.append hlater, ?_, ?_⟩
          · rw [hstate, hlaterAfter, Network.advanced_advanced]
          · intro hget value hvalue
            rw [Network.lastReply_append arrived (hlater.ne_nil hpos)]
            exact hlaterRead hget value (hresult ▸ hvalue)
  obtain ⟨left, hleft⟩ := policy.exists_attempts_eq
  rw [RetryPolicy.run, hleft]
  exact hfrom left 1 0 network htakes

/-- A conclusive reply is taken for what it means. -/
theorem outcome_of_not_isTransient {reply : Reply} (h : call.isTransient reply = false) :
    call.outcome policy reply = call.answer reply := by
  rw [outcome]
  cases hanswer : call.answer reply with
  | ok value => rfl
  | error error =>
      have hfinal := (isFinal_of_not_isTransient h hanswer).1
      dsimp only
      rw [hfinal, if_neg Bool.false_ne_true]

/-- A transient reply decides only as the last one that the policy allows for. -/
theorem outcome_of_isTransient_decisive {replies : List Reply}
    (h : call.isTransient (call.decisive policy.attempts replies) = true) :
    ∃ error, call.answer (call.decisive policy.attempts replies) = .error error ∧
      call.outcome policy (call.decisive policy.attempts replies) =
        .error (if call.rounds policy.attempts replies = 1 then error
          else .retriesExhausted (call.rounds policy.attempts replies) error) := by
  obtain ⟨error, hanswer, hretry⟩ := answer_of_isTransient h
  have hrounds : call.rounds policy.attempts replies = policy.attempts := by
    obtain ⟨left, hleft⟩ := policy.exists_attempts_eq
    rw [hleft] at h ⊢
    exact rounds_of_isTransient_decisive h
  refine ⟨error, hanswer, ?_⟩
  rw [outcome, hanswer, hrounds]
  dsimp only
  rw [if_pos hretry, RetryPolicy.exhausted]

/-- **Transient replies are ridden out**: fewer of them than attempts, in front of a conclusive
reply that sends nobody on, change neither the result nor the replies that are left. -/
theorem run_attempt_append {noise : List Reply} (htakes : network.Takes call.url)
    (hnext : call.isTransient network.next = false) (hdirect : network.next.redirect? = none)
    (hnoise : ∀ reply ∈ noise, call.isTransient reply = true)
    (hlength : noise.length < policy.attempts) :
    let noisy : Network := { network with replies := noise ++ network.replies }
    (policy.run call.attempt noisy).result = (policy.run call.attempt network).result ∧
      (policy.run call.attempt noisy).state.replies =
        (policy.run call.attempt network).state.replies := by
  intro noisy
  obtain ⟨more, hmore⟩ := Nat.exists_eq_add_of_lt hlength
  obtain ⟨left, hleft⟩ := policy.exists_attempts_eq
  have hone : call.rounds policy.attempts network.replies = 1 := by
    rw [hleft]
    exact rounds_of_not_isTransient hnext left
  have hrounds : call.rounds policy.attempts noisy.replies = noise.length + 1 := by
    rw [hmore]
    exact rounds_append hnoise hnext more
  have hplain : call.decisive policy.attempts network.replies = network.next :=
    decisive_of_rounds_eq_one hone
  have hdecisive : call.decisive policy.attempts noisy.replies = network.next := by
    rw [hmore]
    exact decisive_append hnoise hnext more
  obtain ⟨hresult, hafter⟩ := run_attempt policy htakes (by rw [hplain]; exact hdirect)
  obtain ⟨hnoisy, hnoisyAfter⟩ := run_attempt policy (show noisy.Takes call.url from htakes)
    (by rw [hdecisive]; exact hdirect)
  refine ⟨by rw [hnoisy, hresult, hdecisive, hplain], ?_⟩
  rw [hnoisyAfter, hafter, hrounds, hone]
  simp only [Network.exchanged, Network.advanced, List.length_replicate]
  exact List.drop_length_add_append ..

/-- A call whose requests do not arrive fails with the last attempt and changes nothing. -/
theorem run_attempt_of_not_takes (policy : RetryPolicy) (h : ¬network.Takes call.url) :
    ∃ failure, (policy.run call.attempt network).result =
        .error (policy.exhausted (.transport failure)) ∧
      (policy.run call.attempt network).state = network := by
  obtain ⟨failure, hattempt⟩ := attempt_of_not_takes h
  have hfrom : ∀ left n time,
      (policy.attemptFrom call.attempt left n time network).result =
          .error (policy.exhausted (.transport failure)) ∧
        (policy.attemptFrom call.attempt left n time network).state = network := by
    intro left
    induction left with
    | zero =>
        intro n time
        rw [RetryPolicy.attemptFrom, hattempt]
        exact ⟨rfl, rfl⟩
    | succ left ih =>
        intro n time
        rw [RetryPolicy.attemptFrom, hattempt]
        exact ih (n + 1) (time + policy.delayBefore n)
  exact ⟨failure, hfrom _ _ _⟩

end Attempts

/-- How a call under a policy rides out transient replies. -/
structure RidesOut (call : RemoteCall α) (policy : RetryPolicy)
    (make : Network → Except NetError α × Network) : Prop where
  /-- It sends copies of its request, and each of them uses up a reply. -/
  exchanges : ∀ network, network.Takes call.url →
    (call.decisive policy.attempts network.replies).redirect? = none →
    (make network).2 = network.exchanged call.request (call.rounds policy.attempts network.replies)
  /-- A conclusive reply to the last of them is the result: a value or a final failure. -/
  conclusive : ∀ network, network.Takes call.url →
    (call.decisive policy.attempts network.replies).redirect? = none →
    call.isTransient (call.decisive policy.attempts network.replies) = false →
    (make network).1 = call.answer (call.decisive policy.attempts network.replies) ∧
      ∀ error, (make network).1 = .error error → error.IsFinal
  /-- A transient one is a failure, which is wrapped unless the request was sent only once. -/
  exhausted : ∀ network, network.Takes call.url →
    call.isTransient (call.decisive policy.attempts network.replies) = true →
    ∃ error, call.answer (call.decisive policy.attempts network.replies) = .error error ∧
      (make network).1 = .error (if call.rounds policy.attempts network.replies = 1 then error
        else .retriesExhausted (call.rounds policy.attempts network.replies) error)
  /-- No transient reply sends the client on. -/
  stays : ∀ reply, call.isTransient reply = true → reply.redirect? = none
  /-- Fewer transient replies than attempts in front of a conclusive one change neither the result
  nor the replies that are left for other calls. -/
  hides : ∀ network noise, network.Takes call.url → call.isTransient network.next = false →
    network.next.redirect? = none → (∀ reply ∈ noise, call.isTransient reply = true) →
    noise.length < policy.attempts →
    (make { network with replies := noise ++ network.replies }).1 = (make network).1 ∧
      (make { network with replies := noise ++ network.replies }).2.replies =
        (make network).2.replies
  /-- Wherever the client is sent on to, all that it makes of its own accord are copies of its
  request, one at least and no more than the attempts of the policy. -/
  copies : ∀ network, network.Takes call.url → ∃ times arrived, 0 < times ∧
    times ≤ policy.attempts ∧ network.Copies call.request times arrived ∧
    (make network).2 = network.advanced arrived
  /-- A call whose requests do not arrive uses up nothing and fails as the last attempt does. -/
  unsent : ∀ network, ¬network.Takes call.url → ∃ failure,
    make network = (.error (policy.exhausted (.transport failure)), network)

/-- A call under a policy rides out transient replies. -/
theorem ridesOut_run (call : RemoteCall α) (policy : RetryPolicy) :
    call.RidesOut policy fun network =>
      ((policy.run call.attempt network).result, (policy.run call.attempt network).state) where
  exchanges _ htakes hdirect := (run_attempt policy htakes hdirect).2
  conclusive network htakes hdirect h := by
    dsimp only
    rw [(run_attempt policy htakes hdirect).1, outcome_of_not_isTransient h]
    exact ⟨rfl, fun _ => isFinal_of_not_isTransient h⟩
  exhausted network htakes h := by
    dsimp only
    rw [(run_attempt policy htakes (redirect?_of_isTransient h)).1]
    exact outcome_of_isTransient_decisive h
  stays _ := redirect?_of_isTransient
  hides _ _ htakes hnext hdirect hnoise hlength :=
    run_attempt_append htakes hnext hdirect hnoise hlength
  copies network htakes := by
    obtain ⟨times, arrived, hpos, hle, hcopies, hafter, -⟩ := exists_run_eq policy htakes
    exact ⟨times, arrived, hpos, hle, hcopies, hafter⟩
  unsent network htakes := by
    obtain ⟨failure, hresult, hstate⟩ := run_attempt_of_not_takes policy htakes
    exact ⟨failure, Prod.ext hresult hstate⟩

/-! ### The calls of the clients -/

/-- Reading the text of an object. -/
def get (url : Url) : RemoteCall (Option String) where
  method := .get
  url := url
  body := ""
  reads := true
  found text := .ok (some text)
  missing := some none
  method_ne _ := by decide
  isFinal := nofun

/-- Writing the text of an object. -/
def put (url : Url) (text : String) : RemoteCall Unit where
  method := .post
  url := url
  body := text
  reads := false
  found _ := .ok ()
  missing := none
  method_ne := nofun
  isFinal := nofun

/-- Listing a page of a bucket. -/
def list (url : Url) (bucket : String) : RemoteCall (List Item) where
  method := .get
  url := url
  body := ""
  reads := true
  found text :=
    match MetadataClient.parsePage? bucket text with
    | some page => .ok page
    | none => .error (Network.undecodable url)
  missing := some []
  method_ne _ := by decide
  isFinal text error h := by
    split at h
    · cases h
    · cases h
      exact ⟨rfl, fun _ _ => NetError.noConfusion⟩

/-- Looking for a blob. -/
def probe (url : Url) : RemoteCall BlobStatus where
  method := .head
  url := url
  body := ""
  reads := false
  found _ := .ok .present
  missing := some .missing
  method_ne := nofun
  isFinal := nofun

/-- That a blob name has no alias is nothing that another attempt would change. -/
theorem isFinal_aliasOf {url : Url} {text : String} {error : NetError}
    (h : BlobClient.aliasOf url text = .error error) : error.IsFinal := by
  rw [BlobClient.aliasOf] at h
  split at h
  · cases h
    exact ⟨rfl, fun _ _ => NetError.noConfusion⟩
  · split at h
    · cases h
    · cases h
      exact ⟨rfl, fun _ _ => NetError.noConfusion⟩

/-- Finding the alias of a blob store, for a client of it. -/
def connect (base : Url) (retry : RetryPolicy) : RemoteCall BlobClient where
  method := .get
  url := BlobClient.configurationUrl base
  body := ""
  reads := true
  found text := (BlobClient.aliasOf (BlobClient.configurationUrl base) text).map (⟨base, ·, retry⟩)
  missing := none
  method_ne _ := by decide
  isFinal text error h := by
    cases halias : BlobClient.aliasOf (BlobClient.configurationUrl base) text with
    | ok segment => rw [halias] at h; cases h
    | error failure =>
        rw [halias] at h
        cases h
        exact isFinal_aliasOf halias

end RemoteCall

/-! ### The attempts of the clients -/

section

open RemoteCall

variable (url : Url)

/-- An attempt to read an object is one to make the call that reads it. -/
theorem attemptGet_eq : MetadataClient.attemptGet url = (RemoteCall.get url).attempt := by
  funext network
  unfold MetadataClient.attemptGet attempt interpret
  dsimp only [RemoteCall.get]
  rcases network.send .get url "" with ⟨error | response, after⟩
  · rfl
  · dsimp only
    split
    · rfl
    · split <;> rfl

/-- An attempt to write an object is one to make the call that writes it. -/
theorem attemptPut_eq (text : String) :
    MetadataClient.attemptPut url text = (RemoteCall.put url text).attempt := by
  funext network
  unfold MetadataClient.attemptPut attempt interpret
  dsimp only [RemoteCall.put]
  rcases network.send .post url text with ⟨error | response, after⟩
  · rfl
  · dsimp only
    split
    · rfl
    · rw [ite_self]

/-- An attempt to list a bucket is one to make the call that lists it. -/
theorem attemptList_eq (bucket : String) :
    MetadataClient.attemptList url bucket = (RemoteCall.list url bucket).attempt := by
  funext network
  unfold MetadataClient.attemptList MetadataClient.pageOf attempt interpret
  dsimp only [RemoteCall.list]
  rcases network.send .get url "" with ⟨error | response, after⟩
  · rfl
  · dsimp only
    split
    · rfl
    · split <;> rfl

/-- An attempt to probe a blob is one to make the call that probes it. -/
theorem attemptProbe_eq : BlobClient.attemptProbe url = (RemoteCall.probe url).attempt := by
  funext network
  unfold BlobClient.attemptProbe attempt interpret
  dsimp only [RemoteCall.probe]
  rcases network.send .head url "" with ⟨error | response, after⟩
  · rfl
  · dsimp only
    split
    · rfl
    · split <;> rfl

/-- An attempt to find the alias gives the client for it. -/
theorem attempt_connect (base : Url) (retry : RetryPolicy) :
    (RemoteCall.connect base retry).attempt = fun network =>
      ((BlobClient.attemptAlias (BlobClient.configurationUrl base) network).1.map
          (⟨base, ·, retry⟩),
        (BlobClient.attemptAlias (BlobClient.configurationUrl base) network).2) := by
  funext network
  unfold BlobClient.attemptAlias attempt interpret
  dsimp only [RemoteCall.connect]
  rcases network.send .get (BlobClient.configurationUrl base) "" with ⟨error | response, after⟩
  · rfl
  · dsimp only
    split
    · cases Network.bodyOf response <;> rfl
    · rw [ite_self]
      rfl

end

/-- Something else made of the value of a call. -/
def Retried.map {σ α β : Type} (f : α → β) (retried : Retried σ α) : Retried σ β :=
  ⟨retried.result.map f, retried.state, retried.startedAt⟩

/-- What is made of the value of each attempt can be made of the value in the end. -/
theorem RetryPolicy.attemptFrom_map {σ α β : Type} (policy : RetryPolicy)
    (call : σ → Except NetError α × σ) (f : α → β) (left n time : Nat) (state : σ) :
    policy.attemptFrom (fun state => ((call state).1.map f, (call state).2)) left n time state =
      (policy.attemptFrom call left n time state).map f := by
  induction left generalizing n time state with
  | zero =>
      unfold attemptFrom
      rcases call state with ⟨error | value, next⟩
      · dsimp only [Except.map]
        split <;> rfl
      · rfl
  | succ left ih =>
      unfold attemptFrom
      simp only [ih]
      rcases call state with ⟨error | value, next⟩
      · dsimp only [Except.map]
        split <;> rfl
      · rfl

/-! ### The calls under a policy -/

section Ridden

variable (metadata : MetadataClient) (blobs : BlobClient)

/-- **Reading an object** rides out transient replies. -/
theorem MetadataClient.ridesOut_get (name : ObjectName) :
    (RemoteCall.get (metadata.objectUrl name)).RidesOut metadata.retry (metadata.get name) := by
  have hrun := RemoteCall.ridesOut_run (.get (metadata.objectUrl name)) metadata.retry
  rwa [← attemptGet_eq] at hrun

/-- **Writing an object** rides out transient replies. -/
theorem MetadataClient.ridesOut_put (name : ObjectName) (text : String) :
    (RemoteCall.put (metadata.objectUrl name) text).RidesOut metadata.retry
      (metadata.put name text) := by
  have hrun := RemoteCall.ridesOut_run (.put (metadata.objectUrl name) text) metadata.retry
  rwa [← attemptPut_eq] at hrun

/-- **Listing a bucket** rides out transient replies. -/
theorem MetadataClient.ridesOut_list (request : ListRequest) :
    (RemoteCall.list (metadata.listingUrl request) request.bucket).RidesOut metadata.retry
      (metadata.list request) := by
  have hrun := RemoteCall.ridesOut_run (.list (metadata.listingUrl request) request.bucket)
    metadata.retry
  rwa [← attemptList_eq] at hrun

/-- **Probing a blob** rides out transient replies. -/
theorem BlobClient.ridesOut_probe (blob : String) :
    (RemoteCall.probe (blobs.blobUrl blob)).RidesOut blobs.retry (blobs.probe blob) := by
  have hrun := RemoteCall.ridesOut_run (.probe (blobs.blobUrl blob)) blobs.retry
  rwa [← attemptProbe_eq] at hrun

end Ridden

/-- Connecting to a blob store rides out transient replies too. -/
theorem BlobClient.ridesOut_connect (retry : RetryPolicy) {endpoint : String} {base : Url}
    (h : parseEndpoint endpoint = .ok base) :
    (RemoteCall.connect base retry).RidesOut retry (connect endpoint retry) := by
  have hrun := RemoteCall.ridesOut_run (.connect base retry) retry
  have hconnect : connect endpoint retry = fun network =>
      ((retry.run (RemoteCall.connect base retry).attempt network).result,
        (retry.run (RemoteCall.connect base retry).attempt network).state) := by
    funext network
    rw [connect, h, attempt_connect, RetryPolicy.run, RetryPolicy.attemptFrom_map]
    rfl
  rwa [hconnect]

/-- What the calls of a client of each service and the connection to a blob store come to. -/
structure CallsRideOut (metadata : MetadataClient) (blobs : BlobClient) (endpoint : String)
    (base : Url) (retry : RetryPolicy) : Prop where
  get : ∀ name, (RemoteCall.get (metadata.objectUrl name)).RidesOut metadata.retry
    (metadata.get name)
  put : ∀ name text, (RemoteCall.put (metadata.objectUrl name) text).RidesOut metadata.retry
    (metadata.put name text)
  list : ∀ request, (RemoteCall.list (metadata.listingUrl request) request.bucket).RidesOut
    metadata.retry (metadata.list request)
  probe : ∀ blob, (RemoteCall.probe (blobs.blobUrl blob)).RidesOut blobs.retry (blobs.probe blob)
  connect : (RemoteCall.connect base retry).RidesOut retry (BlobClient.connect endpoint retry)

/-- **The calls of both clients ride out transient replies.**

Each of them makes its attempts as a `RemoteCall` does (`attemptGet_eq` and the others), so what
`RemoteCall.ridesOut_run` says of any call under a policy is said of all. -/
theorem callsRideOut_of_parseEndpoint (metadata : MetadataClient) (blobs : BlobClient)
    (retry : RetryPolicy) {endpoint : String} {base : Url} (h : parseEndpoint endpoint = .ok base) :
    CallsRideOut metadata blobs endpoint base retry where
  get := metadata.ridesOut_get
  put := metadata.ridesOut_put
  list := metadata.ridesOut_list
  probe := blobs.ridesOut_probe
  connect := BlobClient.ridesOut_connect retry h

/-- The statement holds of clients at the address of the machine itself. With three attempts, the
answer that an object is not found gets through a failing server and a lost connection, and the
next call sees the reply behind it. -/
theorem callsRideOut_of_parseEndpoint_three_attempts :
    let base := MetadataClient.onLoopback.base
    let metadata : MetadataClient := ⟨base, ⟨3, 0, 0⟩⟩
    let name : ObjectName := ⟨"b", "k"⟩
    let later := Reply.answer 200 [] false
    let network := Network.ofReplies
      [.answer 503 [] false, .silence, .answer 404 [] false, later]
    parseEndpoint "[::1]:81" = .ok base ∧
      CallsRideOut metadata ⟨base, "x", ⟨3, 0, 0⟩⟩ "[::1]:81" base ⟨3, 0, 0⟩ ∧
      network.Takes (metadata.objectUrl name) ∧
      metadata.get name network = (.ok none,
        ⟨true, [later],
          Array.replicate 3 ⟨(RemoteCall.get (metadata.objectUrl name)).request, false⟩⟩) := by
  intro base metadata name later network
  have hcalls := callsRideOut_of_parseEndpoint metadata ⟨base, "x", ⟨3, 0, 0⟩⟩ ⟨3, 0, 0⟩
    MetadataClient.parseEndpoint_loopback
  have htakes : network.Takes (metadata.objectUrl name) := ⟨by decide +kernel, rfl⟩
  refine ⟨MetadataClient.parseEndpoint_loopback, hcalls, htakes, Prod.ext ?_ ?_⟩
  · exact ((hcalls.get name).conclusive network htakes rfl (by decide)).1
  · exact (hcalls.get name).exchanges network htakes rfl

/-- Calls do not always come to what the reply that decides means to them. At an endpoint whose URLs
cannot be requested a call sends nothing, and the reply stays for others. And if that reply sends
the client on, the call uses up the next one too: an object counts as written then, though what
arrives at the other place is a request to read. -/
theorem exists_unsent_and_exists_sent_on :
    (∃ client, MetadataClient.ofEndpoint "ftp://[::1]" .single = .ok client ∧
      let call := RemoteCall.get (client.objectUrl ⟨"b", "k"⟩)
      let network := Network.ofReplies [.answer 200 [0x7b, 0x7d] false]
      let made := client.get ⟨"b", "k"⟩ network
      call.rounds client.retry.attempts network.replies = 1 ∧
        (call.answer network.next).toOption = some (some "\x7b\x7d") ∧ made.1.toOption = none ∧
        made.2.arrivals = #[] ∧ made.2.replies = network.replies) ∧
    ∃ client elsewhere, MetadataClient.ofEndpoint "[::1]:81" .single = .ok client ∧
      let call := RemoteCall.put (client.objectUrl ⟨"b", "k"⟩) "\x7b\x7d"
      let network := Network.ofReplies
        [.answer 302 [] false (some elsewhere), .answer 200 [] false]
      let made := client.put ⟨"b", "k"⟩ "\x7b\x7d" network
      call.rounds client.retry.attempts network.replies = 1 ∧
        (call.answer network.next).toOption = none ∧ made.1.toOption = some () ∧
        made.2.arrivals =
          #[⟨call.request, false⟩, ⟨⟨.get, elsewhere.requested, ""⟩, true⟩] ∧
        made.2.replies = [] := by
  let base : Url := ⟨"ftp", [], some ['[', ':', ':', '1', ']'], none, .segments [[]], none, none⟩
  have hbase : parseEndpoint "ftp://[::1]" = .ok base := eq_ok_of_toOption (by decide +kernel)
  constructor
  · refine ⟨⟨base, .single⟩, by rw [MetadataClient.ofEndpoint, hbase]; rfl, ?_⟩
    decide +kernel
  · refine ⟨MetadataClient.onLoopback,
      { MetadataClient.onLoopback.base with path := .segments [['x']] },
      MetadataClient.ofEndpoint_loopback, ?_⟩
    decide +kernel

end Reconcile

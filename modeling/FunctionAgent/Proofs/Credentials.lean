import FunctionAgent.Broker.Handshake
/-!
# The two requests of a handshake

With a channel the agent first exchanges its credentials for a token, without a token of its own,
and then makes one call that carries the fresh token. There is no request without a channel, and no
second one without a token that a header can hold. `Passage` lists the ways in which a handshake can
go; what it keeps to in all of them is an `Introduction`. Whether it asks for a stream or for a
signature makes no difference, and nothing that goes wrong in it is a lost stream.
-/

set_option autoImplicit false

namespace FunctionAgent

@[simp] theorem Headers.values_set (h : Headers) (name : String) (value : List UInt8) :
    (h.set name value).values name = [value] := by
  simp [values, set, List.filter_filter]

/-- No status means a lost stream. -/
theorem isRecoverable_ofStatus (s : Status) :
    (SessionFailure.ofTransport (.ofStatus s)).isRecoverable = false := by
  unfold TransportFailure.ofStatus
  split <;> rfl

namespace Handshake

/-- The exchange of the credentials of an account, which carries no token. -/
def exchange (a : Account) : BrokerRequest :=
  ⟨.token ⟨a.clientId, a.clientSecret, a.clusterId⟩, []⟩

/-- The ways in which a handshake can go whose second call is `c`. -/
inductive Passage {β : Type} (a : Account) (b : Broker) (c : BrokerCall)
    (answer : Except Status β) :
    List BrokerRequest → Except SessionFailure (Bearer × β) → Prop where
  | unreached {failure : SessionFailure} (barred : openChannel a b = .error failure) :
      Passage a b c answer [] (.error failure)
  | refused {status : Status} (reached : openChannel a b = .ok ())
      (refused : b.token = .error status) :
      Passage a b c answer [exchange a] (.error (refusal status))
  | unsendable {token : Token} (reached : openChannel a b = .ok ()) (granted : b.token = .ok token)
      (unfit : headerValue? (Bearer.scheme ++ token.value) = none) :
      Passage a b c answer [exchange a] (.error (.ofTransport (.ofStatus Bearer.invalid)))
  | rejected {token : Token} {bytes : List UInt8} {status : Status}
      (reached : openChannel a b = .ok ()) (granted : b.token = .ok token)
      (fit : headerValue? (Bearer.scheme ++ token.value) = some bytes)
      (rejected : answer = .error status) :
      Passage a b c answer [exchange a, ⟨c, Headers.set [] Bearer.header bytes⟩]
        (.error (.ofTransport (.ofStatus status)))
  | answered {token : Token} {bytes : List UInt8} {value : β}
      (reached : openChannel a b = .ok ()) (granted : b.token = .ok token)
      (fit : headerValue? (Bearer.scheme ++ token.value) = some bytes)
      (answered : answer = .ok value) :
      Passage a b c answer [exchange a, ⟨c, Headers.set [] Bearer.header bytes⟩]
        (.ok (some token.value, value))

/-- What a handshake keeps to, with the requests that it made and its outcome. -/
structure Introduction {α β : Type} (a : Account) (b : Broker) (c : BrokerCall)
    (answer : Except Status β) (requests : List BrokerRequest) (result : Except SessionFailure α) :
    Prop where
  /-- Without a channel there is no request. -/
  unreached : ∀ failure, openChannel a b = .error failure →
    requests = [] ∧ result = .error failure
  /-- With a channel the credentials are exchanged, and at most one call follows. -/
  reached : openChannel a b = .ok () →
    requests = [exchange a] ∨ ∃ headers, requests = [exchange a, ⟨c, headers⟩]
  follows : (∃ headers, requests = [exchange a, ⟨c, headers⟩]) ↔ openChannel a b = .ok () ∧
    ∃ token, b.token = .ok token ∧ headerValue? (Bearer.scheme ++ token.value) ≠ none
  /-- The call that follows carries the fresh token and no other. -/
  carries : ∀ headers, requests = [exchange a, ⟨c, headers⟩] → ∀ token, b.token = .ok token →
    headers.values Bearer.header = [Wire.utf8 (Bearer.scheme ++ token.value)]
  succeeds : (∃ value, result = .ok value) ↔
    (∃ headers, requests = [exchange a, ⟨c, headers⟩]) ∧ ∃ value, answer = .ok value
  final : ∀ failure, result = .error failure → failure.isRecoverable = false
  refused : openChannel a b = .ok () → ∀ status, b.token = .error status →
    result = .error (if status.code = .unavailable then .connection status.message
      else .brokerAuthentication (TransportFailure.ofStatus status).message)
  rejected : (∃ headers, requests = [exchange a, ⟨c, headers⟩]) → ∀ status,
    answer = .error status → result = .error
      (if status.code = .unauthenticated ∨ status.code = .permissionDenied then
        .brokerAuthentication status.message
      else .connection
        (if status.code = .unavailable then status.message else status.render))

section Passage

variable {α β : Type} {a : Account} {b : Broker} {c : BrokerCall} {answer : Except Status β}
  {requests : List BrokerRequest} {result : Except SessionFailure (Bearer × β)}

theorem call_of_unfit {token : String} (unfit : headerValue? (Bearer.scheme ++ token) = none) :
    call (some token) c answer = ([], .error (.ofTransport (.ofStatus Bearer.invalid))) := by
  simp [call, Bearer.apply, Bearer.value, unfit, Except.map]

theorem call_of_fit {token : String} {bytes : List UInt8}
    (fit : headerValue? (Bearer.scheme ++ token) = some bytes) :
    call (some token) c answer = ([⟨c, Headers.set [] Bearer.header bytes⟩],
      answer.mapError fun status => .ofTransport (.ofStatus status)) := by
  simp [call, Bearer.apply, Bearer.value, fit, Except.map]

theorem passage_authenticated (a : Account) (b : Broker) (c : BrokerCall)
    (answer : Except Status β) :
    Passage a b c answer (authenticated a b c answer).1 (authenticated a b c answer).2 := by
  unfold authenticated authenticate
  cases reached : openChannel a b with
  | error failure => exact .unreached reached
  | ok =>
    cases granted : b.token with
    | error status => exact .refused reached granted
    | ok token =>
      show Passage a b c answer
        ([⟨.token a.credentials, []⟩] ++ (call (some token.value) c answer).1)
        ((call (some token.value) c answer).2.map fun value => (some token.value, value))
      cases fit : headerValue? (Bearer.scheme ++ token.value) with
      | none =>
        rw [call_of_unfit fit]
        exact .unsendable reached granted fit
      | some bytes =>
        rw [call_of_fit fit]
        cases given : answer with
        | error status => exact .rejected reached granted fit rfl
        | ok value => exact .answered reached granted fit rfl

/-- The value of a header is the text itself. -/
theorem eq_of_headerValue? {s : String} {bytes : List UInt8} (fit : headerValue? s = some bytes) :
    bytes = Wire.utf8 s := by
  unfold headerValue? at fit
  split at fit
  · exact (Option.some.inj fit).symm
  · contradiction

theorem refusal_eq (s : Status) :
    refusal s = if s.code = .unavailable then .connection s.message
      else .brokerAuthentication (TransportFailure.ofStatus s).message := by
  unfold refusal TransportFailure.ofStatus
  cases s.code <;> rfl

theorem ofTransport_ofStatus (s : Status) :
    SessionFailure.ofTransport (.ofStatus s) =
      if s.code = .unauthenticated ∨ s.code = .permissionDenied then
        .brokerAuthentication s.message
      else .connection (if s.code = .unavailable then s.message else s.render) := by
  unfold TransportFailure.ofStatus
  cases s.code <;> simp [SessionFailure.ofTransport]

theorem isRecoverable_openChannel {failure : SessionFailure}
    (barred : openChannel a b = .error failure) : failure.isRecoverable = false := by
  unfold openChannel at barred
  split at barred
  · split at barred
    · contradiction
    · exact Except.error.inj barred ▸ rfl
  · exact Except.error.inj barred ▸ rfl

theorem Passage.final (passage : Passage a b c answer requests result) {failure : SessionFailure}
    (failed : result = .error failure) : failure.isRecoverable = false := by
  cases passage with
  | unreached barred => exact Except.error.inj failed ▸ isRecoverable_openChannel barred
  | refused reached refused =>
    obtain rfl := Except.error.inj failed
    rw [refusal_eq]
    split <;> rfl
  | unsendable | rejected => exact Except.error.inj failed ▸ isRecoverable_ofStatus _
  | answered => contradiction

theorem Passage.introduction (passage : Passage a b c answer requests result)
    (f : Bearer × β → α) : Introduction a b c answer requests (result.map f) where
  unreached failure barred := by
    cases passage <;> simp_all [Except.map]
  reached reached := by
    cases passage with
    | unreached barred => simp [barred] at reached
    | refused | unsendable => exact .inl rfl
    | rejected | answered => exact .inr ⟨_, rfl⟩
  follows := by
    cases passage <;> simp_all
  carries headers second token granted := by
    cases passage with
    | unreached | refused | unsendable => simp at second
    | rejected reached granted' fit | answered reached granted' fit =>
      obtain rfl : _ = headers := by simpa using second
      obtain rfl : _ = token := Except.ok.inj (granted'.symm.trans granted)
      rw [Headers.values_set, eq_of_headerValue? fit]
  succeeds := by
    cases passage <;> simp_all [Except.map]
  final failure failed := by
    cases given : result with
    | ok value => simp [given, Except.map] at failed
    | error cause =>
      obtain rfl : cause = failure := by simpa [given, Except.map] using failed
      exact passage.final given
  refused reached status refused := by
    rw [← refusal_eq]
    cases passage <;> simp_all [Except.map]
  rejected second status rejected := by
    rw [← ofTransport_ofStatus]
    cases passage <;> simp_all [Except.map]

end Passage

/-- A session is opened, and a signature is asked for, in this way, whatever the account is and
however the broker answers; the session carries the fresh token from then on. -/
theorem introduces (a : Account) (b : Broker) :
    Introduction a b .stream b.stream (connect a b).1 (connect a b).2 ∧
      Introduction a b .signature b.signature (signature a b).1 (signature a b).2 ∧
      ∀ session, (connect a b).2 = .ok session →
        ∃ token, b.token = .ok token ∧ session.bearer = some token.value := by
  have stream := passage_authenticated a b .stream b.stream
  refine ⟨stream.introduction _, (passage_authenticated a b .signature b.signature).introduction _,
    fun session connected => ?_⟩
  unfold connect at connected
  generalize authenticated a b .stream b.stream = outcome at stream connected
  obtain ⟨requests, result⟩ := outcome
  cases stream with
  | answered reached granted =>
    obtain rfl := Except.ok.inj connected
    exact ⟨_, granted, rfl⟩
  | _ => simp [Except.map] at connected

/-- A token that no header can hold ends the handshake after the first request. -/
example (answer : Except Status Unit) (refusal : Except Status Signature) :
    (connect (.new "id" "secret") ⟨none, .ok ⟨"to\nken"⟩, answer, refusal⟩).1 =
      [exchange (.new "id" "secret")] := by
  rfl

end Handshake

end FunctionAgent

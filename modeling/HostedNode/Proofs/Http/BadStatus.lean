import HostedNode.Http.Exchange
import HostedNode.Proofs.Rpc.Envelope

/-! # Responses of a bad status

What a call comes to if the response has a status that is no success. It is meant to fail always:
with the error of the envelope in the body, or else with the status (`refusal`). It does so just if
the body is no envelope or one with an error (`answer_eq_refusal_iff`). An envelope without an error
is taken at its word whatever the status: its result is the answer, and if it has none, the fault is
put down to the body. Since every JSON object is an envelope, this holds of any object that a
gateway sends on its own behalf. -/

namespace HostedNode.Http

open Json Rpc

/-- The envelope that a body is, if it is one. -/
def envelope? (body : String) : Option Envelope :=
  (Envelope.value? body).bind Envelope.ofValue?

/-- How a call is meant to fail if the response has a bad status. -/
def refusal (status : Nat) (body : String) : TransportError :=
  match (envelope? body).bind Envelope.error with
  | some err => .rpc (Envelope.errorText err)
  | none => .http ("HTTP error: " ++ statusText status)

/-- What comes back to a call over a wire. Nothing does if the address is none. -/
def replyTo? {ω : Type} [Wire ω] (c : Connection) (method : String) (params : List Json)
    (net : Over ω) : Option Reply :=
  (Url.parse? c.address).map fun url =>
    (Wire.exchange (request url ((headers? c.options.headers).toOption.getD []) method params)
      net.wire).1

/-! ### What a body says -/

variable {status : Nat} {body : String} {e : Envelope}

theorem ofText_of_envelope? (h : envelope? body = some e) :
    Envelope.ofText body = .ok e := by
  have htext := Envelope.ofText_toOption body
  rw [show (Envelope.value? body).bind Envelope.ofValue? = some e from h] at htext
  cases hr : Envelope.ofText body with
  | ok e' =>
    rw [hr] at htext
    exact congrArg Except.ok (Option.some.inj htext)
  | error err =>
    rw [hr] at htext
    cases htext

theorem ofText_of_no_envelope (h : envelope? body = none) :
    ∃ err, Envelope.ofText body = .error err := by
  have htext := Envelope.ofText_toOption body
  rw [show (Envelope.value? body).bind Envelope.ofValue? = none from h] at htext
  cases hr : Envelope.ofText body with
  | ok e' =>
    rw [hr] at htext
    cases htext
  | error err => exact ⟨err, rfl⟩

/-- An envelope counts whatever the status. -/
theorem outcome_of_envelope (h : envelope? body = some e) : outcome status body = e.outcome := by
  simp only [outcome, ofText_of_envelope? h]

/-- Without an envelope a bad status is the fault. -/
theorem outcome_of_no_envelope (h : envelope? body = none) (hs : isSuccess status = false) :
    outcome status body = .error (refusal status body) := by
  obtain ⟨err, herr⟩ := ofText_of_no_envelope h
  have hrefusal : refusal status body = .http ("HTTP error: " ++ statusText status) := by
    rw [refusal, h]
    rfl
  simp only [outcome, herr, hs, hrefusal]
  rfl

theorem outcome_of_error (h : envelope? body = some e) {err : Json} (herr : e.error = some err) :
    outcome status body = .error (refusal status body) := by
  obtain ⟨v, -, hv⟩ := Option.bind_eq_some_iff.mp h
  have hrefusal : refusal status body = .rpc (Envelope.errorText err) := by
    rw [refusal, h, Option.bind_some, herr]
  rw [outcome_of_envelope h, Envelope.outcome_of_error hv herr, hrefusal]

theorem outcome_of_no_error (h : envelope? body = some e) (herr : e.error = none) :
    outcome status body = e.result.elim (.error (.invalidFormat "missing result field")) .ok := by
  rw [outcome_of_envelope h, Envelope.outcome_of_no_error herr]

/-- An envelope without an error never makes the call fail as a bad status should. -/
theorem outcome_ne_refusal (h : envelope? body = some e) (herr : e.error = none) :
    outcome status body ≠ .error (refusal status body) := by
  have hrefusal : refusal status body = .http ("HTTP error: " ++ statusText status) := by
    rw [refusal, h, Option.bind_some, herr]
  rw [outcome_of_no_error h herr, hrefusal]
  cases e.result with
  | none =>
    intro heq
    cases Except.error.inj heq
  | some r =>
    intro heq
    cases heq

/-! ### What a call comes to -/

variable {ω : Type} [Wire ω] {c : Connection} {method : String} {params : List Json} {net : Over ω}

theorem answer_of_reply {reply : Reply} (h : replyTo? c method params net = some reply) :
    ∃ url, (Net.answer c method params net).1 = reply.outcome c.options.timeout url := by
  obtain ⟨url, hurl, rfl⟩ := Option.map_eq_some_iff.mp h
  refine ⟨url, ?_⟩
  simp only [Net.answer, hurl]

/-- **When a bad status is a failure.** If the response has a status that is no success, the call
fails as it is meant to just if the body is no envelope without an error. An envelope without an
error is taken for an answer: the call succeeds with its result, or fails for want of one. -/
theorem answer_eq_refusal_iff
    (hreply : replyTo? c method params net = some (.response status body))
    (hs : isSuccess status = false) :
    ((Net.answer c method params net).1 = .error (refusal status body) ↔
      ∀ e, envelope? body = some e → e.error ≠ none) ∧
    ∀ e, envelope? body = some e → e.error = none →
      (Net.answer c method params net).1 =
        e.result.elim (.error (.invalidFormat "missing result field")) .ok := by
  obtain ⟨url, hanswer⟩ := answer_of_reply hreply
  have hanswer : (Net.answer c method params net).1 = outcome status body := hanswer
  rw [hanswer]
  refine ⟨⟨fun heq e he herr => outcome_ne_refusal he herr heq, fun h => ?_⟩,
    fun e he herr => outcome_of_no_error he herr⟩
  cases he : envelope? body with
  | none => exact outcome_of_no_envelope he hs
  | some e =>
    obtain ⟨err, herr⟩ := Option.ne_none_iff_exists'.mp (h e he)
    exact outcome_of_error he herr

/-! ### A gateway -/

/-- A wire to something that sends one response to whatever it is asked. -/
structure Gateway where
  status : Nat
  body : String

instance : Wire Gateway := ⟨fun _ w => (.response w.status w.body, w)⟩

/-- The connection to a gateway. -/
def toGateway : Connection := ⟨"http://localhost/rpc", ⟨none, []⟩⟩

theorem replyTo?_gateway (g : Gateway) (method : String) (params : List Json) :
    replyTo? toGateway method params ⟨g⟩ = some (.response g.status g.body) := by
  have hurl : (Url.parse? toGateway.address).isSome := by decide +kernel
  obtain ⟨url, hurl⟩ := Option.isSome_iff_exists.mp hurl
  rw [replyTo?, hurl]
  rfl

/-- What a gateway says that has lost the node behind it. -/
def lostNode : Gateway :=
  ⟨502, "\x7b\"message\":\"no node\"\x7d"⟩

/-- A result that comes with the status of a failure. -/
def failedResult : Gateway :=
  ⟨502, "\x7b\"jsonrpc\":\"2.0\",\"id\":\"lnsdk\",\"result\":\x7b\"id\":\"02ab\"\x7d\x7d"⟩

/-- The notice of a gateway is an envelope with nothing in it, so it is not the status that the call
is said to fail for. -/
theorem answer_lostNode :
    (replyTo? toGateway "getinfo" [] ⟨lostNode⟩ =
      some (.response lostNode.status lostNode.body) ∧
      isSuccess lostNode.status = false) ∧
    (Net.answer toGateway "getinfo" [] (⟨lostNode⟩ : Over Gateway)).1 ≠
      .error (refusal lostNode.status lostNode.body) ∧
    (Net.answer toGateway "getinfo" [] (⟨lostNode⟩ : Over Gateway)).1 =
      .error (.invalidFormat "missing result field") := by
  have hreply := replyTo?_gateway lostNode "getinfo" []
  have hs : isSuccess lostNode.status = false := by decide
  have henvelope : envelope? lostNode.body = some ⟨none, none, .null⟩ := by decide +kernel
  obtain ⟨hiff, hfree⟩ := answer_eq_refusal_iff hreply hs
  refine ⟨⟨hreply, hs⟩, fun heq => hiff.mp heq _ henvelope rfl, ?_⟩
  exact hfree _ henvelope rfl

/-- A result is taken for an answer although it comes with the status of a failure. -/
theorem answer_failedResult :
    isSuccess failedResult.status = false ∧
    refusal failedResult.status failedResult.body = .http "HTTP error: 502 Bad Gateway" ∧
    (Net.answer toGateway "getinfo" [] (⟨failedResult⟩ : Over Gateway)).1 =
      .ok (.obj [("id", .str "02ab")]) := by
  have hreply := replyTo?_gateway failedResult "getinfo" []
  have henvelope : envelope? failedResult.body =
      some ⟨some (.obj [("id", .str "02ab")]), none, .str "lnsdk"⟩ := by decide +kernel
  refine ⟨by decide, by decide +kernel, ?_⟩
  obtain ⟨url, hanswer⟩ := answer_of_reply hreply
  rw [hanswer, Reply.outcome, outcome_of_no_error henvelope rfl]
  rfl

end HostedNode.Http

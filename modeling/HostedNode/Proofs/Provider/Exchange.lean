import HostedNode.Proofs.World.Outcome
import HostedNode.Provider.Scheduler

/-! # Exchanges with the scheduler

Registering and recovering are one exchange of at most two calls. `Scheduler.exchangeOver` says what
an exchange comes to over a net: the calls in order, their replies, the result and the net
afterwards; `outcome_exchange` says that the scheduler does this and nothing else. An exchange fails
for want of a connection just if one of its calls did not reach the other side
(`result_eq_connectivity`). -/

namespace HostedNode

open Json Rpc Text

/-- What a reply is for a decoder. -/
def Scheduler.readReply {α : Type} (answer : Decoder α) :
    Except TransportError Json → Except NodeError α
  | .error e => .error (.ofTransport e)
  | .ok v => (decode answer v).mapError fun e => .invalidResponse e.message

/-- The bytes of the challenge in a reply. -/
def Scheduler.readChallenge (reply : Except TransportError Json) : Except NodeError Bytes := do
  let c ← readReply challengeAnswer reply
  (Hex.decode c).mapError fun e => .invalidResponse ("challenge is not hex: " ++ e.message)

/-- What an exchange comes to. -/
structure Exchange (σ : Type) where
  calls : List Happening
  replies : List (Except TransportError Json)
  result : Except NodeError DeviceCredentials
  net : σ

/-- One of the calls did not reach the other side. -/
def Exchange.Unreached {σ : Type} (x : Exchange σ) : Prop :=
  ∃ e, .error e ∈ x.replies ∧ e.isConnectivity = true

namespace Scheduler

variable {σ κ : Type} [Net σ]

/-- What a challenge is asked with. -/
def challengeParams (signer : Signer) (scope : ChallengeScope) : List Json :=
  [Json.object [("node_id", .str signer.nodeId), ("scope", .str scope.name)]]

/-- What a challenge is sent back with. -/
def proofParams (s : Scheduler) (signer : Signer) (more : List (String × Json))
    (challenge : Bytes) : List Json :=
  [Json.object (s.proof signer challenge ++ more)]

/-- The reply to the first call over a net, and the net after it. -/
def firstReply (s : Scheduler) (signer : Signer) (scope : ChallengeScope) (net : σ) :
    Except TransportError Json × σ :=
  Net.answer s.connection "get_challenge" (challengeParams signer scope) net

/-- The reply to the second call over a net, and the net after it. -/
def secondReply (s : Scheduler) (signer : Signer) (scope : ChallengeScope)
    (more : List (String × Json)) (challenge : Bytes) (net : σ) : Except TransportError Json × σ :=
  Net.answer s.connection scope.name (s.proofParams signer more challenge) net

/-- What an exchange comes to over a net: the challenge is sent back if there is one. -/
def exchangeOver (s : Scheduler) (signer : Signer) (scope : ChallengeScope)
    (more : List (String × Json)) (net : σ) : Exchange σ :=
  let asked := .called s.connection "get_challenge" (challengeParams signer scope)
  let first := s.firstReply signer scope net
  match readChallenge first.1 with
  | .error e => ⟨[asked], [first.1], .error e, first.2⟩
  | .ok c =>
    let sent := .called s.connection scope.name (s.proofParams signer more c)
    let second := s.secondReply signer scope more c first.2
    ⟨[asked, sent], [first.1, second.1], readReply credentialsAnswer second.1, second.2⟩

variable {s : Scheduler} {signer : Signer} {scope : ChallengeScope}
  {more : List (String × Json)} {net : σ}

theorem exchangeOver_of_error {e : NodeError}
    (h : readChallenge (s.firstReply signer scope net).1 = .error e) :
    s.exchangeOver signer scope more net =
      ⟨[.called s.connection "get_challenge" (challengeParams signer scope)],
        [(s.firstReply signer scope net).1], .error e, (s.firstReply signer scope net).2⟩ := by
  simp only [exchangeOver, h]

theorem exchangeOver_of_ok {c : Bytes}
    (h : readChallenge (s.firstReply signer scope net).1 = .ok c) :
    let second := s.secondReply signer scope more c (s.firstReply signer scope net).2
    s.exchangeOver signer scope more net =
      ⟨[.called s.connection "get_challenge" (challengeParams signer scope),
          .called s.connection scope.name (s.proofParams signer more c)],
        [(s.firstReply signer scope net).1, second.1], readReply credentialsAnswer second.1,
        second.2⟩ := by
  simp only [exchangeOver, h]

theorem outcome_ask {α : Type} (s : Scheduler) (method : String) (params : Json)
    (answer : Decoder α) (w : World σ κ) :
    (s.ask method params answer : Act σ κ NodeError α).outcome w =
      (readReply answer (Net.answer s.connection method [params] w.net).1,
        World.note { w with net := (Net.answer s.connection method [params] w.net).2 }
          (.called s.connection method [params])) := by
  simp only [ask, Act.outcome_bind, Act.outcome_mapError, Act.outcome_call]
  cases (Net.answer s.connection method [params] w.net).1 with
  | error e => rfl
  | ok v => exact Act.outcome_ofExcept _ _

theorem outcome_challenge (s : Scheduler) (signer : Signer) (scope : ChallengeScope)
    (w : World σ κ) :
    (s.challenge signer.nodeId scope : Act σ κ NodeError Bytes).outcome w =
      (readChallenge (s.firstReply signer scope w.net).1,
        World.note { w with net := (s.firstReply signer scope w.net).2 }
          (.called s.connection "get_challenge" (challengeParams signer scope))) := by
  rw [challenge, Act.outcome_bind, outcome_ask, ← challengeParams, ← firstReply, readChallenge]
  cases readReply challengeAnswer (s.firstReply signer scope w.net).1 with
  | error e => rfl
  | ok c =>
    simp only [Act.outcome_ofExcept]
    rfl

/-- **An exchange makes its calls and changes nothing but the net.** -/
theorem outcome_exchange (s : Scheduler) (signer : Signer) (scope : ChallengeScope)
    (doing : String) (more : List (String × Json)) (w : World σ κ) :
    ∃ w', (s.exchange signer scope doing more : Act σ κ NodeError DeviceCredentials).outcome w =
        ((s.exchangeOver signer scope more w.net).result, w') ∧
      w'.net = (s.exchangeOver signer scope more w.net).net ∧ w'.store = w.store ∧
      w'.traffic = w.traffic ++ (s.exchangeOver signer scope more w.net).calls := by
  rw [exchange, Act.outcome_bind, outcome_challenge]
  cases hc : readChallenge (s.firstReply signer scope w.net).1 with
  | error e =>
    rw [exchangeOver_of_error hc]
    exact ⟨_, rfl, rfl, rfl, by simp [Happening.isTraffic]⟩
  | ok c =>
    rw [exchangeOver_of_ok hc]
    simp only [Act.outcome_bind, Act.outcome_log, outcome_ask, World.net_note]
    exact ⟨_, rfl, rfl, rfl, by simp [Happening.isTraffic, proofParams]⟩

/-! ### The calls of an exchange -/

theorem mem_calls {s : Scheduler} {scope : ChallengeScope} {more : List (String × Json)} {net : σ}
    {h : Happening} (hh : h ∈ (s.exchangeOver signer scope more net).calls) :
    h = .called s.connection "get_challenge" (challengeParams signer scope) ∨
      ∃ params, h = .called s.connection scope.name params := by
  cases hc : readChallenge (s.firstReply signer scope net).1 with
  | error e =>
    rw [exchangeOver_of_error hc] at hh
    exact Or.inl (List.mem_singleton.mp hh)
  | ok c =>
    rw [exchangeOver_of_ok hc] at hh
    rcases List.mem_cons.mp hh with hh | hh
    · exact Or.inl hh
    · exact Or.inr ⟨_, List.mem_singleton.mp hh⟩

theorem challenge_mem_calls (s : Scheduler) (scope : ChallengeScope) (more : List (String × Json))
    (net : σ) : .called s.connection "get_challenge" (challengeParams signer scope) ∈
      (s.exchangeOver signer scope more net).calls := by
  cases hc : readChallenge (s.firstReply signer scope net).1 with
  | error e =>
    rw [exchangeOver_of_error hc]
    exact List.mem_singleton_self _
  | ok c =>
    rw [exchangeOver_of_ok hc]
    exact List.mem_cons_self

/-- The scope can be read off what a challenge is asked with. -/
theorem challengeParams_ne (signer : Signer) :
    challengeParams signer .recover ≠ challengeParams signer .register := by
  intro heq
  have hscope := congrArg (fun ps => ps.head?.bind (Json.get? "scope")) heq
  simp [challengeParams, ChallengeScope.name, Json.object, Json.sortFields, Json.get?,
    Json.find?_insert_self] at hscope

theorem called_of_mem {s : Scheduler} {scope : ChallengeScope} {more : List (String × Json)}
    {net : σ} {h : Happening} (hh : h ∈ (s.exchangeOver signer scope more net).calls) :
    ∃ method params, h = .called s.connection method params := by
  rcases mem_calls hh with rfl | ⟨params, rfl⟩
  · exact ⟨_, _, rfl⟩
  · exact ⟨_, _, rfl⟩

/-! ### Exchanges that do not reach the other side -/

/-- Only calls that did not reach the other side are failures for want of a connection. -/
theorem ofTransport_eq_connectivity {e : TransportError} :
    (∃ m, NodeError.ofTransport e = .connectivity m) ↔ e.isConnectivity = true := by
  cases e <;> simp [NodeError.ofTransport, TransportError.isConnectivity]

theorem readReply_eq_connectivity {α : Type} (answer : Decoder α)
    (reply : Except TransportError Json) :
    (∃ m, readReply answer reply = .error (.connectivity m)) ↔
      ∃ e, .error e = reply ∧ e.isConnectivity = true := by
  cases reply with
  | error e => simp [readReply, ← ofTransport_eq_connectivity]
  | ok v =>
    rw [readReply]
    constructor
    · rintro ⟨m, hm⟩
      cases hd : decode answer v <;> rw [hd] at hm <;> cases hm
    · rintro ⟨e, he, -⟩
      cases he

theorem readChallenge_eq_connectivity (reply : Except TransportError Json) :
    (∃ m, readChallenge reply = .error (.connectivity m)) ↔
      ∃ e, .error e = reply ∧ e.isConnectivity = true := by
  have hread := readReply_eq_connectivity challengeAnswer reply
  rw [← hread, readChallenge]
  cases readReply challengeAnswer reply with
  | error e => simp [bind, Except.bind]
  | ok c =>
    constructor
    · rintro ⟨m, hm⟩
      simp only [bind, Except.bind] at hm
      cases hc : Hex.decode c <;> rw [hc] at hm <;> cases hm
    · rintro ⟨m, hm⟩
      cases hm

/-- What the second call answers is a challenge, so the first call reached the other side. -/
theorem isOk_of_readChallenge {reply : Except TransportError Json} {c : Bytes}
    (h : readChallenge reply = .ok c) : ∃ v, reply = .ok v := by
  cases reply with
  | error e => cases h
  | ok v => exact ⟨v, rfl⟩

/-- **An exchange fails for want of a connection just if a call did not reach the other side.** -/
theorem result_eq_connectivity (s : Scheduler) (signer : Signer) (scope : ChallengeScope)
    (more : List (String × Json)) (net : σ) :
    (∃ m, (s.exchangeOver signer scope more net).result = .error (.connectivity m)) ↔
      (s.exchangeOver signer scope more net).Unreached := by
  unfold Exchange.Unreached
  cases hc : readChallenge (s.firstReply signer scope net).1 with
  | error e =>
    have hread := readChallenge_eq_connectivity (s.firstReply signer scope net).1
    rw [exchangeOver_of_error hc]
    simpa only [hc, Except.error.injEq, List.mem_singleton] using hread
  | ok c =>
    obtain ⟨v, hv⟩ := isOk_of_readChallenge hc
    rw [exchangeOver_of_ok hc]
    dsimp only
    rw [readReply_eq_connectivity, hv]
    simp only [List.mem_cons, List.not_mem_nil, or_false, reduceCtorEq, false_or]

end Scheduler

end HostedNode

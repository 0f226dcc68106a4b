import HostedNode.Proofs.Json.Fields
import HostedNode.Proofs.Key.Signer
import HostedNode.Proofs.Provider.Precedence
import HostedNode.Proofs.Text.Hex

/-! # Proofs of ownership

Registering and recovering prove to the scheduler that a node is one's own: the scheduler gives a
challenge, and it is sent back signed. `Scheduler.Proves` says what is sent back, field by field,
and `Scheduler.Proven` what an exchange is: nothing is sent back but to a reply that has a challenge,
which is an even number of hexadecimal digits, and what is signed are the bytes that these digits
denote. An exchange rests on the replies to its own calls alone, so that of two exchanges in a row
each answers its own challenge (`Scheduler.ownership_exchange`). -/

namespace HostedNode.Scheduler

open Json Rpc Text

/-! ### Challenges -/

/-- The reply has a challenge: a text of an even number of digits. -/
def HasChallenge (reply : Except TransportError Json) : Prop :=
  ∃ text, readReply challengeAnswer reply = .ok text ∧ text.length % 2 = 0 ∧
    ∀ c ∈ text.toList, Hex.IsDigit c

/-- The text of the challenge in a reply, and the bytes that it denotes. -/
structure Challenges (reply : Except TransportError Json) (text : String) (bytes : Bytes) :
    Prop where
  read : readReply challengeAnswer reply = .ok text
  denotes : Hex.Denotes text.toList bytes

theorem hasChallenge_iff {reply : Except TransportError Json} :
    HasChallenge reply ↔ ∃ text bytes, Challenges reply text bytes := by
  constructor
  · rintro ⟨text, hread, hlength, hdigits⟩
    rw [← String.length_toList] at hlength
    obtain ⟨bytes, hbytes⟩ := Hex.exists_denotes_iff.mpr ⟨hlength, hdigits⟩
    exact ⟨text, bytes, hread, hbytes⟩
  · rintro ⟨text, bytes, hread, hbytes⟩
    obtain ⟨hlength, hdigits⟩ := Hex.exists_denotes_iff.mp ⟨bytes, hbytes⟩
    rw [String.length_toList] at hlength
    exact ⟨text, hread, hlength, hdigits⟩

/-- The bytes of a challenge are those that its text denotes. -/
theorem readChallenge_eq_ok_iff {reply : Except TransportError Json} {bytes : Bytes} :
    readChallenge reply = .ok bytes ↔ ∃ text, Challenges reply text bytes := by
  unfold readChallenge
  constructor
  · intro h
    obtain ⟨text, hread, hdecode⟩ := bind_eq_ok.mp h
    exact ⟨text, hread, Hex.decode_eq_ok_iff.mp (mapError_eq_ok.mp hdecode)⟩
  · rintro ⟨text, hread, hbytes⟩
    exact bind_eq_ok.mpr ⟨text, hread, mapError_eq_ok.mpr (Hex.decode_eq_ok_iff.mpr hbytes)⟩

theorem readChallenge_of_not_hasChallenge {reply : Except TransportError Json}
    (h : ¬ HasChallenge reply) : ∃ e, readChallenge reply = .error e := by
  cases hr : readChallenge reply with
  | error e => exact ⟨e, rfl⟩
  | ok bytes =>
    obtain ⟨text, htext⟩ := readChallenge_eq_ok_iff.mp hr
    exact absurd (hasChallenge_iff.mpr ⟨text, bytes, htext⟩) h

/-! ### What is sent -/

/-- What a challenge is asked with. -/
structure Asks (signer : Signer) (scope : ChallengeScope) (fields : List (String × Json)) :
    Prop where
  nodeId : find? "node_id" fields = some (.str signer.nodeId)
  scope : find? "scope" fields = some (.str scope.name)
  others : ∀ name, name ∉ ["node_id", "scope"] → find? name fields = none

/-- What a challenge is sent back with. -/
structure Proves (s : Scheduler) (signer : Signer) (r : Registration) (text : String)
    (bytes : Bytes) (fields : List (String × Json)) : Prop where
  nodeId : find? "node_id" fields = some (.str signer.nodeId)
  network : find? "network" fields = some (.str s.network.name)
  challenge : find? "challenge" fields = some (.str (lower text))
  signature : find? "signature" fields =
    some (.str (Hex.encode (Curve.sign signer.secret (Hash.sha256 bytes)).compact))
  inviteCode : find? "invite_code" fields = r.inviteCode.map .str
  partnerCert : find? "partner_cert" fields =
    r.partner.map fun p => .str (Utf8.decodeLossy p.cert)
  partnerKey : find? "partner_key" fields = r.partner.map fun p => .str (Utf8.decodeLossy p.key)
  others : ∀ name, name ∉ ["node_id", "network", "challenge", "signature", "invite_code",
    "partner_cert", "partner_key"] → find? name fields = none

theorem asks_challengeParams (signer : Signer) (scope : ChallengeScope) :
    ∃ fields, challengeParams signer scope = [.obj fields] ∧ Asks signer scope fields := by
  refine ⟨_, rfl, ?_⟩
  constructor
  case nodeId => simp [find?_sortFields, find?]
  case scope => simp [find?_sortFields, find?]
  case others =>
    intro name hname
    simp only [List.mem_cons, List.not_mem_nil, or_false, not_or] at hname
    simp [find?_sortFields, find?, Ne.symm hname.1, Ne.symm hname.2]

theorem proves_proofParams (s : Scheduler) (signer : Signer) (r : Registration) {text : String}
    {bytes : Bytes} (h : Hex.Denotes text.toList bytes) :
    ∃ fields, s.proofParams signer (entitlement r) bytes = [.obj fields] ∧
      Proves s signer r text bytes fields := by
  have hproof : s.proof signer bytes =
      [("node_id", .str signer.nodeId), ("network", .str s.network.name),
        ("challenge", .str (lower text)), ("signature", .str (signer.signChallenge bytes))] := by
    rw [proof, Hex.encode_of_denotes h]
  have hmore : (entitlement r).reverse =
      (r.partner.map fun p => [("partner_key", Json.str (Utf8.decodeLossy p.key)),
        ("partner_cert", Json.str (Utf8.decodeLossy p.cert))]).getD [] ++
      (r.inviteCode.map fun c => [("invite_code", Json.str c)]).getD [] := by
    unfold entitlement
    cases r.partner <;> cases r.inviteCode <;> rfl
  have hfields : ∀ name, find? name (sortFields (s.proof signer bytes ++ entitlement r)) =
      find? name ((entitlement r).reverse ++
        [("signature", .str (signer.signChallenge bytes)), ("challenge", .str (lower text)),
          ("network", .str s.network.name), ("node_id", .str signer.nodeId)]) := by
    intro name
    rw [find?_sortFields, List.reverse_append, hproof]
    rfl
  refine ⟨_, rfl, ?_⟩
  rw [hmore] at hfields
  constructor
  case others =>
    intro name hname
    simp only [List.mem_cons, List.not_mem_nil, or_false, not_or] at hname
    obtain ⟨h1, h2, h3, h4, h5, h6, h7⟩ := hname
    rw [hfields]
    cases r.partner <;> cases r.inviteCode <;>
      simp [find?, Ne.symm h1, Ne.symm h2, Ne.symm h3, Ne.symm h4, Ne.symm h5, Ne.symm h6,
        Ne.symm h7]
  all_goals
    rw [hfields]
    cases r.partner <;> cases r.inviteCode <;> simp [find?, Signer.signChallenge]

/-! ### What is answered -/

/-- An answer with the texts of a certificate and a key, under their names or in this order. -/
def Carries (answer : Json) (cert key : String) : Prop :=
  (∃ fields, answer = .obj fields ∧ find? "device_cert" fields = some (.str cert) ∧
    find? "device_key" fields = some (.str key)) ∨ answer = .arr [.str cert, .str key]

/-- Credentials are the bytes of the two texts in the answer that they are read from. -/
theorem carries_of_decode {answer : Json} {c : DeviceCredentials}
    (h : decode credentialsAnswer answer = .ok c) :
    ∃ cert key, Carries answer cert key ∧ c.cert = Utf8.encode cert ∧ c.key = Utf8.encode key := by
  rcases RecordReader.record_cases h with ⟨fields, rfl, hread⟩ | ⟨items, short, rfl, hread⟩
  · obtain ⟨make, key, hmake, hkey, rfl⟩ := RecordReader.ofFields_seq hread
    obtain ⟨start, cert, hstart, hcert, rfl⟩ := RecordReader.ofFields_seq hmake
    obtain rfl := Except.ok.inj hstart
    obtain ⟨v, hv, hcert'⟩ := RecordReader.ofFields_required hcert
    obtain ⟨u, hu, hkey'⟩ := RecordReader.ofFields_required hkey
    obtain rfl := Decoder.eq_str_of_run_string hcert'
    obtain rfl := Decoder.eq_str_of_run_string hkey'
    exact ⟨cert, key, Or.inl ⟨fields, rfl, hv, hu⟩, rfl, rfl⟩
  · obtain ⟨make, more, key, hmake, hkey, rfl⟩ := RecordReader.ofItems_seq_ok hread
    obtain ⟨start, items', cert, hstart, hcert, rfl⟩ := RecordReader.ofItems_seq_ok hmake
    obtain ⟨rfl, rfl⟩ := Prod.mk.inj (Except.ok.inj hstart)
    obtain ⟨v, rfl, hcert'⟩ := RecordReader.ofItems_required hcert
    obtain ⟨u, rfl, hkey'⟩ := RecordReader.ofItems_required hkey
    obtain rfl := Decoder.eq_str_of_run_string hcert'
    obtain rfl := Decoder.eq_str_of_run_string hkey'
    exact ⟨cert, key, Or.inr rfl, rfl, rfl⟩

/-! ### Exchanges -/

/-- An exchange over a net: a challenge is asked for, and sent back if there is one. -/
structure Proven {σ : Type} [Net σ] (s : Scheduler) (signer : Signer) (scope : ChallengeScope)
    (r : Registration) (net : σ) (x : Exchange σ) : Prop where
  asks : ∃ fields, challengeParams signer scope = [.obj fields] ∧ Asks signer scope fields
  bounded : x.calls.length ≤ 2
  sends : x.calls.length = 2 ↔ HasChallenge (s.firstReply signer scope net).1
  refused : ¬ HasChallenge (s.firstReply signer scope net).1 →
    x.calls = [.called s.connection "get_challenge" (challengeParams signer scope)] ∧
      (∃ e, x.result = .error e) ∧ x.net = (s.firstReply signer scope net).2
  answered : ∀ text bytes, Challenges (s.firstReply signer scope net).1 text bytes →
    ∃ fields, Proves s signer r text bytes fields ∧
      x.calls = [.called s.connection "get_challenge" (challengeParams signer scope),
        .called s.connection scope.name [.obj fields]] ∧
      let second := Net.answer s.connection scope.name [.obj fields]
        (s.firstReply signer scope net).2
      x.net = second.2 ∧ x.result = readReply credentialsAnswer second.1 ∧
        ∀ c, x.result = .ok c → ∃ answer cert key, second.1 = .ok answer ∧
          Carries answer cert key ∧ c.cert = Utf8.encode cert ∧ c.key = Utf8.encode key

theorem proven_exchangeOver {σ : Type} [Net σ] (s : Scheduler) (signer : Signer)
    (scope : ChallengeScope) (r : Registration) (net : σ) :
    Proven s signer scope r net (s.exchangeOver signer scope (entitlement r) net) := by
  by_cases hc : HasChallenge (s.firstReply signer scope net).1
  · obtain ⟨text, bytes, htext⟩ := hasChallenge_iff.mp hc
    have hread := readChallenge_eq_ok_iff.mpr ⟨text, htext⟩
    rw [exchangeOver_of_ok hread]
    refine ⟨asks_challengeParams signer scope, Nat.le_refl 2, iff_of_true rfl hc,
      fun h => absurd hc h, fun text' bytes' htext' => ?_⟩
    have hsame : bytes' = bytes := by
      have hread' := readChallenge_eq_ok_iff.mpr ⟨text', htext'⟩
      rw [hread] at hread'
      exact (Except.ok.inj hread').symm
    obtain ⟨fields, hparams, hproves⟩ := proves_proofParams s signer r htext'.denotes
    rw [hsame] at hparams
    unfold secondReply
    rw [hparams]
    refine ⟨fields, hproves, rfl, rfl, rfl, fun c hresult => ?_⟩
    dsimp only at hresult
    cases hreply : (Net.answer s.connection scope.name [.obj fields]
      (s.firstReply signer scope net).2).1 with
    | error e =>
      rw [hreply] at hresult
      cases hresult
    | ok answer =>
      rw [hreply] at hresult
      have hdecode : decode credentialsAnswer answer = .ok c := mapError_eq_ok.mp hresult
      obtain ⟨cert, key, hcarries, hbytes⟩ := carries_of_decode hdecode
      exact ⟨answer, cert, key, rfl, hcarries, hbytes⟩
  · obtain ⟨e, he⟩ := readChallenge_of_not_hasChallenge hc
    rw [exchangeOver_of_error he]
    refine ⟨asks_challengeParams signer scope, Nat.le_succ 1,
      iff_of_false (by simp) hc, fun _ => ⟨rfl, ⟨e, rfl⟩, rfl⟩, fun text bytes htext => ?_⟩
    exact absurd (hasChallenge_iff.mpr ⟨text, bytes, htext⟩) hc

/-- A step made the calls of an exchange and has its result, and nothing but the net has changed. -/
structure Makes {σ κ : Type} (x : Exchange σ) (w : World σ κ)
    (out : Except NodeError DeviceCredentials × World σ κ) : Prop where
  result : out.1 = x.result
  net : out.2.net = x.net
  store : out.2.store = w.store
  traffic : out.2.traffic = w.traffic ++ x.calls

theorem makes_exchange {σ κ : Type} [Net σ] (s : Scheduler) (signer : Signer)
    (scope : ChallengeScope) (doing : String) (r : Registration) (w : World σ κ) :
    ∃ x, Proven s signer scope r w.net x ∧
      Makes x w ((s.exchange signer scope doing (entitlement r)).outcome w) := by
  obtain ⟨w', hout, hnet, hstore, htraffic⟩ :=
    s.outcome_exchange signer scope doing (entitlement r) w
  rw [hout]
  exact ⟨_, proven_exchangeOver s signer scope r w.net, rfl, hnet, hstore, htraffic⟩

/-- What entitles to nothing: recovering takes no more than the proof. -/
def unentitled : Registration := ⟨none, none⟩

end HostedNode.Scheduler

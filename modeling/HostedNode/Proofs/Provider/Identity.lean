import HostedNode.Proofs.Provider.Contacts
import HostedNode.Proofs.Provider.Resolution
import HostedNode.Proofs.World.Keeps

/-! # A node is that of its signer

The signer of a node is the one of the seed that it was connected with, and starting keeps it. A
state that is pulled has the node id of the signer (`Node.id_of_pull`): if the node that answers
reports another id, pulling fails (`Node.pull_of_foreign`). -/

namespace HostedNode.Node

open Act Json Rpc

variable {σ κ : Type} [Net σ]

/-! ### The signer -/

/-- A node that was connected to is not started, and all else is as the configuration says. -/
theorem node_of_connect [CredentialStore κ] {config : Config} {seed : Bytes} {n : Node}
    {w w' : World σ κ}
    (h : (connect config seed : Act σ κ NodeError Node).outcome w = (.ok n, w')) :
    Signer.ofSeed seed = .ok n.signer ∧ n = withCredentials config n.signer n.credentials := by
  cases hs : Signer.ofSeed seed with
  | error e =>
    rw [connect_of_noSigner hs] at h
    cases (Prod.mk.inj h).1
  | ok signer =>
    obtain ⟨-, hends⟩ := outcome_connect config hs w
    rw [h] at hends
    cases hr : (courseOver config signer w).result with
    | error e =>
      rw [hr] at hends
      cases hends.1
    | ok c =>
      rw [hr] at hends
      have hnode := hends.1
      cases hk : (keepingOf signer c w.store).1 with
      | error e =>
        rw [hk] at hnode
        cases hnode
      | ok u =>
        rw [hk] at hnode
        obtain rfl := Except.ok.inj hnode
        exact ⟨rfl, rfl⟩

theorem signer_of_connect [CredentialStore κ] {config : Config} {seed : Bytes} {n : Node}
    {w w' : World σ κ}
    (h : (connect config seed : Act σ κ NodeError Node).outcome w = (.ok n, w')) :
    Signer.ofSeed seed = .ok n.signer := (node_of_connect h).1

theorem signer_of_start {n n' : Node} {w w' : World σ κ}
    (h : (n.start : Act σ κ NodeError Node).outcome w = (.ok n', w')) : n'.signer = n.signer := by
  unfold start at h
  obtain ⟨uri, _, -, h⟩ := outcome_bind_ok h
  obtain ⟨_, _, -, h⟩ := outcome_bind_ok h
  obtain ⟨_, _, -, h⟩ := outcome_bind_ok h
  obtain rfl := Except.ok.inj (Prod.mk.inj h).1
  rfl

/-! ### The id in a state -/

/-- The id is looked at before the other answers. -/
theorem stateOf_of_foreign {n : Node} {info : NodeInfo} (hid : info.id ≠ n.signer.nodeId)
    (outputs : Except NodeError (List Output)) (peers : Except NodeError (List Peer))
    (channels : Except NodeError (List Channel)) :
    n.stateOf (.ok info) outputs peers channels = .error (.credentials
      ("scheduled node reports id " ++ info.id ++ ", expected " ++ n.signer.nodeId)) := by
  simp only [stateOf, bind, Except.bind, if_pos hid]
  rfl

theorem id_of_stateOf {n : Node} {info : Except NodeError NodeInfo}
    {outputs : Except NodeError (List Output)} {peers : Except NodeError (List Peer)}
    {channels : Except NodeError (List Channel)} {s : NodeState}
    (h : n.stateOf info outputs peers channels = .ok s) : s.id = n.signer.nodeId := by
  cases info with
  | error e => cases h
  | ok info =>
    by_cases hid : info.id = n.signer.nodeId
    · simp only [stateOf, bind, Except.bind, if_neg (not_not_intro hid)] at h
      cases outputs with
      | error e => cases h
      | ok outputs =>
        cases peers with
        | error e => cases h
        | ok peers =>
          cases channels with
          | error e => cases h
          | ok channels =>
            obtain rfl := Except.ok.inj h
            exact hid
    · rw [stateOf_of_foreign hid] at h
      cases h

/-- **A state that is pulled is one of the node of the signer.** -/
theorem id_of_pull {n : Node} {s : NodeState} {w w' : World σ κ}
    (h : (n.pull : Act σ κ NodeError NodeState).outcome w = (.ok s, w')) :
    s.id = n.signer.nodeId := by
  unfold pull at h
  obtain ⟨c, _, -, h⟩ := outcome_bind_ok h
  obtain ⟨_, _, -, h⟩ := outcome_bind_ok h
  obtain ⟨info, _, -, h⟩ := outcome_bind_ok h
  obtain ⟨outputs, _, -, h⟩ := outcome_bind_ok h
  obtain ⟨peers, _, -, h⟩ := outcome_bind_ok h
  obtain ⟨channels, _, -, h⟩ := outcome_bind_ok h
  rw [outcome_ofExcept] at h
  exact id_of_stateOf (Prod.mk.inj h).1

/-! ### Other nodes -/

/-- What the other end of a connection answers, as it is read. -/
def replyOf {α : Type} (c : Connection) (method : String) (answer : Decoder α) (net : σ) :
    Except NodeError α :=
  match (Net.answer c method [] net).1 with
  | .ok v => (decode answer v).mapError fun e => .invalidResponse (method ++ ": " ++ e.message)
  | .error e => .error (.ofTransport e)

/-- What the node at the other end of a connection says about itself. -/
def reported (c : Connection) (net : σ) : Except NodeError NodeInfo :=
  replyOf c "getinfo" NodeInfo.answer net

/-- The world after a question over a connection. -/
def askedOver (c : Connection) (method : String) (w : World σ κ) : World σ κ :=
  World.note { w with net := (Net.answer c method [] w.net).2 } (.called c method [])

theorem outcome_ask {α : Type} (c : Connection) (method : String) (answer : Decoder α)
    (w : World σ κ) :
    (ask c method answer : Act σ κ NodeError (Except NodeError α)).outcome w =
      (.ok (replyOf c method answer w.net), askedOver c method w) := by
  rw [ask, outcome_attempt, outcome_bind, outcome_mapError, outcome_call, replyOf, askedOver]
  cases (Net.answer c method [] w.net).1 with
  | error e => rfl
  | ok v =>
    simp only [Except.mapError]
    rw [outcome_ofExcept]

/-- The world after the four questions for the state, which are all put whatever is answered. -/
def pulledOver (c : Connection) (w : World σ κ) : World σ κ :=
  let line := "pulling node state from " ++ c.address
  askedOver c "listpeerchannels" (askedOver c "listpeers" (askedOver c "listfunds"
    (askedOver c "getinfo" (w.note (.logged (.of .debug line))))))

/-- The nets before each of the questions for the state but the first. -/
def netAfter (c : Connection) (methods : List String) (net : σ) : σ :=
  methods.foldl (fun net method => (Net.answer c method [] net).2) net

/-- **The state is made of the answers to four questions.** -/
theorem outcome_pull {n : Node} {c : Connection} (hl : n.link = some c) (w : World σ κ) :
    (n.pull : Act σ κ NodeError NodeState).outcome w =
      (n.stateOf (replyOf c "getinfo" NodeInfo.answer w.net)
        (replyOf c "listfunds" Output.listAnswer (netAfter c ["getinfo"] w.net))
        (replyOf c "listpeers" Peer.listAnswer (netAfter c ["getinfo", "listfunds"] w.net))
        (replyOf c "listpeerchannels" Channel.listAnswer
          (netAfter c ["getinfo", "listfunds", "listpeers"] w.net)), pulledOver c w) := by
  rw [pull, outcome_bind, outcome_ofExcept, started_of_link hl]
  simp only [outcome_bind, outcome_log, outcome_ask, outcome_ofExcept]
  rfl

/-- **Another node is refused.** If the node that is asked reports another id than that of the
signer, pulling fails, whatever the other answers are. -/
theorem pull_of_foreign {n : Node} {c : Connection} (hl : n.link = some c) {info : NodeInfo}
    (w : World σ κ) (h : reported c w.net = .ok info) (hid : info.id ≠ n.signer.nodeId) :
    ∃ w', (n.pull : Act σ κ NodeError NodeState).outcome w =
      (.error (.credentials
        ("scheduled node reports id " ++ info.id ++ ", expected " ++ n.signer.nodeId)), w') := by
  have hreply : replyOf c "getinfo" NodeInfo.answer w.net = .ok info := h
  rw [outcome_pull hl, hreply, stateOf_of_foreign hid]
  exact ⟨_, rfl⟩

end HostedNode.Node

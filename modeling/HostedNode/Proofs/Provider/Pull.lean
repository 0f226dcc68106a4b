import HostedNode.Proofs.Provider.Answers
import HostedNode.Proofs.Provider.Command

/-! # Asking a node for its state

A started node is asked four questions for its state, all of them whatever it replies. If all
replies are answers (`Tells`) and the node is the right one, they make the state; if not, the first
fault in a fixed order is the failure (`FirstFault`), which tells how the reply failed (`Failed`).
Nothing else comes of it (`Node.pull_outcome`). -/

namespace HostedNode

open Act Json Rpc

/-! ### Replies -/

/-- A failed call is this failure: the other side was not reached, what it replied is unusable, or
something else went wrong. -/
inductive Converted : TransportError → NodeError → Prop where
  | http (m : String) : Converted (.http m) (.connectivity ("HTTP transport error: " ++ m))
  | timeout (d : Decimal.Duration) :
    Converted (.timeout d) (.connectivity ("Request timed out after " ++ d.text))
  | serialization (m : String) :
    Converted (.serialization m) (.invalidResponse ("Serialization error: " ++ m))
  | invalidFormat (m : String) :
    Converted (.invalidFormat m) (.invalidResponse ("Invalid response format: " ++ m))
  | rpc (m : String) : Converted (.rpc m) (.generic ("RPC error: " ++ m))
  | other (m : String) : Converted (.other m) (.generic ("Other error: " ++ m))

theorem converted_iff {e : TransportError} {f : NodeError} :
    Converted e f ↔ f = .ofTransport e := by
  constructor
  · rintro ⟨⟩ <;> rfl
  · rintro rfl
    cases e with
    | http m => exact .http m
    | timeout d => exact .timeout d
    | serialization m => exact .serialization m
    | rpc m => exact .rpc m
    | invalidFormat m => exact .invalidFormat m
    | other m => exact .other m

section

variable {α : Type}

/-- The reply is an answer that tells this. -/
def Tells (P : Json → α → Prop) (reply : Except TransportError Json) (a : α) : Prop :=
  ∃ v, reply = .ok v ∧ P v a

/-- The reply to a question is none that can be read. -/
inductive Failed (method : String) (answer : Decoder α) :
    Except TransportError Json → NodeError → Prop where
  | unanswered {e : TransportError} {f : NodeError} (h : Converted e f) :
    Failed method answer (.error e) f
  | undecodable {v : Json} {fault : DecodeError} (h : decode answer v = .error fault) :
    Failed method answer (.ok v) (.invalidResponse (method ++ ": " ++ fault.message))

end

namespace Node

variable {σ κ : Type} [Net σ]

theorem replyOf_eq_ok_iff {α : Type} {c : Connection} {method : String} {answer : Decoder α}
    {P : Json → α → Prop} (hreads : answer.Reads P) {net : σ} {a : α} :
    replyOf c method answer net = .ok a ↔ Tells P (Net.answer c method [] net).1 a := by
  unfold replyOf Tells
  cases (Net.answer c method [] net).1 with
  | error e => exact ⟨nofun, nofun⟩
  | ok v =>
    dsimp only
    rw [mapError_eq_ok, decode, hreads]
    simp

theorem replyOf_eq_error_iff {α : Type} {c : Connection} {method : String} {answer : Decoder α}
    {net : σ} {f : NodeError} :
    replyOf c method answer net = .error f ↔
      Failed method answer (Net.answer c method [] net).1 f := by
  unfold replyOf
  cases (Net.answer c method [] net).1 with
  | error e =>
    constructor
    · intro h
      exact .unanswered (converted_iff.mpr (Except.error.inj h).symm)
    · rintro ⟨h⟩
      rw [converted_iff.mp h]
  | ok v =>
    dsimp only
    constructor
    · intro h
      cases hd : decode answer v with
      | ok a =>
        rw [hd] at h
        cases h
      | error fault =>
        rw [hd] at h
        obtain rfl := Except.error.inj h
        exact .undecodable hd
    · rintro (_ | h)
      rw [h]
      rfl

/-! ### The state -/

/-- The replies to the questions for the state. -/
structure Replies where
  info : Except TransportError Json
  outputs : Except TransportError Json
  peers : Except TransportError Json
  channels : Except TransportError Json

/-- The replies of a net to the questions for the state, one after the other. -/
def repliesOver (c : Connection) (net : σ) : Replies where
  info := (Net.answer c "getinfo" [] net).1
  outputs := (Net.answer c "listfunds" [] (netAfter c ["getinfo"] net)).1
  peers := (Net.answer c "listpeers" [] (netAfter c ["getinfo", "listfunds"] net)).1
  channels := (Net.answer c "listpeerchannels" []
    (netAfter c ["getinfo", "listfunds", "listpeers"] net)).1

/-- The replies are the answers of the right node, and make this state. -/
structure Makes (n : Node) (r : Replies) (s : NodeState) : Prop where
  answers : ∃ info outputs peers channels, Tells NodeInfo.Told r.info info ∧
    Tells (ListTold Output.Told "outputs") r.outputs outputs ∧
    Tells (ListTold Peer.Told "peers") r.peers peers ∧
    Tells (ListTold Channel.Told "channels") r.channels channels ∧
    info.id = n.signer.nodeId ∧ s = .ofReport info outputs peers channels

/-- The first fault of the replies. -/
inductive FirstFault (n : Node) (r : Replies) : NodeError → Prop where
  | info {e : NodeError} (h : Failed "getinfo" NodeInfo.answer r.info e) : FirstFault n r e
  | foreign {info : NodeInfo} (hinfo : Tells NodeInfo.Told r.info info)
    (hid : info.id ≠ n.signer.nodeId) :
    FirstFault n r (.credentials
      ("scheduled node reports id " ++ info.id ++ ", expected " ++ n.signer.nodeId))
  | outputs {info : NodeInfo} {e : NodeError} (hinfo : Tells NodeInfo.Told r.info info)
    (hid : info.id = n.signer.nodeId) (h : Failed "listfunds" Output.listAnswer r.outputs e) :
    FirstFault n r e
  | peers {info : NodeInfo} {outputs : List Output} {e : NodeError}
    (hinfo : Tells NodeInfo.Told r.info info) (hid : info.id = n.signer.nodeId)
    (houtputs : Tells (ListTold Output.Told "outputs") r.outputs outputs)
    (h : Failed "listpeers" Peer.listAnswer r.peers e) : FirstFault n r e
  | channels {info : NodeInfo} {outputs : List Output} {peers : List Peer} {e : NodeError}
    (hinfo : Tells NodeInfo.Told r.info info) (hid : info.id = n.signer.nodeId)
    (houtputs : Tells (ListTold Output.Told "outputs") r.outputs outputs)
    (hpeers : Tells (ListTold Peer.Told "peers") r.peers peers)
    (h : Failed "listpeerchannels" Channel.listAnswer r.channels e) : FirstFault n r e

section

variable {n : Node} {info : Except NodeError NodeInfo} {outputs : Except NodeError (List Output)}
  {peers : Except NodeError (List Peer)} {channels : Except NodeError (List Channel)}

theorem stateOf_of_own {i : NodeInfo} (hid : i.id = n.signer.nodeId) :
    n.stateOf (.ok i) outputs peers channels = do
      return .ofReport i (← outputs) (← peers) (← channels) := by
  simp only [stateOf, bind, Except.bind, if_neg (not_not_intro hid)]

theorem stateOf_eq_ok_iff {s : NodeState} :
    n.stateOf info outputs peers channels = .ok s ↔
      ∃ i os ps cs, info = .ok i ∧ outputs = .ok os ∧ peers = .ok ps ∧ channels = .ok cs ∧
        i.id = n.signer.nodeId ∧ s = .ofReport i os ps cs := by
  constructor
  · intro h
    cases info with
    | error e => cases h
    | ok i =>
      by_cases hid : i.id = n.signer.nodeId
      · rw [stateOf_of_own hid] at h
        obtain ⟨os, hos, h⟩ := bind_eq_ok.mp h
        obtain ⟨ps, hps, h⟩ := bind_eq_ok.mp h
        obtain ⟨cs, hcs, h⟩ := bind_eq_ok.mp h
        exact ⟨i, os, ps, cs, rfl, hos, hps, hcs, hid, (Except.ok.inj h).symm⟩
      · rw [stateOf_of_foreign hid] at h
        cases h
  · rintro ⟨i, os, ps, cs, rfl, rfl, rfl, rfl, hid, rfl⟩
    rw [stateOf_of_own hid]
    rfl

/-- The failure is that of the first result that is one. -/
theorem stateOf_eq_error_iff {e : NodeError} :
    n.stateOf info outputs peers channels = .error e ↔
      info = .error e ∨ ∃ i, info = .ok i ∧
        ((i.id ≠ n.signer.nodeId ∧ e = .credentials
          ("scheduled node reports id " ++ i.id ++ ", expected " ++ n.signer.nodeId)) ∨
        i.id = n.signer.nodeId ∧ (outputs = .error e ∨ ∃ os, outputs = .ok os ∧
          (peers = .error e ∨ ∃ ps, peers = .ok ps ∧ channels = .error e))) := by
  cases info with
  | error f => simp [stateOf, bind, Except.bind]
  | ok i =>
    by_cases hid : i.id = n.signer.nodeId
    · rw [stateOf_of_own hid]
      cases outputs with
      | error f => simp [hid, bind, Except.bind]
      | ok os =>
        cases peers with
        | error f => simp [hid, bind, Except.bind]
        | ok ps =>
          cases channels with
          | error f => simp [hid, bind, Except.bind]
          | ok cs => simp [hid, bind, Except.bind, pure, Except.pure]
    · rw [stateOf_of_foreign hid]
      simp [hid, eq_comm]

end

/-- What asking for the state comes to. -/
structure Pulled (n : Node) (c : Connection) (w : World σ κ) (result : Except NodeError NodeState)
    (after : World σ κ) : Prop where
  sent : after.traffic = w.traffic ++ [.called c "getinfo" [], .called c "listfunds" [],
    .called c "listpeers" [], .called c "listpeerchannels" []]
  /-- Neither the store nor the events are touched. -/
  apart : after.store = w.store ∧ after.events = w.events
  ok_iff : ∀ s, result = .ok s ↔ Makes n (repliesOver c w.net) s
  error_iff : ∀ e, result = .error e ↔ FirstFault n (repliesOver c w.net) e

theorem traffic_askedOver (c : Connection) (method : String) (w : World σ κ) :
    (askedOver c method w).traffic = w.traffic ++ [.called c method []] := by
  simp [askedOver, Happening.isTraffic]

theorem events_askedOver (c : Connection) (method : String) (w : World σ κ) :
    (askedOver c method w).events = w.events := by
  simp [askedOver, Happening.event?]

/-- **Asking for the state.** A node that is started is asked the four questions, once each and in
this order, whatever it replies. The state is made of the replies just if all of them are answers
and those of the right node; the failure is the first fault of them. -/
theorem pull_outcome {n : Node} {c : Connection} (hl : n.link = some c) (w : World σ κ) :
    Pulled n c w ((n.pull : Act σ κ NodeError NodeState).outcome w).1
      ((n.pull : Act σ κ NodeError NodeState).outcome w).2 := by
  rw [outcome_pull hl]
  refine ⟨?_, ⟨rfl, ?_⟩, fun s => ?_, fun e => ?_⟩
  · simp [pulledOver, traffic_askedOver, Happening.isTraffic]
  · simp [pulledOver, events_askedOver, Happening.event?]
  · rw [stateOf_eq_ok_iff]
    simp only [replyOf_eq_ok_iff NodeInfo.reads_answer, replyOf_eq_ok_iff Output.reads_listAnswer,
      replyOf_eq_ok_iff Peer.reads_listAnswer, replyOf_eq_ok_iff Channel.reads_listAnswer]
    exact ⟨fun h => ⟨h⟩, fun h => h.answers⟩
  · rw [stateOf_eq_error_iff]
    simp only [replyOf_eq_ok_iff NodeInfo.reads_answer, replyOf_eq_ok_iff Output.reads_listAnswer,
      replyOf_eq_ok_iff Peer.reads_listAnswer, replyOf_eq_error_iff]
    constructor
    · rintro (h | ⟨i, hi, ⟨hid, rfl⟩ | ⟨hid, h | ⟨os, hos, h | ⟨ps, hps, h⟩⟩⟩⟩)
      · exact .info h
      · exact .foreign hi hid
      · exact .outputs hi hid h
      · exact .peers hi hid hos h
      · exact .channels hi hid hos hps h
    · rintro (h | ⟨hi, hid⟩ | ⟨hi, hid, h⟩ | ⟨hi, hid, hos, h⟩ | ⟨hi, hid, hos, hps, h⟩)
      · exact Or.inl h
      · exact Or.inr ⟨_, hi, Or.inl ⟨hid, rfl⟩⟩
      · exact Or.inr ⟨_, hi, Or.inr ⟨hid, Or.inl h⟩⟩
      · exact Or.inr ⟨_, hi, Or.inr ⟨hid, Or.inr ⟨_, hos, Or.inl h⟩⟩⟩
      · exact Or.inr ⟨_, hi, Or.inr ⟨hid, Or.inr ⟨_, hos, Or.inr ⟨_, hps, h⟩⟩⟩⟩

/-- A world in which a node tells about itself in an array, tells of no outputs, and is not reached
from then on. -/
def leavingWorld : World Script Unit :=
  ⟨[("https://node", [("getinfo", [.ok (.arr [.str onLine.signer.nodeId, .int 7])]),
    ("listfunds", [.ok (.obj [("unknown", .null)])]),
    ("listpeers", [.error (.http "gone")]), ("listpeerchannels", [.error (.rpc "late")])])], (), []⟩

theorem pull_outcome_leaving :
    ((onLine.pull : Act Script Unit NodeError NodeState).outcome leavingWorld).1 =
        .error (.connectivity "HTTP transport error: gone") ∧
      ((onLine.pull : Act Script Unit NodeError NodeState).outcome leavingWorld).2.traffic.length =
        4 := by
  have hlink : onLine.link = some ⟨"https://node", ⟨none, []⟩⟩ := rfl
  have h := pull_outcome hlink leavingWorld
  have hinfo : Tells NodeInfo.Told
      (repliesOver ⟨"https://node", ⟨none, []⟩⟩ leavingWorld.net).info
      ⟨onLine.signer.nodeId, 7⟩ :=
    ⟨_, rfl, .listed (Or.inl ⟨_, rfl, rfl⟩) (Or.inl ⟨_, rfl, rfl⟩)⟩
  have houtputs : Tells (ListTold Output.Told "outputs")
      (repliesOver ⟨"https://node", ⟨none, []⟩⟩ leavingWorld.net).outputs [] :=
    ⟨_, rfl, .keyed ⟨by simp, rfl⟩⟩
  refine ⟨(h.error_iff _).mpr (.peers hinfo rfl houtputs (.unanswered (.http "gone"))), ?_⟩
  rw [h.sent]
  rfl

end Node

end HostedNode

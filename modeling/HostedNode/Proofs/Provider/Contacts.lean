import HostedNode.Proofs.World.Adds
import HostedNode.Provider.Node

/-! # Whom a node contacts, and when

Connecting makes calls for credentials over one connection to the scheduler (`adds_connect`).
Starting asks the scheduler for the address and opens a connection there (`adds_start`). Asking for
the state makes calls over that connection (`adds_pull`). None of them does anything else but log. -/

namespace HostedNode

open Act Json Rpc

/-- Only lines are logged, and what satisfies a condition happens. -/
def Happening.LogOr (P : Happening → Prop) (h : Happening) : Prop := h.IsLog ∨ P h

theorem Happening.logOr_logged {P : Happening → Prop} (e : LogEntry) :
    Happening.LogOr P (.logged e) := Or.inl ⟨e, rfl⟩

namespace Node

/-- The methods that credentials are asked for with. -/
def credentialMethods : List String := ["get_challenge", "recover", "register"]

/-- The methods that the state is asked for with. -/
def stateMethods : List String := ["getinfo", "listfunds", "listpeers", "listpeerchannels"]

/-- What happens while a node is connected to. -/
def Connecting (config : Config) (h : Happening) : Prop :=
  h = .opened (schedulerConnection config) ∨
    ∃ method params, h = .called (schedulerConnection config) method params ∧
      method ∈ credentialMethods

/-- What happens while a node is started. -/
def Starting (n : Node) (h : Happening) : Prop :=
  (∃ params, h = .called n.scheduler.connection "schedule" params) ∨
    ∃ uri, h = .opened ⟨uri, n.linkOptions⟩

/-- What happens while a node is asked for its state. -/
def Pulling (n : Node) (h : Happening) : Prop :=
  ∃ link method, n.link = some link ∧ h = .called link method [] ∧ method ∈ stateMethods

end Node

/-! ### No events -/

theorem Happening.event?_logOr {P : Happening → Prop} (hP : ∀ h, P h → h.event? = none)
    (h : Happening) (hh : h.LogOr P) : h.event? = none := by
  rcases hh with ⟨e, rfl⟩ | hh
  · rfl
  · exact hP h hh

namespace Node

theorem event?_connecting {config : Config} (h : Happening) (hh : Connecting config h) :
    h.event? = none := by
  rcases hh with rfl | ⟨method, params, rfl, -⟩
  · rfl
  · rfl

theorem event?_starting {n : Node} (h : Happening) (hh : n.Starting h) : h.event? = none := by
  rcases hh with ⟨params, rfl⟩ | ⟨uri, rfl⟩
  · rfl
  · rfl

end Node

section

variable {σ κ : Type} [Net σ] {P : Happening → Prop}

theorem adds_ask {α : Type} {s : Scheduler} {method : String} {params : Json}
    (answer : Decoder α) (hP : P (.called s.connection method [params])) :
    Adds P (s.ask method params answer : Act σ κ NodeError α) :=
  adds_bind (adds_mapError _ (adds_call hP)) fun _ => adds_ofExcept _

/-! ### Connecting -/

theorem scope_mem_methods (scope : ChallengeScope) : scope.name ∈ Node.credentialMethods := by
  cases scope <;> decide

theorem adds_exchange (config : Config) (signer : Signer) (scope : ChallengeScope)
    (doing : String) (more : List (String × Json)) :
    Adds (Happening.LogOr (Node.Connecting config))
      (Scheduler.exchange ⟨Node.schedulerConnection config, config.network⟩ signer scope doing more :
        Act σ κ NodeError DeviceCredentials) := by
  have hchallenge : "get_challenge" ∈ Node.credentialMethods := by decide
  refine adds_bind (adds_bind (adds_ask _ ?_) fun _ => adds_ofExcept _) fun c =>
    adds_bind (adds_log Happening.logOr_logged _ _) fun _ => adds_ask _ ?_
  · exact Or.inr (Or.inr ⟨_, _, rfl, hchallenge⟩)
  · exact Or.inr (Or.inr ⟨_, _, rfl, scope_mem_methods scope⟩)

theorem adds_register (config : Config) (signer : Signer) (r : Registration) :
    Adds (Happening.LogOr (Node.Connecting config))
      (Scheduler.register ⟨Node.schedulerConnection config, config.network⟩ signer r :
        Act σ κ NodeError DeviceCredentials) := by
  unfold Scheduler.register
  split
  · exact adds_throw _
  · exact adds_exchange config signer _ _ _

theorem adds_issued (config : Config) (signer : Signer) (r : Registration) :
    Adds (Happening.LogOr (Node.Connecting config))
      (Node.issued ⟨Node.schedulerConnection config, config.network⟩ signer r :
        Act σ κ NodeError DeviceCredentials) := by
  refine adds_bind (adds_log Happening.logOr_logged _ _) fun _ =>
    adds_bind (adds_attempt (adds_exchange config signer _ _ _)) fun result => ?_
  split
  · exact adds_pure _
  · exact adds_throw _
  · exact adds_bind (adds_log Happening.logOr_logged _ _) fun _ => adds_register config signer r

theorem adds_resolve (config : Config) (signer : Signer) (r : Registration)
    (kept : Option StoredCredentials) :
    Adds (Happening.LogOr (Node.Connecting config))
      (Node.resolve ⟨Node.schedulerConnection config, config.network⟩ signer r kept :
        Act σ κ NodeError DeviceCredentials) := by
  cases kept with
  | none => exact adds_issued config signer r
  | some k =>
    rw [Node.resolve]
    split
    · exact adds_bind (adds_log Happening.logOr_logged _ _) fun _ => adds_pure _
    · exact adds_throw _

/-- **Connecting contacts the scheduler alone, for credentials.** -/
theorem adds_connect [CredentialStore κ] (config : Config) (seed : Bytes) :
    Adds (Happening.LogOr (Node.Connecting config))
      (Node.connect config seed : Act σ κ NodeError Node) :=
  adds_bind (adds_ofExcept _) fun signer =>
    adds_bind (adds_mapError _ (adds_openConnection (Or.inr (Or.inl rfl)))) fun _ =>
      adds_bind (adds_bind adds_get fun _ => adds_ofExcept _) fun kept =>
        adds_bind (adds_resolve config signer _ kept) fun _ =>
          adds_bind (adds_onStore _) fun _ => adds_pure _

/-! ### Starting and pulling -/

/-- **Starting asks the scheduler for the address, and opens a connection there.** -/
theorem adds_start (n : Node) :
    Adds (Happening.LogOr n.Starting) (n.start : Act σ κ NodeError Node) := by
  have hschedule : Adds (Happening.LogOr n.Starting)
      (n.scheduler.schedule n.signer.nodeId : Act σ κ NodeError String) := by
    refine adds_bind (adds_ask _ (Or.inr (Or.inl ⟨_, rfl⟩))) fun uri => ?_
    split
    · exact adds_throw _
    · exact adds_bind (adds_log Happening.logOr_logged _ _) fun _ => adds_pure _
  exact adds_bind hschedule fun uri =>
    adds_bind (adds_mapError _ (adds_openConnection (Or.inr (Or.inr ⟨uri, rfl⟩)))) fun _ =>
      adds_bind (adds_log Happening.logOr_logged _ _) fun _ => adds_pure _

theorem started_of_link {n : Node} {link : Connection} (h : n.link = some link) :
    n.started = .ok link := by
  unfold Node.started
  rw [h]

theorem started_of_noLink {n : Node} (h : n.link = none) :
    n.started = .error (.connectivity "node is not started, call start() first") := by
  unfold Node.started
  rw [h]

theorem link_of_started {n : Node} {link : Connection} (h : n.started = .ok link) :
    n.link = some link := by
  unfold Node.started at h
  cases hl : n.link with
  | none =>
    rw [hl] at h
    cases h
  | some c =>
    rw [hl] at h
    exact congrArg some (Except.ok.inj h)

theorem adds_askNode {α : Type} {n : Node} {link : Connection} (hl : n.link = some link)
    {method : String} (hm : method ∈ Node.stateMethods) (answer : Decoder α) :
    Adds (Happening.LogOr n.Pulling)
      (Node.ask link method answer : Act σ κ NodeError (Except NodeError α)) :=
  adds_attempt (adds_bind (adds_mapError _ (adds_call (Or.inr ⟨link, method, hl, rfl, hm⟩)))
    fun _ => adds_ofExcept _)

/-- **Asking for the state contacts the node alone.** -/
theorem adds_pull (n : Node) :
    Adds (Happening.LogOr n.Pulling) (n.pull : Act σ κ NodeError NodeState) := by
  intro w
  rw [Node.pull, outcome_bind, outcome_ofExcept]
  cases hs : n.started with
  | error e => exact World.extends_of_eq rfl
  | ok link =>
    have hl : n.link = some link := link_of_started hs
    have hlog : Adds (Happening.LogOr n.Pulling)
        (log .debug ("pulling node state from " ++ link.address) : Act σ κ NodeError Unit) :=
      adds_log Happening.logOr_logged _ _
    exact adds_bind hlog (fun _ =>
      adds_bind (adds_askNode hl (by decide) _) fun _ =>
        adds_bind (adds_askNode hl (by decide) _) fun _ =>
          adds_bind (adds_askNode hl (by decide) _) fun _ =>
            adds_bind (adds_askNode hl (by decide) _) fun _ => adds_ofExcept _) w

end

end HostedNode

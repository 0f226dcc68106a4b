import HostedNode.Proofs.Services.Quiet
import HostedNode.Proofs.Storage.Replace
import HostedNode.Services.Basic

/-! # What a sync does, and what comes before the first one

A sync either fails, and then changes no more of the world than the net, the lines logged and the
draft of the document, or it keeps the state that the node gave and raises the events that tell of
it (`Services.sync_cases`). Nothing that `build` does before its sync raises events or touches the
state that the storage had when it was opened (`Services.build_ok`). -/

namespace HostedNode

open Act Rpc

variable {σ β : Type}

/-! ### Events -/

/-- Raising events adds them to those raised, and does nothing else but log. -/
theorem outcome_raiseAll {κ ε : Type} (es : List NodeEvent) (w : World σ κ) :
    ∃ w', (raiseAll es : Act σ κ ε Unit).outcome w = (.ok (), w') ∧ w'.store = w.store ∧
      w'.events = w.events ++ es := by
  induction es generalizing w with
  | nil => exact ⟨w, rfl, rfl, (List.append_nil _).symm⟩
  | cons e es ih =>
    let w1 := w.note (.logged (.of .debug ("raising event " ++ Text.shown e)))
    obtain ⟨w', hw, hs, he⟩ := ih (w1.note (.raised e))
    have hevents : (w1.note (.raised e)).events = w.events ++ [e] := by
      simp [w1, Happening.event?]
    refine ⟨w', ?_, hs, ?_⟩
    · rw [raiseAll, outcome_bind]
      exact hw
    · rw [he, hevents, List.append_assoc, List.singleton_append]

namespace Services

/-! ### The storage -/

theorem outcome_setNodeState (s : Storage) (state : NodeState) (w : World σ Disk) :
    (s.setNodeState state).outcome w =
      match s.replace { s.data with nodeState := some state } w.store with
      | .ok s' d => (.ok s', { w with store := d })
      | .error e d => (.error (Storage.diskFault e), { w with store := d }) := by
  unfold outcome
  rw [Storage.setNodeState_eq]
  cases s.replace { s.data with nodeState := some state } w.store <;> rfl

/-- The storage that services are built over, given or else opened, and the world after that. -/
def openedOver (config : Config) (given : Option Storage) (w : World σ Disk) :
    Except ServiceError Storage × World σ Disk :=
  match given with
  | some s => (.ok s, w)
  | none => (openStorage config.workingDir).outcome w

/-- What a storage has from its opening, with the events raised. -/
def cacheAndEvents (w : World σ Workspace) : (String × Option NodeState) × List NodeEvent :=
  ((w.store.storage.directory, w.store.storage.data.nodeState), w.events)

theorem apart_cacheAndEvents :
    Apart (cacheAndEvents : World σ Workspace → (String × Option NodeState) × List NodeEvent) where
  note w h hh := by simp [cacheAndEvents, hh]
  net _ _ := rfl

theorem keeps_openStorage (workingDir : String) :
    Keeps World.events (openStorage workingDir : Act σ Disk ServiceError Storage) :=
  keeps_bind (keeps_mapError _ (keeps_onStore _)) fun _ =>
    keeps_bind keeps_get fun _ =>
      keeps_bind (keeps_ofExcept _) fun _ =>
        keeps_bind (keeps_log apart_events _ _) fun _ => keeps_pure _

theorem events_openedOver (config : Config) (given : Option Storage) (w : World σ Disk) :
    (openedOver config given w).2.events = w.events := by
  cases given with
  | some s => rfl
  | none => exact keeps_openStorage config.workingDir w

theorem outcome_within {ε α : Type} (storage : Storage) (act : Act σ Workspace ε α)
    (w : World σ Disk) :
    let out := act.outcome { w with store := { disk := w.store, storage } }
    (Workspace.within storage act).outcome w =
      (out.1.map (·, out.2.store.storage), { out.2 with store := out.2.store.disk }) := by
  unfold outcome Workspace.within
  dsimp only
  cases act { w with store := { disk := w.store, storage } } <;> rfl

/-- A node that is obtained without touching the state or raising events leaves the storage with
the state that it had. -/
theorem within_ok {acquire : Act σ Workspace NodeError β} (hacquire : Keeps cacheAndEvents acquire)
    {storage kept : Storage} {w w' : World σ Disk} {node : β}
    (h : (Workspace.within storage (mapError ServiceError.node acquire)).outcome w =
      (.ok (node, kept), w')) :
    w'.events = w.events ∧ kept.directory = storage.directory ∧
      kept.data.nodeState = storage.data.nodeState := by
  let before : World σ Workspace := { w with store := { disk := w.store, storage } }
  have hkeeps := hacquire before
  rw [outcome_within, outcome_mapError] at h
  rcases ho : acquire.outcome before with ⟨r, after⟩
  rw [ho] at h hkeeps
  cases r with
  | error e => cases (Prod.mk.inj h).1
  | ok n =>
    obtain ⟨hpair, rfl⟩ := Prod.mk.inj h
    obtain ⟨-, rfl⟩ := Prod.mk.inj (Except.ok.inj hpair)
    obtain ⟨hcache, hevents⟩ := Prod.mk.inj hkeeps
    obtain ⟨hdirectory, hstate⟩ := Prod.mk.inj hcache
    exact ⟨hevents, hdirectory, hstate⟩

variable [Backend σ β]

/-! ### Syncing -/

/-- The services with a state kept. -/
def keeping (s : Services β) (state : NodeState) : Services β :=
  { s with storage := { s.storage with data := { s.storage.data with nodeState := some state } } }

/-- A sync failed: no events were raised, and the document is as it was. -/
def SyncFails (s : Services β) (w : World σ Disk) : Prop :=
  ∃ e w', s.sync.outcome w = (.error e, w') ∧ w'.events = w.events ∧
    w'.store.read s.storage.path = w.store.read s.storage.path

/-- A sync succeeded: the state that the node gave is kept in memory and in the document, and the
events that tell of it were raised. -/
def SyncKeeps (s : Services β) (w : World σ Disk) (state : NodeState) : Prop :=
  ∃ w1 w', (Backend.pull s.node : Act σ Disk NodeError NodeState).outcome w = (.ok state, w1) ∧
    s.sync.outcome w = (.ok (s.keeping state), w') ∧
    w'.events = w.events ++ eventsOf s.storage.data.nodeState state ∧
    Storage.load w'.store s.storage.directory = .ok (s.keeping state).storage.data

/-- What is left of a sync once the node was asked for its state. -/
def conclude (s : Services β) :
    Except NodeError NodeState × World σ Disk → Except ServiceError (Services β) × World σ Disk
  | (.error e, w) => (.error (.node e), w)
  | (.ok state, w) => (do
      let storage ← s.storage.setNodeState state
      raiseAll (eventsOf s.storage.data.nodeState state)
      log .debug ("synced node " ++ state.id ++ " at height " ++ toString state.blockHeight.toNat)
      return { s with storage } : Act σ Disk ServiceError (Services β)).outcome w

theorem outcome_sync {s : Services β} (hc : s.ensureConnected = .ok ()) (w : World σ Disk) :
    s.sync.outcome w = s.conclude ((Backend.pull s.node).outcome w) := by
  rw [sync, outcome_bind, outcome_ofExcept, hc]
  dsimp only
  rw [outcome_bind, outcome_mapError]
  rcases (Backend.pull s.node : Act σ Disk NodeError NodeState).outcome w with ⟨_ | state, w1⟩
  · rfl
  · rfl

/-- **A sync fails and changes nothing, or keeps the state that the node gave.** -/
theorem sync_cases [QuietBackend σ β] (s : Services β) (w : World σ Disk) :
    s.SyncFails w ∨ ∃ state, s.SyncKeeps w state := by
  cases hc : s.ensureConnected with
  | error e =>
    refine Or.inl ⟨e, w, ?_, rfl, rfl⟩
    rw [sync, outcome_bind, outcome_ofExcept, hc]
  | ok u =>
    have hsync := outcome_sync hc w
    have hquiet := QuietBackend.pull s.node w
    rcases hp : (Backend.pull s.node : Act σ Disk NodeError NodeState).outcome w with ⟨r, w1⟩
    rw [hp] at hsync hquiet
    have hstore : w1.store = w.store := (Prod.mk.inj hquiet).1
    have hevents : w1.events = w.events := (Prod.mk.inj hquiet).2
    cases r with
    | error e => exact Or.inl ⟨_, w1, hsync, hevents, by rw [hstore]⟩
    | ok state =>
      rw [conclude, outcome_bind, outcome_setNodeState] at hsync
      cases hr : s.storage.replace { s.storage.data with nodeState := some state } w1.store with
      | error e d =>
        rw [hr] at hsync
        refine Or.inl ⟨_, _, hsync, hevents, ?_⟩
        rw [← hstore]
        exact Storage.read_document (Storage.replace_error hr)
      | ok storage d =>
        rw [hr] at hsync
        obtain ⟨rfl, -, -⟩ := Storage.replace_ok hr
        obtain ⟨w2, hw2, hs2, he2⟩ := outcome_raiseAll
          (ε := ServiceError) (eventsOf s.storage.data.nodeState state) { w1 with store := d }
        dsimp only at hsync
        rw [outcome_bind, hw2] at hsync
        let w3 := w2.note (.logged (.of .debug
          ("synced node " ++ state.id ++ " at height " ++ toString state.blockHeight.toNat)))
        have hraised : w3.events = w.events ++ eventsOf s.storage.data.nodeState state := by
          rw [← hevents]
          simpa [w3, Happening.event?] using he2
        have hkept : w3.store = d := hs2
        refine Or.inr ⟨state, w1, w3, hp, hsync, hraised, ?_⟩
        rw [hkept]
        exact Storage.load_replace hr

/-! ### Before the first sync -/

/-- Services that were not synced yet, over a storage, in a world with the events of another one. -/
structure Ready (opened : Storage) (w : World σ Disk) (s : Services β) (w' : World σ Disk) :
    Prop where
  directory : s.storage.directory = opened.directory
  nodeState : s.storage.data.nodeState = opened.data.nodeState
  events : w'.events = w.events

/-- What is left of building services once there is a storage. -/
def buildOver (acquire : Act σ Workspace NodeError β) (storage : Storage) :
    Act σ Disk ServiceError (Services β) := do
  let (node, storage) ← Workspace.within storage (mapError .node acquire)
  log .info ("starting node " ++ Backend.nodeId σ node)
  let node ← mapError .node (Backend.start node)
  let services ← sync ⟨node, storage, true⟩
  log .info ("connected to node " ++ Backend.nodeId σ node)
  return services

theorem opened_of_build_ok {acquire : Act σ Workspace NodeError β} {config : Config}
    {seed : Bytes} {given : Option Storage} {w w' : World σ Disk} {s : Services β}
    (h : (build acquire config seed given).outcome w = (.ok s, w')) :
    ∃ opened w1, openedOver config given w = (.ok opened, w1) ∧
      (buildOver acquire opened).outcome w1 = (.ok s, w') := by
  unfold build at h
  dsimp only at h
  by_cases hseed : seed.length < minSeedLength
  · rw [if_pos hseed] at h
    cases (Prod.mk.inj h).1
  · rw [if_neg hseed] at h
    cases given with
    | some storage => exact ⟨storage, w, rfl, h⟩
    | none => exact outcome_bind_ok h

/-- **Services that were built have synced, and nothing before that sync raised events.** -/
theorem build_ok [QuietBackend σ β] {acquire : Act σ Workspace NodeError β}
    (hacquire : Keeps cacheAndEvents acquire) {config : Config} {seed : Bytes}
    {given : Option Storage} {w w' : World σ Disk} {s : Services β}
    (h : (build acquire config seed given).outcome w = (.ok s, w')) :
    ∃ opened w1, openedOver config given w = (.ok opened, w1) ∧
      ∃ (before : Services β) (w2 w3 : World σ Disk), Ready opened w before w2 ∧
        before.sync.outcome w2 = (.ok s, w3) ∧ w'.store = w3.store ∧ w'.events = w3.events := by
  obtain ⟨opened, w1, hopened, h⟩ := opened_of_build_ok h
  have hevents1 : w1.events = w.events := by
    have hquiet := events_openedOver config given w
    rwa [hopened] at hquiet
  obtain ⟨⟨node, kept⟩, w2, hwithin, h⟩ := outcome_bind_ok h
  obtain ⟨hevents2, hdirectory, hstate⟩ := within_ok hacquire hwithin
  obtain ⟨u, w3, hlog, h⟩ := outcome_bind_ok h
  have hevents3 : w3.events = w2.events := by
    have hquiet := keeps_log (ε := ServiceError) apart_events Log.Severity.info
      ("starting node " ++ Backend.nodeId σ node) w2
    rwa [hlog] at hquiet
  obtain ⟨node', w4, hstart, h⟩ := outcome_bind_ok h
  have hevents4 : w4.events = w3.events := by
    have hquiet := QuietBackend.start node w3
    rw [outcome_mapError_ok hstart] at hquiet
    exact (Prod.mk.inj hquiet).2
  obtain ⟨services, w5, hsync, h⟩ := outcome_bind_ok h
  obtain ⟨hservices, hw'⟩ := Prod.mk.inj h
  obtain rfl := Except.ok.inj hservices
  obtain rfl := hw'
  have hevents : w4.events = w.events := by rw [hevents4, hevents3, hevents2, hevents1]
  refine ⟨opened, w1, hopened, ⟨node', kept, true⟩, w4, w5, ⟨hdirectory, hstate, hevents⟩, hsync,
    rfl, ?_⟩
  exact apart_events.note w5 _ rfl

end Services

end HostedNode

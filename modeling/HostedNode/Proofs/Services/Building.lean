import HostedNode.Proofs.Key.Signer
import HostedNode.Proofs.Provider.Contacts
import HostedNode.Proofs.Provider.Identity
import HostedNode.Proofs.Services.Replay
import HostedNode.Proofs.Services.Stages

/-! # Building services for a hosted node

Each stage of building does its own part and nothing else (`Confined`): until the storage is open
there is no contact to anyone, and only the working directory is made; connecting contacts the
scheduler for credentials and writes them; starting asks for the address and opens a connection
there, and writes nothing; the first sync contacts the node and writes its own state. So a build
that fails has done the parts of the stages up to the one that failed, and has raised no event
(`build_all_or_nothing`). -/

namespace HostedNode

open Act Rpc

variable {σ : Type}

namespace Progress

/-- What may happen in a stage, apart from lines that are logged. -/
def MayNote (config : Config) : Progress Node → Happening → Prop
  | opened _, h => Node.Connecting config h
  | obtained node _, h => node.Starting h
  | started node _, h => node.Pulling h ∨ ∃ e, h = .raised e
  | _, _ => False

/-- What a stage may make of the disk. -/
def MayLeave (config : Config) : Progress Node → Disk → Disk → Prop
  | checked, d, d' => d' = (Services.madeOn config d).2
  | opened s, d, d' => d' = d ∨
      ∃ c, d' = (storeOutcome (s.replace { s.data with credentials := some c }) d).2
  | started node s, d, d' => d' = d ∨ ∃ state, state.id = node.signer.nodeId ∧
      d' = (storeOutcome (s.replace { s.data with nodeState := some state }) d).2
  | _, d, d' => d' = d

/-- The stages before anyone is contacted. -/
def IsLocal : Progress Node → Prop
  | begun => True
  | checked => True
  | made => True
  | _ => False

/-- What a stage may fail with. -/
def MayFail (seed : Bytes) : Progress Node → ServiceError → Prop
  | begun, e => e = .invalidSeed seed.length
  | checked, e => ∃ m, e = .persistence m
  | made, e => ∃ m, e = .persistence m
  | opened _, e => ∃ cause, e = .node cause
  | obtained _ _, e => ∃ cause, e = .node cause
  | started _ _, e => (∃ cause, e = .node cause) ∨ ∃ m, e = .persistence m
  | done _, _ => False

end Progress

namespace Services

/-- A stage does its own part and nothing else. -/
structure Confined (config : Config) (p : Progress Node) (v v' : World σ Disk) : Prop where
  journal : World.Extends (Happening.LogOr (p.MayNote config)) v v'
  disk : p.MayLeave config v.store v'.store
  net : p.IsLocal → v'.net = v.net

/-! ### Syncing -/

section

variable {β : Type} [Backend σ β] {P : Happening → Prop}

theorem adds_raiseAll {κ ε : Type} (hlog : ∀ e, P (.logged e)) (hraise : ∀ e, P (.raised e))
    (es : List NodeEvent) : Adds P (raiseAll es : Act σ κ ε Unit) := by
  induction es with
  | nil => exact adds_pure _
  | cons e es ih =>
    have hnote : Adds P (note (.raised e) : Act σ κ ε Unit) :=
      fun w => World.extends_note w (hraise e)
    exact adds_bind (adds_bind (adds_log hlog _ _) fun _ =>
      adds_bind hnote fun _ => adds_pure ()) fun _ => ih

theorem adds_sync (hlog : ∀ e, P (.logged e)) (hraise : ∀ e, P (.raised e)) (s : Services β)
    (hpull : Adds P (Backend.pull s.node : Act σ Disk NodeError NodeState)) :
    Adds P (s.sync : Act σ Disk ServiceError (Services β)) :=
  adds_bind (adds_ofExcept _) fun _ =>
    adds_bind (adds_mapError _ hpull) fun _ =>
      adds_bind (adds_mapError _ (adds_onStore _)) fun _ =>
        adds_bind (adds_raiseAll hlog hraise _) fun _ =>
          adds_bind (adds_log hlog _ _) fun _ => adds_pure _

/-- The disk is as it was, or the document was to be replaced by one with the state that the node
gave. -/
def WritesPulled (s : Services β) (w : World σ Disk) (d : Disk) : Prop :=
  d = w.store ∨ ∃ state w1,
    (Backend.pull s.node : Act σ Disk NodeError NodeState).outcome w = (.ok state, w1) ∧
    d = (storeOutcome (s.storage.replace { s.storage.data with nodeState := some state }) w.store).2

omit [Backend σ β] in
/-- Once the node gave a state, what is left of a sync writes it, and fails only if it cannot. -/
theorem conclude_disk (s : Services β) (state : NodeState) (w : World σ Disk) :
    (s.conclude (.ok state, w)).2.store =
      (storeOutcome (s.storage.replace { s.storage.data with nodeState := some state })
        w.store).2 ∧
    ∀ e, (s.conclude (.ok state, w)).1 = .error e → ∃ m, e = .persistence m := by
  rw [conclude, outcome_bind, outcome_setNodeState, storeOutcome]
  cases hr : s.storage.replace { s.storage.data with nodeState := some state } w.store with
  | error de d => exact ⟨rfl, fun e he => ⟨de.message, (Except.error.inj he).symm⟩⟩
  | ok storage d =>
    obtain ⟨w2, hw2, hs2, -⟩ := outcome_raiseAll (ε := ServiceError)
      (eventsOf s.storage.data.nodeState state) { w with store := d }
    dsimp only
    rw [outcome_bind, hw2]
    exact ⟨hs2, fun e he => by cases he⟩

/-- **A sync writes the state that the node gave, if anything.** -/
theorem sync_disk [QuietBackend σ β] (s : Services β) (w : World σ Disk) :
    s.WritesPulled w (s.sync.outcome w).2.store := by
  cases hc : s.ensureConnected with
  | error e =>
    rw [sync, outcome_bind, outcome_ofExcept, hc]
    exact Or.inl rfl
  | ok u =>
    have hstore := (Prod.mk.inj (QuietBackend.pull s.node w)).1
    rw [outcome_sync hc]
    rcases hp : (Backend.pull s.node : Act σ Disk NodeError NodeState).outcome w with
      ⟨e | state, w1⟩
    · rw [hp] at hstore
      exact Or.inl hstore
    · rw [hp] at hstore
      refine Or.inr ⟨state, w1, hp, ?_⟩
      rw [(conclude_disk s state w1).1, hstore]

/-- A sync of connected services fails for the node or for the disk. -/
theorem sync_fault {s : Services β} (hc : s.connected = true) {e : ServiceError}
    {w w' : World σ Disk} (h : s.sync.outcome w = (.error e, w')) :
    (∃ cause, e = .node cause) ∨ ∃ m, e = .persistence m := by
  have hconnected : s.ensureConnected = .ok () := by
    unfold ensureConnected
    rw [if_pos hc]
  rw [outcome_sync hconnected] at h
  rcases hp : (Backend.pull s.node : Act σ Disk NodeError NodeState).outcome w with
    ⟨cause | state, w1⟩
  · rw [hp] at h
    exact Or.inl ⟨cause, (Except.error.inj (Prod.mk.inj h).1).symm⟩
  · rw [hp] at h
    exact Or.inr ((conclude_disk s state w1).2 e (Prod.mk.inj h).1)

/-- A sync that fails raises no events. -/
theorem events_of_sync_error [QuietBackend σ β] {s : Services β} {e : ServiceError}
    {w w' : World σ Disk} (h : s.sync.outcome w = (.error e, w')) : w'.events = w.events := by
  rcases s.sync_cases w with ⟨e', w1, hsync, hevents, -⟩ | ⟨state, w1, w2, -, hsync, -⟩
  · rw [h] at hsync
    obtain ⟨-, rfl⟩ := Prod.mk.inj hsync
    exact hevents
  · rw [h] at hsync
    cases (Prod.mk.inj hsync).1

end

/-! ### Connecting -/

theorem disk_setCredentials (c : StoredCredentials) (k : Workspace) :
    (storeOutcome (CredentialStore.set c : EStateM NodeError Workspace Unit) k).2.disk =
      (storeOutcome (k.storage.replace { k.storage.data with credentials := some c }) k.disk).2 := by
  have hset : (CredentialStore.set c : EStateM NodeError Workspace Unit) =
      Workspace.setCredentials c := rfl
  rw [hset]
  unfold storeOutcome Workspace.setCredentials
  cases k.storage.replace { k.storage.data with credentials := some c } k.disk <;> rfl

variable [Net σ]

/-- Connecting writes credentials at most. -/
theorem connect_disk (config : Config) (seed : Bytes) (w : World σ Workspace) :
    let out := (Node.connect config seed : Act σ Workspace NodeError Node).outcome w
    out.2.store.disk = w.store.disk ∨ ∃ c, out.2.store.disk = (storeOutcome
      (w.store.storage.replace { w.store.storage.data with credentials := some c })
        w.store.disk).2 := by
  dsimp only
  cases hs : Signer.ofSeed seed with
  | error e => exact Or.inl (by rw [Node.connect_of_noSigner hs])
  | ok signer =>
    obtain ⟨-, hends⟩ := Node.outcome_connect config hs w
    cases hr : (Node.courseOver config signer w).result with
    | error e =>
      rw [hr] at hends
      exact Or.inl (congrArg Workspace.disk hends.2)
    | ok c =>
      rw [hr] at hends
      refine Or.inr ⟨⟨c, signer.seedFingerprint⟩, ?_⟩
      rw [← disk_setCredentials]
      exact congrArg Workspace.disk hends.2

theorem confined_obtaining (config : Config) (seed : Bytes) (storage : Storage)
    (v : World σ Disk) :
    Confined config (.opened storage) v
      (obtainedOver (Node.connect config seed) storage v).2 := by
  unfold obtainedOver
  rw [outcome_within, outcome_mapError]
  have hjournal := adds_connect (κ := Workspace) config seed
    { v with store := { disk := v.store, storage } }
  have hdisk := connect_disk config seed { v with store := { disk := v.store, storage } }
  exact ⟨hjournal, hdisk, fun h => h.elim⟩

/-! ### Starting and syncing -/

theorem confined_starting (config : Config) (node : Node) (storage : Storage) (line : String)
    (v : World σ Disk) :
    Confined config (.obtained node storage) v
      ((Backend.start node : Act σ Disk NodeError Node).outcome (told line v)).2 := by
  have htold : World.Extends (Happening.LogOr node.Starting) v (told line v) :=
    World.extends_note v (Happening.logOr_logged _)
  have hstart := adds_start (κ := Disk) node (told line v)
  have hquiet := QuietBackend.start (σ := σ) node (told line v)
  exact ⟨htold.trans hstart, (Prod.mk.inj hquiet).1, fun h => h.elim⟩

theorem confined_syncing (config : Config) (node : Node) (storage : Storage) (v : World σ Disk) :
    Confined config (.started node storage) v
      ((sync ⟨node, storage, true⟩ : Act σ Disk ServiceError (Services Node)).outcome v).2 := by
  have hpull : Adds (Happening.LogOr ((Progress.started node storage).MayNote config))
      (Backend.pull node : Act σ Disk NodeError NodeState) :=
    (adds_pull node).mono fun h hh => hh.imp id Or.inl
  have hsync := adds_sync Happening.logOr_logged (fun e => Or.inr (Or.inr ⟨e, rfl⟩))
    ⟨node, storage, true⟩ hpull v
  refine ⟨hsync, (sync_disk ⟨node, storage, true⟩ v).imp id ?_, fun h => h.elim⟩
  rintro ⟨state, w1, hstate, hdisk⟩
  exact ⟨state, Node.id_of_pull hstate, hdisk⟩

/-! ### Each stage -/

variable {config : Config} {seed : Bytes} {given : Option Storage} {p p' : Progress Node}
  {v v' w : World σ Disk}

omit [Net σ] in
theorem Confined.told {p : Progress Node} (h : Confined config p v v') (line : String) :
    Confined config p v (told line v') :=
  ⟨h.journal.trans (World.extends_note v' (Happening.logOr_logged _)), h.disk, h.net⟩

theorem confined_of_advances
    (h : Advances (Node.connect config seed) config seed given p v p' v') :
    Confined config p v v' := by
  cases h with
  | checks _ _ => exact ⟨World.extends_of_eq rfl, rfl, fun _ => rfl⟩
  | takes _ _ => exact ⟨World.extends_of_eq rfl, rfl, fun _ => rfl⟩
  | makes hd => exact ⟨World.extends_of_eq rfl, by rw [Progress.MayLeave, hd], fun _ => rfl⟩
  | opens _ =>
    exact ⟨World.extends_note v (Happening.logOr_logged _), rfl, fun _ => rfl⟩
  | @obtains _ _ storage _ _ ho =>
    have hconfined := confined_obtaining config seed storage v
    rwa [ho] at hconfined
  | @starts _ _ storage node _ hstart =>
    have hconfined := confined_starting config node storage
      ("starting node " ++ Backend.nodeId σ node) v
    rwa [hstart] at hconfined
  | @syncs _ _ storage node _ hsync =>
    have hconfined := confined_syncing config node storage v
    rw [hsync] at hconfined
    exact hconfined.told _

theorem confined_of_fails {e : ServiceError}
    (h : Fails (Node.connect config seed) config seed p v e v') :
    Confined config p v v' ∧ p.MayFail seed e ∧ v'.events = v.events := by
  cases h with
  | short _ => exact ⟨⟨World.extends_of_eq rfl, rfl, fun _ => rfl⟩, rfl, rfl⟩
  | unmade hd =>
    exact ⟨⟨World.extends_of_eq rfl, by rw [Progress.MayLeave, hd], fun _ => rfl⟩, ⟨_, rfl⟩, rfl⟩
  | unopened _ => exact ⟨⟨World.extends_of_eq rfl, rfl, fun _ => rfl⟩, ⟨_, rfl⟩, rfl⟩
  | @unobtained _ _ storage _ ho =>
    have hconfined := confined_obtaining config seed storage v
    rw [ho] at hconfined
    exact ⟨hconfined, ⟨_, rfl⟩, hconfined.journal.events_eq
      (Happening.event?_logOr Node.event?_connecting)⟩
  | @unstarted _ _ storage node _ hstart =>
    have hconfined := confined_starting config node storage
      ("starting node " ++ Backend.nodeId σ node) v
    rw [hstart] at hconfined
    exact ⟨hconfined, ⟨_, rfl⟩, hconfined.journal.events_eq
      (Happening.event?_logOr Node.event?_starting)⟩
  | @unsynced _ _ storage node e hsync =>
    have hconfined := confined_syncing config node storage v
    rw [hsync] at hconfined
    exact ⟨hconfined, sync_fault rfl hsync, events_of_sync_error hsync⟩

/-! ### All stages -/

theorem journal_of_passes (h : Passes (Node.connect config seed) config seed given w p v) :
    World.Extends (Happening.LogOr fun x => ∃ q u,
      Passes (Node.connect config seed) config seed given w q u ∧ q.MayNote config x) w v := by
  induction h with
  | begun => exact World.extends_of_eq rfl
  | @next p p' v v' hpass hnext ih =>
    refine ih.trans ((confined_of_advances hnext).journal.mono fun x hx => ?_)
    exact hx.imp id fun hx => ⟨p, v, hpass, hx⟩

/-- Until the first sync no event is raised. -/
theorem events_of_passes (h : Passes (Node.connect config seed) config seed given w p v)
    (hp : p.Unfinished) : v.events = w.events := by
  induction h with
  | begun => rfl
  | next hpass hnext ih =>
    have hconfined := confined_of_advances hnext
    cases hnext with
    | checks _ _ => exact ih trivial
    | takes _ _ => exact ih trivial
    | makes _ => exact ih trivial
    | opens _ => exact (apart_events.note _ _ rfl).trans (ih trivial)
    | obtains _ =>
      exact (hconfined.journal.events_eq (Happening.event?_logOr Node.event?_connecting)).trans
        (ih trivial)
    | starts _ =>
      exact (hconfined.journal.events_eq (Happening.event?_logOr Node.event?_starting)).trans
        (ih trivial)
    | syncs _ => exact hp.elim

/-- Obtaining the node leaves the storage with its directory and its cached state. -/
theorem storage_of_passes (h : Passes (Node.connect config seed) config seed given w p v)
    {s : Storage} (hs : p.storage? = some s) :
    ∃ o u, Passes (Node.connect config seed) config seed given w (.opened o) u ∧
      s.directory = o.directory ∧ s.data.nodeState = o.data.nodeState := by
  have hkeeps : Keeps cacheAndEvents (Node.connect config seed : Act σ Workspace NodeError Node) :=
    keeps_connect apart_cacheAndEvents Live.keeps_keepCredentials config seed
  induction h generalizing s with
  | begun => cases hs
  | next hpass hnext ih =>
    have hopened := hpass.next hnext
    cases hnext with
    | checks _ _ => cases hs
    | takes _ _ =>
      obtain rfl := Option.some.inj hs
      exact ⟨_, _, hopened, rfl, rfl⟩
    | makes _ => cases hs
    | opens _ =>
      obtain rfl := Option.some.inj hs
      exact ⟨_, _, hopened, rfl, rfl⟩
    | obtains ho =>
      obtain rfl := Option.some.inj hs
      obtain ⟨-, hdirectory, hstate⟩ := within_ok hkeeps ho
      exact ⟨_, _, hpass, hdirectory, hstate⟩
    | starts _ => exact ih hs
    | syncs _ => cases hs

/-- Services come of one sync, the first since the storage was opened: of a node that was started,
with the state that was cached then and before any event. -/
def SyncedOnce (config : Config) (seed : Bytes) (given : Option Storage) (w : World σ Disk)
    (s : Services Node) (w' : World σ Disk) : Prop :=
  ∃ opened u node storage v state,
    Passes (Node.connect config seed) config seed given w (.opened opened) u ∧
    storage.directory = opened.directory ∧ storage.data.nodeState = opened.data.nodeState ∧
    Passes (Node.connect config seed) config seed given w (.started node storage) v ∧
    v.events = w.events ∧ Live.Synced ⟨⟨node, storage, true⟩, v⟩ state ⟨s, w'⟩

/-- A build gives services with all stages done, or it is over with the first one that fails. -/
structure AllOrNothing (config : Config) (seed : Bytes) (given : Option Storage)
    (w : World σ Disk) (out : Except ServiceError (Services Node) × World σ Disk) : Prop where
  handle : (∃ s, out.1 = .ok s) ↔
    ∃ s v, Passes (Node.connect config seed) config seed given w (.done s) v
  failure : ∀ e, out.1 = .error e → ∃ p v,
    Passes (Node.connect config seed) config seed given w p v ∧
    Fails (Node.connect config seed) config seed p v e out.2 ∧
    Confined config p v out.2 ∧ p.MayFail seed e
  stages : ∀ p v p' v', Passes (Node.connect config seed) config seed given w p v →
    Advances (Node.connect config seed) config seed given p v p' v' → Confined config p v v'
  journal : World.Extends (Happening.LogOr fun h => ∃ p v,
    Passes (Node.connect config seed) config seed given w p v ∧ p.MayNote config h) w out.2
  quiet : ∀ e, out.1 = .error e → out.2.events = w.events
  short : seed.length < minSeedLength → out = (.error (.invalidSeed seed.length), w)
  synced : ∀ s, out.1 = .ok s → SyncedOnce config seed given w s out.2

/-- What comes last in a build that succeeds is a sync. -/
theorem synced_of_passes {s : Services Node}
    (h : Passes (Node.connect config seed) config seed given w (.done s) v) :
    SyncedOnce config seed given w s v := by
  cases h with
  | @next _ _ u _ hpass hnext =>
    cases hnext with
    | @syncs _ u' storage node _ hsync =>
      have hevents := events_of_passes hpass trivial
      obtain ⟨opened, u0, hopened, hdirectory, hcached⟩ := storage_of_passes hpass rfl
      rcases Services.sync_cases ⟨node, storage, true⟩ u with ⟨e, u1, hfail, -⟩ | ⟨state, hkeeps⟩
      · rw [hsync] at hfail
        cases (Prod.mk.inj hfail).1
      · obtain ⟨l', hserve, hsynced⟩ := Live.synced_of_keeps hkeeps
        have hl' : l' = ⟨s, u'⟩ := by
          unfold Live.serve at hserve
          rw [hsync] at hserve
          exact (Prod.mk.inj hserve).2.symm
        rw [hl'] at hsynced
        refine ⟨opened, u0, node, storage, u, state, hopened, hdirectory, hcached, hpass, hevents,
          hsynced.pulled, ?_, hsynced.state, hsynced.directory, hsynced.document⟩
        exact (apart_events.note _ _ rfl).trans hsynced.events

/-- **Building is all or nothing.** With whatever seed, configuration and storage, over any net and
any disk: a build gives services just if all of its stages succeed; otherwise it fails with the
error of the first stage that fails, and no later stage has done anything. Every stage does its own
part only; a seed that is too short changes nothing at all; a build that fails raises no event; and
one that succeeds tells the state that its sync was given by the node, which is in the document too,
and has raised the events of that sync and no other. -/
theorem build_all_or_nothing (config : Config) (seed : Bytes) (given : Option Storage)
    (w : World σ Disk) :
    AllOrNothing config seed given w
      ((build (Node.connect config seed) config seed given).outcome w) := by
  have hstages : ∀ p v p' v', Passes (Node.connect config seed) config seed given w p v →
      Advances (Node.connect config seed) config seed given p v p' v' → Confined config p v v' :=
    fun _ _ _ _ _ hnext => confined_of_advances hnext
  have hshort : seed.length < minSeedLength →
      (build (Node.connect config seed) config seed given).outcome w =
        (.error (.invalidSeed seed.length), w) := fun hs => by
    have hbegun : Passes (Node.connect config seed) config seed given w .begun w := .begun
    exact (outcome_of_passes hbegun).trans (outcome_of_fails given (.short hs))
  rcases build_cases (Node.connect config seed) config seed given w with
    ⟨s, v, hpass, hout⟩ | ⟨p, v, e, v', hpass, hfail, hout⟩
  · have hok : ∀ e, (Except.ok s : Except ServiceError (Services Node)) ≠ .error e :=
      fun e he => by cases he
    rw [hout] at hshort ⊢
    refine ⟨⟨fun _ => ⟨s, v, hpass⟩, fun _ => ⟨s, rfl⟩⟩, fun e he => absurd he (hok e), hstages,
      journal_of_passes hpass, fun e he => absurd he (hok e), hshort, fun s' hs' => ?_⟩
    obtain rfl := Except.ok.inj hs'
    exact synced_of_passes hpass
  · obtain ⟨hconfined, hkind, hevents⟩ := confined_of_fails hfail
    have herror : ∀ s, (Except.error e : Except ServiceError (Services Node)) ≠ .ok s :=
      fun s hs => by cases hs
    have hp : p.Unfinished := by
      rcases p.unfinished_or_done with hp | ⟨s, rfl⟩
      · exact hp
      · cases hfail
    have hundone : ¬ ∃ s v, Passes (Node.connect config seed) config seed given w (.done s) v := by
      rintro ⟨s, u, hdone⟩
      have hok := outcome_of_passes hdone
      rw [hout] at hok
      exact herror s (Prod.mk.inj hok).1
    rw [hout] at hshort ⊢
    refine ⟨⟨fun ⟨s, hs⟩ => absurd hs (herror s), fun h => absurd h hundone⟩, fun e' he' => ?_,
      hstages, ?_, fun _ _ => hevents.trans (events_of_passes hpass hp), hshort,
      fun s hs => absurd hs (herror s)⟩
    · obtain rfl := Except.error.inj he'
      exact ⟨p, v, hpass, hfail, hconfined, hkind⟩
    · refine (journal_of_passes hpass).trans (hconfined.journal.mono fun x hx => ?_)
      exact hx.imp id fun hx => ⟨p, v, hpass, hx⟩

/-! ### A node that is recovered -/

/-- A configuration for a new working directory `d`. -/
def plainConfig : Config :=
  { Config.default .staging "" (.greenlight ⟨none, none⟩) with workingDir := "d" }

/-- An empty disk, and a net on which the scheduler has the node of the seed of zeros; the node
replies to all questions, and `last` is what it replies to the last one. -/
def recoveringWorld (last : Except TransportError Json) : World Script Disk where
  net := [(plainConfig.schedulerUrl,
      [("get_challenge", [.ok (.obj [("challenge", .str "00ff")])]),
        ("recover", [.ok (.obj [("device_cert", .str "c"), ("device_key", .str "k")])]),
        ("schedule", [.ok (.obj [("node_uri", .str "https://n")])])]),
    ("https://n",
      [("getinfo", [.ok (.obj [("blockheight", .int 120), ("id", .str Signer.zeros.nodeId)])]),
        ("listfunds", [.ok (.obj [])]), ("listpeers", [.ok (.obj [])]),
        ("listpeerchannels", [last])])]
  store := { entries := [], current := [] }

/-- The state that the node tells of if it replies to the last question that it has no channels. -/
def recoveredState : NodeState :=
  .ofReport ⟨Signer.zeros.nodeId, 120⟩ [] [] []

/-- The methods called, in order. -/
def methods (w : World Script Disk) : List String :=
  w.traffic.filterMap fun
    | .called _ method _ => some method
    | _ => none

/-- What building comes to with the seed of zeros. -/
def recoveredOver (last : Except TransportError Json) :
    Except ServiceError (Services Node) × World Script Disk :=
  (build (Node.connect plainConfig (Signer.repeated 0)) plainConfig (Signer.repeated 0)
    none).outcome (recoveringWorld last)

theorem recoveredOver_eq (last : Except TransportError Json) :
    recoveredOver last =
      (build (Node.connectAs plainConfig .zeros) plainConfig (Signer.repeated 0) none).outcome
        (recoveringWorld last) := by
  rw [recoveredOver, Node.connect_eq_connectAs plainConfig Signer.ofSeed_zeros]

theorem recoveredOver_ok : ∃ s v, recoveredOver (.ok (.obj [])) = (.ok s, v) ∧
    s.storage.directory = "d" ∧ s.nodeInfo = .ok recoveredState ∧
    v.events = NodeEvent.announcing none recoveredState := by
  have hbuilt : (recoveredOver (.ok (.obj []))).1.toOption.map
        (fun s => (s.storage.directory, s.storage.data.nodeState)) =
          some ("d", some recoveredState) ∧
      (recoveredOver (.ok (.obj []))).2.events =
        NodeEvent.announcing none recoveredState := by
    rw [recoveredOver_eq]
    decide +kernel
  rcases hout : recoveredOver (.ok (.obj [])) with ⟨e | s, v⟩
  · rw [hout] at hbuilt
    cases hbuilt.1
  · rw [hout] at hbuilt
    obtain ⟨hs, hevents⟩ := hbuilt
    obtain ⟨hdirectory, hstate⟩ := Prod.mk.inj (Option.some.inj hs)
    refine ⟨s, v, rfl, hdirectory, ?_, hevents⟩
    rw [nodeInfo, hstate]

theorem recoveredOver_error : ∃ v, recoveredOver (.error (.http "gone")) =
      (.error (.node (.connectivity "HTTP transport error: gone")), v) ∧
    methods v = ["get_challenge", "recover", "schedule", "getinfo", "listfunds", "listpeers",
      "listpeerchannels"] ∧
    v.store.entries.map (·.1) = [["d", "storage.json"], ["d"]] := by
  have hbuilt : (recoveredOver (.error (.http "gone"))).1.map (·.node) =
        .error (.node (.connectivity "HTTP transport error: gone")) ∧
      methods (recoveredOver (.error (.http "gone"))).2 =
        ["get_challenge", "recover", "schedule", "getinfo", "listfunds", "listpeers",
          "listpeerchannels"] ∧
      (recoveredOver (.error (.http "gone"))).2.store.entries.map (·.1) =
        [["d", "storage.json"], ["d"]] := by
    rw [recoveredOver_eq]
    decide +kernel
  rcases hout : recoveredOver (.error (.http "gone")) with ⟨e | s, v⟩
  · rw [hout] at hbuilt
    obtain ⟨he, hmethods, hplaces⟩ := hbuilt
    obtain rfl := Except.error.inj he
    exact ⟨v, rfl, hmethods, hplaces⟩
  · rw [hout] at hbuilt
    cases hbuilt.1

/-- A build that goes through, and one that is over with the last question of its sync: this one has
kept the credentials, and raised no event. -/
theorem build_all_or_nothing_recovered :
    (∃ s v, recoveredOver (.ok (.obj [])) = (.ok s, v) ∧
      s.nodeInfo = .ok recoveredState ∧ Storage.load v.store "d" = .ok s.storage.data ∧
      v.events = NodeEvent.announcing none recoveredState) ∧
    ∃ e v p u, recoveredOver (.error (.http "gone")) = (.error e, v) ∧
      e = .node (.connectivity "HTTP transport error: gone") ∧
      Passes (Node.connect plainConfig (Signer.repeated 0)) plainConfig (Signer.repeated 0) none
        (recoveringWorld (.error (.http "gone"))) p u ∧
      Fails (Node.connect plainConfig (Signer.repeated 0)) plainConfig (Signer.repeated 0) p u e v ∧
      methods v = ["get_challenge", "recover", "schedule", "getinfo", "listfunds", "listpeers",
        "listpeerchannels"] ∧
      v.store.entries.map (·.1) = [["d", "storage.json"], ["d"]] ∧ v.events = [] := by
  constructor
  · obtain ⟨s, v, hout, hdirectory, hinfo, hevents⟩ := recoveredOver_ok
    have hbuilt := build_all_or_nothing plainConfig (Signer.repeated 0) none
      (recoveringWorld (.ok (.obj [])))
    rw [← recoveredOver, hout] at hbuilt
    obtain ⟨_, _, _, _, _, _, -, -, -, -, -, hsynced⟩ := hbuilt.synced s rfl
    have hdocument := hsynced.document
    rw [← hsynced.directory, hdirectory] at hdocument
    exact ⟨s, v, hout, hinfo, hdocument, hevents⟩
  · obtain ⟨v, hout, hmethods, hplaces⟩ := recoveredOver_error
    have hbuilt := build_all_or_nothing plainConfig (Signer.repeated 0) none
      (recoveringWorld (.error (.http "gone")))
    rw [← recoveredOver, hout] at hbuilt
    obtain ⟨p, u, hpass, hfail, -, -⟩ := hbuilt.failure _ rfl
    exact ⟨_, v, p, u, hout, rfl, hpass, hfail, hmethods, hplaces, hbuilt.quiet _ rfl⟩

end Services

end HostedNode

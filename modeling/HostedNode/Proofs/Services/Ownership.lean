import HostedNode.Proofs.Services.Building
import HostedNode.Services.Session
import Mathlib.Logic.Relation

/-! # No other node is ever surfaced

Over a hosted node, all that services write, tell and raise is about the node of the seed that they
were built with, whatever the scheduler and the nodes answer and whatever state was cached before
(`Live.no_foreign_node`). What carries this is that a state is only taken from a pull, and a pull
gives a state of the signer's node or fails (`Node.id_of_pull`, `Node.pull_of_foreign`); the signer
stays that of the seed; and the state cached in an earlier life of a directory is told by nobody,
since services that were built have replaced it (`Live.Owned`). -/

namespace HostedNode

open Act Rpc

/-- A state of the node of a seed. -/
def NodeState.Own (seed : Bytes) (s : NodeState) : Prop :=
  ∃ signer, Signer.ofSeed seed = .ok signer ∧ s.id = signer.nodeId

/-- The states that events tell of are of the node of a seed. -/
def NodeEvent.Own (seed : Bytes) (es : List NodeEvent) : Prop :=
  ∀ s ∈ NodeEvent.states es, s.Own seed

namespace NodeEvent

variable {seed : Bytes}

theorem own_nil : Own seed [] := fun _ hs => absurd hs List.not_mem_nil

theorem Own.append {es es' : List NodeEvent} (h : Own seed es) (h' : Own seed es') :
    Own seed (es ++ es') := by
  intro s hs
  rw [states_append] at hs
  rcases List.mem_append.mp hs with hs | hs
  · exact h s hs
  · exact h' s hs

theorem own_announcing (previous : Option NodeState) {s : NodeState} (h : s.Own seed) :
    Own seed (announcing previous s) := by
  intro t ht
  rw [states_announcing] at ht
  split at ht
  · rwa [List.mem_singleton.mp ht]
  · cases ht

end NodeEvent

/-! ### What is written -/

namespace Storage

/-- What the disk is after a storage has tried to keep other data. -/
def keeping (s : Storage) (data : StorageData) (d : Disk) : Disk :=
  (storeOutcome (s.replace data) d).2

/-- A directory is made, or a storage keeps a state or credentials; each may fail halfway. A state
satisfies a condition, and so does a write of credentials, as one of a storage that goes from a disk
to another. -/
inductive Change (P : NodeState → Prop) (Q : Storage → Disk → Disk → Prop) : Disk → Disk → Prop where
  | directories (path : String) (d : Disk) :
      Change P Q d (storeOutcome (Disk.makeDirectories path) d).2
  | state (s : Storage) {state : NodeState} (h : P state) (d : Disk) :
      Change P Q d (s.keeping { s.data with nodeState := some state } d)
  | credentials (s : Storage) (c : StoredCredentials) {d : Disk}
      (h : Q s d (s.keeping { s.data with credentials := some c } d)) :
      Change P Q d (s.keeping { s.data with credentials := some c } d)

/-- Changes are made, one after the other, under these conditions. -/
abbrev Writes (P : NodeState → Prop) (Q : Storage → Disk → Disk → Prop) : Disk → Disk → Prop :=
  Relation.ReflTransGen (Change P Q)

section

variable {P P' : NodeState → Prop} {Q Q' : Storage → Disk → Disk → Prop} {d d' : Disk}

theorem writes_of_eq (h : d' = d) : Writes P Q d d' := by
  rw [h]

theorem Writes.mono (h : Writes P Q d d') (hP : ∀ state, P state → P' state)
    (hQ : ∀ s a b, Q s a b → Q' s a b) : Writes P' Q' d d' := by
  refine h.lift id fun a b hab => ?_
  cases hab with
  | directories path => exact .directories path a
  | state s hstate => exact .state s (hP _ hstate) a
  | credentials s c hcredentials => exact .credentials s c (hQ _ _ _ hcredentials)

end

/-- The state in the document of a directory. -/
def stateIn (d : Disk) (directory : String) : Except ServiceError (Option NodeState) :=
  (load d directory).map StorageData.nodeState

/-- A storage that holds what is in its document leaves the state there as it is when it keeps
credentials. -/
theorem stateIn_keeping {s : Storage} {d : Disk} (h : load d s.directory = .ok s.data)
    (c : StoredCredentials) :
    stateIn (s.keeping { s.data with credentials := some c } d) s.directory =
      stateIn d s.directory := by
  unfold stateIn keeping storeOutcome
  cases hr : s.replace { s.data with credentials := some c } d with
  | ok s' d' =>
    dsimp only
    rw [load_replace hr, h]
    rfl
  | error e d' =>
    dsimp only
    rw [load_congr (read_document (replace_error hr))]

end Storage

namespace Live

variable {σ : Type}

/-! ### Services in use -/

/-- What services are used for: a request of the user, or a sync in the background. -/
inductive Use where
  | request (r : ServiceRequest)
  | background

section

variable {β : Type}

theorem services_answered {α : Type} (s : Services β) (reply : α → ServiceReply)
    (out : Except ServiceError α × World σ Disk) : (answered s reply out).2.services = s := by
  rcases out with ⟨_ | _, _⟩
  · rfl
  · rfl

theorem store_answered {α : Type} (s : Services β) (reply : α → ServiceReply)
    (out : Except ServiceError α × World σ Disk) :
    (answered s reply out).2.world.store = out.2.store := by
  rcases out with ⟨_ | _, _⟩
  · rfl
  · rfl

variable [Backend σ β]

/-- One use. -/
def use (l : Live σ β) : Use → Live σ β
  | .request r => (l.serve r).2
  | .background =>
    match (Session.tick l.services : Act σ Disk ServiceError (Services β)).outcome l.world with
    | (.ok s, w) => ⟨s, w⟩
    | (.error _, w) => ⟨l.services, w⟩

/-- One use after the other. -/
def after (l : Live σ β) (us : List Use) : Live σ β := us.foldl use l

/-- A sync in the background is a sync that the user asks for, but for what is logged. -/
theorem use_background (l : Live σ β) :
    l.use .background = (l.serve .sync).2 ∨
      ∃ e, l.use .background =
        ⟨(l.serve .sync).2.services, (l.serve .sync).2.world.note (.logged e)⟩ := by
  unfold use serve Session.tick
  rw [outcome_bind, outcome_attempt]
  rcases l.services.sync.outcome l.world with ⟨e | s, w⟩
  · exact Or.inr ⟨.of .warn ("background sync failed: " ++ e.message), rfl⟩
  · exact Or.inl rfl

/-! ### What a request leaves alone -/

theorem serve_disconnect (l : Live σ β) :
    (l.serve .disconnect).2.services.node = l.services.node ∧
      (l.serve .disconnect).2.world.store = l.world.store := by
  unfold serve Services.disconnect
  rw [outcome_bind, outcome_ofExcept]
  cases l.services.ensureConnected with
  | error e => exact ⟨rfl, rfl⟩
  | ok u => exact ⟨rfl, rfl⟩

variable [QuietBackend σ β]

theorem node_sync {s s' : Services β} {w w' : World σ Disk}
    (h : s.sync.outcome w = (.ok s', w')) : s'.node = s.node := by
  rcases s.sync_cases w with ⟨e, w1, hsync, -⟩ | ⟨state, w1, w2, -, hsync, -⟩
  · rw [h] at hsync
    cases (Prod.mk.inj hsync).1
  · rw [h] at hsync
    obtain rfl := Except.ok.inj (Prod.mk.inj hsync).1
    rfl

theorem node_serve (l : Live σ β) (r : ServiceRequest) :
    (l.serve r).2.services.node = l.services.node := by
  cases r with
  | sync =>
    unfold serve
    rcases hsync : l.services.sync.outcome l.world with ⟨e | s, w'⟩
    · rfl
    · exact node_sync hsync
  | disconnect => exact (serve_disconnect l).1
  | tellState => exact congrArg Services.node (services_answered _ _ _)
  | sign r => exact congrArg Services.node (services_answered _ _ _)
  | check r => exact congrArg Services.node (services_answered _ _ _)
  | command text => exact congrArg Services.node (services_answered _ _ _)

theorem store_serve (l : Live σ β) {r : ServiceRequest} (hr : r ≠ .sync) :
    (l.serve r).2.world.store = l.world.store := by
  have hstore : ∀ {α : Type} {act : Act σ Disk ServiceError α}, Keeps storeAndEvents act →
      (act.outcome l.world).2.store = l.world.store :=
    fun h => (Prod.mk.inj (h l.world)).1
  cases r with
  | sync => exact absurd rfl hr
  | disconnect => exact (serve_disconnect l).2
  | tellState => exact store_answered _ _ _
  | sign r =>
    refine (store_answered _ _ _).trans (hstore ?_)
    exact keeps_bind (keeps_mapError _ (QuietBackend.sign _ _)) fun _ => keeps_pure _
  | check r =>
    refine (store_answered _ _ _).trans (hstore ?_)
    exact keeps_bind (keeps_mapError _ (QuietBackend.check _ _ _ _)) fun _ => keeps_pure _
  | command text =>
    refine (store_answered _ _ _).trans (hstore ?_)
    exact keeps_bind (keeps_ofExcept _) fun _ => keeps_mapError _ (QuietBackend.command _ _)

end

/-! ### Services of the node of a seed -/

variable {seed : Bytes} {l l' l'' : Live σ Node}

/-- The services are those of the node of a seed: its signer signs, and the state that is told and
is in the document is one of this node. -/
structure Owned (seed : Bytes) (l : Live σ Node) : Prop where
  signer : Signer.ofSeed seed = .ok l.services.node.signer
  state : ∃ s, l.services.nodeInfo = .ok s ∧ s.Own seed
  document : Storage.load l.world.store l.services.storage.directory =
    .ok l.services.storage.data

/-- All that was told, raised and written on the way is about the node of a seed, and no credentials
were written. -/
structure Surfaces (seed : Bytes) (l l' : Live σ Node) : Prop where
  owned : Owned seed l'
  events : ∃ es, l'.world.events = l.world.events ++ es ∧ NodeEvent.Own seed es
  writes : Storage.Writes (NodeState.Own seed) (fun _ _ _ => False) l.world.store l'.world.store

theorem Surfaces.refl (h : Owned seed l) : Surfaces seed l l :=
  ⟨h, ⟨[], (List.append_nil _).symm, NodeEvent.own_nil⟩, .refl⟩

theorem Surfaces.trans (h : Surfaces seed l l') (h' : Surfaces seed l' l'') :
    Surfaces seed l l'' := by
  obtain ⟨es, hes, hown⟩ := h.events
  obtain ⟨es', hes', hown'⟩ := h'.events
  refine ⟨h'.owned, ⟨es ++ es', ?_, hown.append hown'⟩, h.writes.trans h'.writes⟩
  rw [hes', hes, List.append_assoc]

/-- A line that is logged changes nothing of this. -/
theorem Surfaces.logged {s : Services Node} {w : World σ Disk} (h : Surfaces seed l ⟨s, w⟩)
    (e : LogEntry) : Surfaces seed l ⟨s, w.note (.logged e)⟩ := by
  have hevents : (w.note (.logged e)).events = w.events := apart_events.note w _ rfl
  refine ⟨⟨h.owned.signer, h.owned.state, h.owned.document⟩, ?_, h.writes⟩
  rw [hevents]
  exact h.events

variable [Net σ]

/-- The state of a sync of the node of a seed is one of this node. -/
theorem own_of_synced (h : Owned seed l) {s : NodeState} (hs : Synced l s l') : s.Own seed := by
  obtain ⟨w, hpull⟩ := hs.pulled
  exact ⟨_, h.signer, Node.id_of_pull hpull⟩

/-- What a sync of the node of a seed writes is about this node. -/
theorem writes_sync (hsigner : Signer.ofSeed seed = .ok l.services.node.signer) :
    Storage.Writes (NodeState.Own seed) (fun _ _ _ => False) l.world.store
      (l.services.sync.outcome l.world).2.store := by
  rcases l.services.sync_disk l.world with hsame | ⟨state, w1, hpull, hdisk⟩
  · exact Storage.writes_of_eq hsame
  · rw [hdisk]
    have hown : state.Own seed := ⟨_, hsigner, Node.id_of_pull hpull⟩
    exact .single (.state _ hown _)

/-- **One request surfaces the node of the seed alone.** -/
theorem surfaces_serve (h : Owned seed l) (r : ServiceRequest) :
    Surfaces seed l (l.serve r).2 := by
  have hsigner : Signer.ofSeed seed = .ok (l.serve r).2.services.node.signer := by
    rw [node_serve]
    exact h.signer
  have hstill : ∀ l', Still l l' → Signer.ofSeed seed = .ok l'.services.node.signer →
      Storage.Writes (NodeState.Own seed) (fun _ _ _ => False) l.world.store l'.world.store →
      Surfaces seed l l' := by
    intro l' hl hsigner hwrites
    refine ⟨⟨hsigner, ?_, ?_⟩, ⟨[], ?_, NodeEvent.own_nil⟩, hwrites⟩
    · rw [hl.state]
      exact h.state
    · rw [hl.storage]
      exact (Storage.load_congr hl.document).trans h.document
    · rw [hl.events, List.append_nil]
  by_cases hr : r = .sync
  · subst r
    have hwrites : Storage.Writes (NodeState.Own seed) (fun _ _ _ => False) l.world.store
        (l.serve .sync).2.world.store := by
      have hsync := writes_sync h.signer
      unfold serve
      rcases ho : l.services.sync.outcome l.world with ⟨_ | _, _⟩
      · rwa [ho] at hsync
      · rwa [ho] at hsync
    rcases l.sync_cases with ⟨e, l', hserve, hl⟩ | ⟨s, l', hserve, hsynced⟩
    · rw [hserve] at hsigner hwrites ⊢
      exact hstill l' hl hsigner hwrites
    · rw [hserve] at hsigner hwrites ⊢
      have hown := own_of_synced h hsynced
      refine ⟨⟨hsigner, ⟨s, hsynced.state, hown⟩, ?_⟩,
        ⟨_, hsynced.events, NodeEvent.own_announcing _ hown⟩, hwrites⟩
      rw [hsynced.directory]
      exact hsynced.document
  · exact hstill _ (still_serve l hr) hsigner (Storage.writes_of_eq (store_serve l hr))

theorem surfaces_use (h : Owned seed l) (u : Use) : Surfaces seed l (l.use u) := by
  cases u with
  | request r => exact surfaces_serve h r
  | background =>
    have hsync := surfaces_serve h .sync
    rcases use_background l with hl | ⟨e, hl⟩
    · rw [hl]
      exact hsync
    · rw [hl]
      exact hsync.logged e

/-- **However services are used, the node of the seed alone is surfaced.** -/
theorem surfaces_after (h : Owned seed l) (us : List Use) : Surfaces seed l (l.after us) := by
  induction us generalizing l with
  | nil => exact .refl h
  | cons u us ih =>
    have hu := surfaces_use h u
    exact hu.trans (ih hu.owned)

/-- Services refuse another node: if it is not the node of the signer that answers, a sync fails
for the credentials and changes nothing that is told, kept or raised. -/
def RefusesOthers (l : Live σ Node) : Prop :=
  ∀ c info, l.services.connected = true → l.services.node.link = some c →
    Node.reported c l.world.net = .ok info → info.id ≠ l.services.node.signer.nodeId →
    ∃ l', l.serve .sync = (.failed (.node (.credentials ("scheduled node reports id " ++ info.id ++
      ", expected " ++ l.services.node.signer.nodeId))), l') ∧ Still l l'

theorem refusesOthers (l : Live σ Node) : RefusesOthers l := by
  intro c info hc hlink hinfo hid
  have hconnected : l.services.ensureConnected = .ok () := by
    unfold Services.ensureConnected
    rw [if_pos hc]
  obtain ⟨w1, hpull⟩ := Node.pull_of_foreign (κ := Disk) hlink l.world hinfo hid
  have hpull : (Backend.pull l.services.node : Act σ Disk NodeError NodeState).outcome l.world =
      _ := hpull
  have hserve : l.serve .sync = (.failed (.node (.credentials ("scheduled node reports id " ++
      info.id ++ ", expected " ++ l.services.node.signer.nodeId))), ⟨l.services, w1⟩) := by
    unfold serve
    rw [Services.outcome_sync hconnected, hpull]
    rfl
  rcases l.sync_cases with ⟨e, l', hfail, hstill⟩ | ⟨s, l', hdone, -⟩
  · rw [hserve] at hfail
    obtain ⟨-, rfl⟩ := Prod.mk.inj hfail
    exact ⟨_, hserve, hstill⟩
  · rw [hserve] at hdone
    cases (Prod.mk.inj hdone).1

/-! ### Building -/

section

open Services

variable {config : Config} {given : Option Storage} {w v v' : World σ Disk} {p p' : Progress Node}

theorem signer_of_obtained {storage kept : Storage} {node : Node}
    (h : obtainedOver (Node.connect config seed) storage v = (.ok (node, kept), v')) :
    Signer.ofSeed seed = .ok node.signer := by
  unfold obtainedOver at h
  rw [outcome_within, outcome_mapError] at h
  rcases ho : (Node.connect config seed : Act σ Workspace NodeError Node).outcome
    { v with store := { disk := v.store, storage } } with ⟨e | n, v1⟩
  · rw [ho] at h
    cases (Prod.mk.inj h).1
  · rw [ho] at h
    obtain ⟨rfl, -⟩ := Prod.mk.inj (Except.ok.inj (Prod.mk.inj h).1)
    exact Node.signer_of_connect ho

theorem signer_of_passes (h : Passes (Node.connect config seed) config seed given w p v)
    {n : Node} (hn : p.node? = some n) : Signer.ofSeed seed = .ok n.signer := by
  induction h generalizing n with
  | begun => cases hn
  | next hpass hnext ih =>
    cases hnext with
    | checks _ _ => cases hn
    | takes _ _ => cases hn
    | makes _ => cases hn
    | opens _ => cases hn
    | obtains ho =>
      obtain rfl := Option.some.inj hn
      exact signer_of_obtained ho
    | starts hstart =>
      obtain rfl := Option.some.inj hn
      rw [Node.signer_of_start hstart]
      exact ih rfl
    | syncs hsync =>
      obtain rfl := Option.some.inj hn
      rw [node_sync hsync]
      exact ih rfl

/-- How a build writes credentials: by the storage that was opened, or given. The state in the
document is then as it was, unless the storage was given and did not hold what was in its
document. -/
def Beside (config : Config) (seed : Bytes) (given : Option Storage) (w : World σ Disk)
    (s : Storage) (d d' : Disk) : Prop :=
  (∃ v, Passes (Node.connect config seed) config seed given w (.opened s) v) ∧
  ((∀ o, given = some o → Storage.load w.store o.directory = .ok o.data) →
    Storage.stateIn d' s.directory = Storage.stateIn d s.directory)

/-- A storage that was opened holds what is in its document. -/
theorem load_of_opened {s : Storage}
    (h : Passes (Node.connect config seed) config seed given w (.opened s) v)
    (hgiven : ∀ o, given = some o → Storage.load w.store o.directory = .ok o.data) :
    Storage.load v.store s.directory = .ok s.data := by
  cases h with
  | next hpass hnext =>
    cases hnext with
    | takes _ hs =>
      cases hpass with
      | begun => exact hgiven s hs
      | next _ hnext => cases hnext
    | opens hload => exact hload

theorem writes_of_confined (h : Passes (Node.connect config seed) config seed given w p v)
    (hv : Confined config p v v') :
    Storage.Writes (NodeState.Own seed) (Beside config seed given w) v.store v'.store := by
  have hdisk := hv.disk
  cases p with
  | begun => exact Storage.writes_of_eq hdisk
  | checked =>
    rw [show v'.store = _ from hdisk]
    exact .single (.directories config.workingDir v.store)
  | made => exact Storage.writes_of_eq hdisk
  | opened s =>
    rcases hdisk with hsame | ⟨c, hdisk⟩
    · exact Storage.writes_of_eq hsame
    · rw [hdisk]
      have hstate := fun hgiven => Storage.stateIn_keeping (load_of_opened h hgiven) c
      exact .single (.credentials s c ⟨⟨v, h⟩, hstate⟩)
  | obtained n s => exact Storage.writes_of_eq hdisk
  | started n s =>
    rcases hdisk with hsame | ⟨state, hid, hdisk⟩
    · exact Storage.writes_of_eq hsame
    · rw [hdisk]
      have hown : state.Own seed := ⟨_, signer_of_passes h rfl, hid⟩
      exact .single (.state s hown v.store)
  | done s => exact Storage.writes_of_eq hdisk

theorem writes_of_passes (h : Passes (Node.connect config seed) config seed given w p v) :
    Storage.Writes (NodeState.Own seed) (Beside config seed given w) w.store v.store := by
  induction h with
  | begun => exact .refl
  | next hpass hnext ih =>
    exact ih.trans (writes_of_confined hpass (confined_of_advances hnext))

/-- Services that were built are those of the node of the seed, and so are all events. -/
theorem owned_of_passes {s : Services Node}
    (h : Passes (Node.connect config seed) config seed given w (.done s) v) :
    Owned seed ⟨s, v⟩ ∧ ∃ es, v.events = w.events ++ es ∧ NodeEvent.Own seed es := by
  obtain ⟨opened, u0, node, storage, u, state, -, -, -, hstarted, hevents, hsynced⟩ :=
    synced_of_passes h
  have hsigner := signer_of_passes hstarted rfl
  obtain ⟨w1, hpull⟩ := hsynced.pulled
  have hown : state.Own seed := ⟨_, hsigner, Node.id_of_pull hpull⟩
  have hraised := hsynced.events
  rw [show (⟨⟨node, storage, true⟩, u⟩ : Live σ Node).world.events = w.events from hevents]
    at hraised
  refine ⟨⟨signer_of_passes h rfl, ⟨state, hsynced.state, hown⟩, ?_⟩, _, hraised,
    NodeEvent.own_announcing _ hown⟩
  rw [hsynced.directory]
  exact hsynced.document

end

/-- A build whose first sync is answered by another node fails for the credentials and raises
nothing, and the document is as it was before that sync. -/
def RefusesOther (config : Config) (seed : Bytes) (given : Option Storage) (w : World σ Disk)
    (out : Except ServiceError (Services Node) × World σ Disk) : Prop :=
  ∀ node storage v c info,
    Services.Passes (Node.connect config seed) config seed given w (.started node storage) v →
    node.link = some c → Node.reported c v.net = .ok info → info.id ≠ node.signer.nodeId →
    (∃ m, out.1 = .error (.node (.credentials m))) ∧ out.2.events = w.events ∧
      out.2.store.read storage.path = v.store.read storage.path

theorem refusesOther (config : Config) (seed : Bytes) (given : Option Storage)
    (w : World σ Disk) :
    RefusesOther config seed given w
      ((Services.build (Node.connect config seed) config seed given).outcome w) := by
  intro node storage v c info hpass hlink hinfo hid
  obtain ⟨l', hserve, hstill⟩ := refusesOthers ⟨⟨node, storage, true⟩, v⟩ c info rfl hlink hinfo hid
  rcases hsync : (Services.sync ⟨node, storage, true⟩ : Act σ Disk ServiceError
    (Services Node)).outcome v with ⟨e | s, v'⟩
  · unfold serve at hserve
    rw [hsync] at hserve
    obtain ⟨hreply, rfl⟩ := Prod.mk.inj hserve
    obtain rfl := ServiceReply.failed.inj hreply
    rw [Services.outcome_of_passes hpass, Services.outcome_of_fails given (.unsynced hsync)]
    exact ⟨⟨_, rfl⟩, hstill.events.trans (Services.events_of_passes hpass trivial), hstill.document⟩
  · unfold serve at hserve
    rw [hsync] at hserve
    cases (Prod.mk.inj hserve).1

/-- A build surfaces the node of the seed alone, and so do the services that come of it, however
they are used. One that fails raises nothing. -/
structure OwnOnly (config : Config) (seed : Bytes) (given : Option Storage) (w : World σ Disk)
    (out : Except ServiceError (Services Node) × World σ Disk) : Prop where
  events : ∃ es, out.2.events = w.events ++ es ∧ NodeEvent.Own seed es
  failed : ∀ e, out.1 = .error e → out.2.events = w.events
  writes : Storage.Writes (NodeState.Own seed) (Beside config seed given w) w.store out.2.store
  refuses : RefusesOther config seed given w out
  handle : ∀ s, out.1 = .ok s → ∀ us, Surfaces seed ⟨s, out.2⟩ (after ⟨s, out.2⟩ us)

/-- **No other node is ever surfaced.** Whatever the scheduler and the nodes answer, with whatever
storage: all states that a build and the services that come of it tell, raise and write, at any time
and however they are used, are of the node of the seed. What is written besides states is
credentials, by a build alone, and that leaves the state in the document as it was. A sync fails for
the credentials if another node answers, and then nothing that is told, kept or raised changes. -/
theorem no_foreign_node (σ : Type) [Net σ] :
    (∀ l : Live σ Node, RefusesOthers l) ∧
    ∀ (config : Config) (seed : Bytes) (given : Option Storage) (w : World σ Disk),
      OwnOnly config seed given w
        ((Services.build (Node.connect config seed) config seed given).outcome w) := by
  refine ⟨refusesOthers, fun config seed given w => ?_⟩
  have hrefuses := refusesOther config seed given w
  rcases Services.build_cases (Node.connect config seed) config seed given w with
    ⟨s, v, hpass, hout⟩ | ⟨p, v, e, v', hpass, hfail, hout⟩
  · obtain ⟨howned, hevents⟩ := owned_of_passes hpass
    rw [hout] at hrefuses ⊢
    constructor
    case events => exact hevents
    case failed => rintro e ⟨⟩
    case writes => exact writes_of_passes hpass
    case refuses => exact hrefuses
    case handle =>
      rintro s' hs' us
      obtain rfl := Except.ok.inj hs'
      exact surfaces_after howned us
  · obtain ⟨hconfined, -, hevents⟩ := Services.confined_of_fails hfail
    have hp : p.Unfinished := by
      rcases p.unfinished_or_done with hp | ⟨s, rfl⟩
      · exact hp
      · cases hfail
    have hquiet : v'.events = w.events := hevents.trans (Services.events_of_passes hpass hp)
    have hwrites := (writes_of_passes hpass).trans (writes_of_confined hpass hconfined)
    rw [hout] at hrefuses ⊢
    constructor
    case events => exact ⟨[], by rw [hquiet, List.append_nil], NodeEvent.own_nil⟩
    case failed => exact fun _ _ => hquiet
    case writes => exact hwrites
    case refuses => exact hrefuses
    case handle => rintro s ⟨⟩

/-- Services that were started with the node `02aa`, and at the other end the node `02ab`. -/
def misled : Live Script Node where
  services :=
    ⟨⟨default, ⟨1, "02aa", "00"⟩, default, Node.schedulerOf default, some ⟨"n", ⟨none, []⟩⟩⟩,
      ⟨"d", ⟨none, none⟩⟩, true⟩
  world :=
    { net := [("n", [("getinfo", [.ok (.obj [("id", .str "02ab"), ("blockheight", .int 7)])])])]
      store := Storage.emptyDisk }

theorem misled_refuses :
    ∃ l', misled.serve .sync = (.failed (.node (.credentials
      "scheduled node reports id 02ab, expected 02aa")), l') ∧ Still misled l' := by
  have hreported : Node.reported ⟨"n", ⟨none, []⟩⟩ misled.world.net = .ok ⟨"02ab", 7⟩ := rfl
  exact (no_foreign_node Script).1 misled _ _ rfl rfl hreported (by decide)

end Live

end HostedNode

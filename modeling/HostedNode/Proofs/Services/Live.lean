import HostedNode.Proofs.Services.Sync

/-! # Services over time

`Live` services are asked one thing after the other. Only a sync changes what they tell, raises
events or changes the document (`Live.still_serve`), and it does so only if it succeeds
(`Live.sync_cases`): then it tells the state that the node gave, and raises the events that announce
it. -/

namespace HostedNode

open Act Rpc

/-! ### Requests -/

/-- Services with the world that they run in. -/
structure Live (σ β : Type) where
  services : Services β
  world : World σ Disk

/-- What services are asked for. -/
inductive ServiceRequest where
  | sync
  | disconnect
  | tellState
  | sign (request : SignMessageRequest)
  | check (request : CheckMessageRequest)
  | command (text : String)

/-- What comes of a request. -/
inductive ServiceReply where
  | done
  | failed (cause : ServiceError)
  | state (state : NodeState)
  | signed (response : SignMessageResponse)
  | checked (response : CheckMessageResponse)
  | answer (text : String)

namespace NodeEvent

/-- The events that announce a state after another one, or after none: a new block if there was no
state or a lower one, then the state if there was none or another one. -/
def announcing (previous : Option NodeState) (s : NodeState) : List NodeEvent :=
  (if ∀ p ∈ previous, p.blockHeight < s.blockHeight then [.newBlock s.blockHeight] else []) ++
    (if ∀ p ∈ previous, p ≠ s then [.nodeStateChanged s] else []) ++ [.synced]

theorem eventsOf_eq (previous : Option NodeState) (s : NodeState) :
    Services.eventsOf previous s = announcing previous s := by
  unfold Services.eventsOf announcing
  cases previous with
  | none => simp
  | some p =>
    have hchanged : (some p = some s) = ¬ (∀ q ∈ some p, q ≠ s) := by simp
    simp only [hchanged, ite_not, Option.mem_def, Option.some.injEq, forall_eq']

end NodeEvent

namespace Live

variable {σ β : Type}

/-- The reply to what gives services; if it fails, those from before are left. -/
def settle (before : Services β) :
    Except ServiceError (Services β) × World σ Disk → ServiceReply × Live σ β
  | (.ok s, w) => (.done, ⟨s, w⟩)
  | (.error e, w) => (.failed e, ⟨before, w⟩)

/-- The reply to a question, which leaves the services as they are. -/
def answered {α : Type} (s : Services β) (reply : α → ServiceReply) :
    Except ServiceError α × World σ Disk → ServiceReply × Live σ β
  | (.ok a, w) => (reply a, ⟨s, w⟩)
  | (.error e, w) => (.failed e, ⟨s, w⟩)

/-- The state that is told, if one is. -/
def known (l : Live σ β) : Option NodeState := l.services.nodeInfo.toOption

theorem known_eq (l : Live σ β) : l.known = l.services.storage.data.nodeState := by
  unfold known Services.nodeInfo
  cases l.services.storage.data.nodeState <;> rfl

/-- A request raised no events, and what is told and what is in the document are as before. -/
structure Still (l l' : Live σ β) : Prop where
  events : l'.world.events = l.world.events
  state : l'.services.nodeInfo = l.services.nodeInfo
  storage : l'.services.storage = l.services.storage
  document : l'.world.store.read l.services.storage.path =
    l.world.store.read l.services.storage.path

/-- A question that leaves the store and the events alone leaves all that is told alone. -/
theorem still_answered {α : Type} (l : Live σ β) (reply : α → ServiceReply)
    {out : Except ServiceError α × World σ Disk}
    (h : storeAndEvents out.2 = storeAndEvents l.world) :
    Still l (answered l.services reply out).2 := by
  obtain ⟨hstore, hevents⟩ := Prod.mk.inj h
  rcases out with ⟨_ | a, w⟩
  · exact ⟨hevents, rfl, rfl, congrArg (Disk.read · _) hstore⟩
  · exact ⟨hevents, rfl, rfl, congrArg (Disk.read · _) hstore⟩

variable [Backend σ β]

/-- A request. -/
def serve (l : Live σ β) : ServiceRequest → ServiceReply × Live σ β
  | .sync => settle l.services (l.services.sync.outcome l.world)
  | .disconnect => settle l.services (l.services.disconnect.outcome l.world)
  | .tellState => answered l.services .state (l.services.nodeInfo, l.world)
  | .sign r => answered l.services .signed ((l.services.signMessage r).outcome l.world)
  | .check r => answered l.services .checked ((l.services.checkMessage r).outcome l.world)
  | .command text => answered l.services .answer ((l.services.command text).outcome l.world)

/-- One request after the other. -/
def run (l : Live σ β) (rs : List ServiceRequest) : Live σ β :=
  rs.foldl (fun l r => (l.serve r).2) l

/-- A sync came to a state: the one that the node gave. It is told and in the document, and the
events that were raised announce it. -/
structure Synced (l : Live σ β) (s : NodeState) (l' : Live σ β) : Prop where
  pulled : ∃ w, (Backend.pull l.services.node : Act σ Disk NodeError NodeState).outcome l.world =
    (.ok s, w)
  events : l'.world.events = l.world.events ++ NodeEvent.announcing l.known s
  state : l'.services.nodeInfo = .ok s
  directory : l'.services.storage.directory = l.services.storage.directory
  document : Storage.load l'.world.store l.services.storage.directory =
    .ok l'.services.storage.data

/-! ### What a request changes -/

variable (l : Live σ β)

theorem still_disconnect : Still l (l.serve .disconnect).2 := by
  unfold serve Services.disconnect
  rw [outcome_bind, outcome_ofExcept]
  cases l.services.ensureConnected with
  | error e => exact ⟨rfl, rfl, rfl, rfl⟩
  | ok u =>
    let said : Happening :=
      .logged (.of .info ("disconnected from node " ++ Backend.nodeId σ l.services.node))
    exact ⟨apart_events.note l.world said rfl, rfl, rfl, rfl⟩

theorem synced_of_keeps {s : Services β} {w : World σ Disk} {state : NodeState}
    (h : s.SyncKeeps w state) :
    ∃ l', serve ⟨s, w⟩ .sync = (.done, l') ∧ Synced ⟨s, w⟩ state l' := by
  obtain ⟨w1, w', hpull, hsync, hevents, hload⟩ := h
  refine ⟨⟨s.keeping state, w'⟩, ?_, ⟨w1, hpull⟩, ?_, rfl, rfl, hload⟩
  · unfold serve
    rw [hsync]
    rfl
  · rw [known_eq, ← NodeEvent.eventsOf_eq]
    exact hevents

variable [QuietBackend σ β]

/-- **Only a sync changes what is told.** -/
theorem still_serve {r : ServiceRequest} (hr : r ≠ .sync) : Still l (l.serve r).2 := by
  cases r with
  | sync => exact absurd rfl hr
  | disconnect => exact still_disconnect l
  | tellState => exact still_answered l _ rfl
  | sign r =>
    have hsign : Keeps storeAndEvents (l.services.signMessage r : Act σ Disk ServiceError _) :=
      keeps_bind (keeps_mapError _ (QuietBackend.sign _ _)) fun _ => keeps_pure _
    exact still_answered l _ (hsign l.world)
  | check r =>
    have hcheck : Keeps storeAndEvents (l.services.checkMessage r : Act σ Disk ServiceError _) :=
      keeps_bind (keeps_mapError _ (QuietBackend.check _ _ _ _)) fun _ => keeps_pure _
    exact still_answered l _ (hcheck l.world)
  | command text =>
    have hcommand : Keeps storeAndEvents (l.services.command text : Act σ Disk ServiceError _) :=
      keeps_bind (keeps_ofExcept _) fun _ => keeps_mapError _ (QuietBackend.command _ _)
    exact still_answered l _ (hcommand l.world)

/-- **A sync fails and changes nothing that is told, or comes to the state that the node gave.** -/
theorem sync_cases :
    (∃ e l', l.serve .sync = (.failed e, l') ∧ Still l l') ∨
      ∃ s l', l.serve .sync = (.done, l') ∧ Synced l s l' := by
  obtain ⟨s, w⟩ := l
  rcases s.sync_cases w with ⟨e, w', hsync, hevents, hread⟩ | ⟨state, hkeeps⟩
  · refine Or.inl ⟨e, ⟨s, w'⟩, ?_, hevents, rfl, rfl, hread⟩
    unfold serve
    rw [hsync]
    rfl
  · exact Or.inr ⟨state, synced_of_keeps hkeeps⟩

end Live

end HostedNode

import HostedNode.Proofs.Services.Live
import HostedNode.Proofs.Services.Moves

/-! # What a sync under way comes to

For each phase of a call of `sync` that holds the lock there is what is left of it (`Phase.rest`),
and so what it will come to if nothing comes in between: its `verdict`. A step that the call takes
leaves its verdict as it is (`Concurrent.verdict_pull` and the others after it); so does whatever
changes neither the node, nor the storage, nor the world but for lines logged (`verdict_congr`). At
the beginning the verdict is that of a sync from start to end (`Live.serve_sync`). -/

namespace HostedNode

open Act Rpc

variable {σ β : Type}

/-! ### Backends do not look at what was logged -/

/-- Backends that do not look at the lines that were logged. -/
class BlindBackend (σ β : Type) [Backend σ β] : Prop where
  pull : ∀ {κ : Type} (n : β), Blind (Backend.pull n : Act σ κ NodeError NodeState)

theorem blind_askNode {κ α : Type} [Net σ] (c : Connection) (method : String)
    (answer : Json.Decoder α) :
    Blind (Node.ask c method answer : Act σ κ NodeError (Except NodeError α)) :=
  blind_attempt (blind_bind (blind_mapError _ (blind_call _ _ _)) fun _ => blind_ofExcept _)

instance [Net σ] : BlindBackend σ Node where
  pull _ :=
    blind_bind (blind_ofExcept _) fun c =>
      blind_bind (blind_log _ _) fun _ =>
        blind_bind (blind_askNode c _ _) fun _ =>
          blind_bind (blind_askNode c _ _) fun _ =>
            blind_bind (blind_askNode c _ _) fun _ =>
              blind_bind (blind_askNode c _ _) fun _ => blind_ofExcept _

theorem blind_answer {κ : Type} (question : String) (args : List String) :
    Blind (StandIn.answer question args : Act StandIn.Answers κ NodeError Json) := by
  intro w w' hw
  obtain ⟨hnet, hrest⟩ := Prod.mk.inj hw
  unfold outcome StandIn.answer
  rw [hnet]
  rcases w'.net.take StandIn.address question with ⟨_ | _ | _, net⟩
  all_goals exact ⟨rfl, World.sight_note (congrArg (Prod.mk net) hrest) _⟩

instance : BlindBackend StandIn.Answers StandIn where
  pull _ := blind_bind (blind_answer _ _) fun _ => blind_ofExcept _

/-! ### What is left of a call -/

namespace Phase

/-- The call holds the lock. -/
def InSection : Phase → Prop
  | called => False
  | waiting => False
  | finished _ => False
  | _ => True

/-- What is left once the state is kept. -/
def announce (storage : Storage) (state : NodeState) (events : List NodeEvent) :
    Act σ Disk ServiceError Storage := do
  raiseAll events
  log .debug ("synced node " ++ state.id ++ " at height " ++ toString state.blockHeight.toNat)
  return storage

/-- What is left once the node gave its state. -/
def keep (storage : Storage) (previous : Option NodeState) (state : NodeState) :
    Act σ Disk ServiceError Storage := do
  let storage ← storage.setNodeState state
  announce storage state (Services.eventsOf previous state)

/-- What is left once the last known state was looked at. -/
def inquire [Backend σ β] (s : Services β) (previous : Option NodeState) :
    Act σ Disk ServiceError Storage := do
  let state ← mapError .node (Backend.pull s.node)
  keep s.storage previous state

/-- What is left of a call in some phase; it gives the storage that is left. -/
def rest [Backend σ β] (s : Services β) : Phase → Act σ Disk ServiceError Storage
  | called => return s.storage
  | waiting => return s.storage
  | holding => inquire s s.storage.data.nodeState
  | informed previous => inquire s previous
  | pulled previous state => keep s.storage previous state
  | raising state events => announce s.storage state events
  | leaving (.ok ()) => return s.storage
  | leaving (.error e) => throw e
  | finished _ => return s.storage

theorem blind_raiseAll {κ ε : Type} (es : List NodeEvent) :
    Blind (raiseAll es : Act σ κ ε Unit) := by
  induction es with
  | nil => exact blind_pure _
  | cons e es ih =>
    exact blind_bind (blind_bind (blind_log _ _) fun _ =>
      blind_bind (blind_note _) fun _ => blind_pure ()) fun _ => ih

theorem blind_announce (storage : Storage) (state : NodeState) (es : List NodeEvent) :
    Blind (announce storage state es : Act σ Disk ServiceError Storage) :=
  blind_bind (blind_raiseAll es) fun _ => blind_bind (blind_log _ _) fun _ => blind_pure _

theorem blind_keep (storage : Storage) (previous : Option NodeState) (state : NodeState) :
    Blind (keep storage previous state : Act σ Disk ServiceError Storage) :=
  blind_bind (blind_mapError _ (blind_onStore _)) fun _ => blind_announce _ _ _

variable [Backend σ β] [BlindBackend σ β]

theorem blind_inquire (s : Services β) (previous : Option NodeState) :
    Blind (inquire s previous : Act σ Disk ServiceError Storage) :=
  blind_bind (blind_mapError _ (BlindBackend.pull _)) fun _ => blind_keep _ _ _

theorem blind_rest (s : Services β) (p : Phase) :
    Blind (rest s p : Act σ Disk ServiceError Storage) := by
  cases p with
  | called => exact blind_pure _
  | waiting => exact blind_pure _
  | holding => exact blind_inquire s _
  | informed previous => exact blind_inquire s previous
  | pulled previous state => exact blind_keep _ _ _
  | raising state events => exact blind_announce _ _ _
  | leaving result =>
    cases result with
    | ok u => exact blind_pure _
    | error e => exact blind_throw _
  | finished result => exact blind_pure _

end Phase

/-! ### Verdicts -/

/-- What a call comes to: its result, the storage after it, and the world as steps see it. -/
structure Verdict (σ : Type) where
  result : Except ServiceError Unit
  storage : Storage
  sight : σ × Disk × List Happening

namespace Verdict

/-- What a call comes to that gives a storage, or fails and leaves the one before. -/
def of (before : Storage) : Except ServiceError Storage × World σ Disk → Verdict σ
  | (.ok storage, w) => ⟨.ok (), storage, w.sight⟩
  | (.error e, w) => ⟨.error e, before, w.sight⟩

/-- The reply to a request that comes to a result. -/
def reply : Except ServiceError Unit → ServiceReply
  | .ok () => .done
  | .error e => .failed e

end Verdict

variable [Backend σ β]

/-- What a call comes to from a phase on, if nothing comes in between. -/
def verdict (s : Services β) (w : World σ Disk) (p : Phase) : Verdict σ :=
  Verdict.of s.storage ((p.rest s).outcome w)

section

variable {s s' : Services β} {w w' : World σ Disk} {previous : Option NodeState}
  {state : NodeState}

/-- What was logged and whether the services are connected has no part in a verdict. -/
theorem verdict_congr [BlindBackend σ β] (hnode : s'.node = s.node)
    (hstorage : s'.storage = s.storage) (hw : w'.sight = w.sight) (p : Phase) :
    verdict s' w' p = verdict s w p := by
  have hrest : (p.rest s' : Act σ Disk ServiceError Storage) = p.rest s := by
    cases p with
    | leaving result => cases result <;> simp only [Phase.rest, hstorage]
    | _ => simp only [Phase.rest, Phase.inquire, hnode, hstorage]
  obtain ⟨hresult, hsight⟩ := Phase.blind_rest s p w' w hw
  unfold verdict
  rw [hrest, hstorage]
  rcases ho : (p.rest s : Act σ Disk ServiceError Storage).outcome w with ⟨r, v⟩
  rcases ho' : (p.rest s : Act σ Disk ServiceError Storage).outcome w' with ⟨r', v'⟩
  rw [ho, ho'] at hresult hsight
  obtain rfl : r' = r := hresult
  have hsight : v'.sight = v.sight := hsight
  cases r' with
  | ok storage => simp only [Verdict.of, hsight]
  | error e => simp only [Verdict.of, hsight]

theorem verdict_leaving (s : Services β) (w : World σ Disk) (r : Except ServiceError Unit) :
    verdict s w (.leaving r) = ⟨r, s.storage, w.sight⟩ := by
  cases r with
  | ok u => rfl
  | error e => rfl

theorem verdict_holding (s : Services β) (w : World σ Disk) :
    verdict s w (.informed s.storage.data.nodeState) = verdict s w .holding := rfl

/-! ### The steps of a call leave its verdict as it is -/

/-- Announcing a state never fails. -/
theorem outcome_announce (storage : Storage) (state : NodeState) (es : List NodeEvent)
    (w : World σ Disk) : ∃ w', (Phase.announce storage state es).outcome w = (.ok storage, w') := by
  obtain ⟨w1, hw1, -, -⟩ := outcome_raiseAll (ε := ServiceError) es w
  unfold Phase.announce
  rw [outcome_bind, hw1]
  exact ⟨_, rfl⟩

theorem verdict_pull (h : (mapError ServiceError.node (Backend.pull s.node) :
      Act σ Disk ServiceError NodeState).outcome w = (.ok state, w')) :
    verdict s w' (.pulled previous state) = verdict s w (.informed previous) := by
  unfold verdict Phase.rest Phase.inquire
  rw [outcome_bind, h]

theorem verdict_unpulled {e : ServiceError}
    (h : (mapError ServiceError.node (Backend.pull s.node) :
      Act σ Disk ServiceError NodeState).outcome w = (.error e, w')) :
    verdict s w' (.leaving (.error e)) = verdict s w (.informed previous) := by
  rw [verdict_leaving]
  unfold verdict Phase.rest Phase.inquire
  rw [outcome_bind, h]
  rfl

theorem verdict_keep {storage : Storage}
    (h : (s.storage.setNodeState state).outcome w = (.ok storage, w')) :
    verdict { s with storage } w' (.raising state (Services.eventsOf previous state)) =
      verdict s w (.pulled previous state) := by
  obtain ⟨v, hv⟩ := outcome_announce storage state (Services.eventsOf previous state) w'
  unfold verdict Phase.rest Phase.keep
  rw [outcome_bind, h]
  dsimp only
  rw [hv]
  rfl

theorem verdict_unkept {e : ServiceError}
    (h : (s.storage.setNodeState state).outcome w = (.error e, w')) :
    verdict s w' (.leaving (.error e)) = verdict s w (.pulled previous state) := by
  rw [verdict_leaving]
  unfold verdict Phase.rest Phase.keep
  rw [outcome_bind, h]
  rfl

/-- It is all the same to a call whether the listener is gone: only a line more is logged. -/
theorem verdict_raise [BlindBackend σ β] {gone : Bool} {e : NodeEvent} {es : List NodeEvent}
    (h : (raise gone e : Act σ Disk ServiceError Unit).outcome w = (.ok (), w')) :
    verdict s w' (.raising state es) = verdict s w (.raising state (e :: es)) := by
  obtain ⟨v, hv, hsight, -⟩ := outcome_raise (ε := ServiceError) gone e w
  obtain ⟨v', hv', hsight', -⟩ := outcome_raise (ε := ServiceError) false e w
  obtain rfl : v = w' := (Prod.mk.inj (hv.symm.trans h)).2
  rw [verdict_congr rfl rfl (hsight.trans hsight'.symm)]
  show Verdict.of _ ((Phase.announce s.storage state es).outcome v') =
    Verdict.of _ ((Phase.announce s.storage state (e :: es)).outcome w)
  unfold Phase.announce
  rw [raiseAll, bind_assoc, outcome_bind _ _ w, hv']

theorem verdict_announced (s : Services β) (state : NodeState) {w w' : World σ Disk}
    (h : (log .debug ("synced node " ++ state.id ++ " at height " ++
      toString state.blockHeight.toNat) : Act σ Disk ServiceError Unit).outcome w = (.ok (), w')) :
    verdict s w' (.leaving (.ok ())) = verdict s w (.raising state []) := by
  show _ = Verdict.of _ ((Phase.announce s.storage state []).outcome w)
  unfold Phase.announce
  rw [raiseAll, pure_bind, outcome_bind _ _ w, h]
  rfl

end

/-! ### A sync from start to end -/

namespace Live

/-- **A sync comes to the verdict that it has at its beginning.** -/
theorem serve_sync {l : Live σ β} (hc : l.services.connected = true) :
    ∃ w', l.serve .sync =
        (Verdict.reply (verdict l.services l.world .holding).result,
          ⟨{ l.services with storage := (verdict l.services l.world .holding).storage }, w'⟩) ∧
      w'.sight = (verdict l.services l.world .holding).sight := by
  obtain ⟨s, w⟩ := l
  have hconnected : s.ensureConnected = .ok () := by
    unfold Services.ensureConnected
    rw [if_pos hc]
  have hsync : s.sync.outcome w = (do
      let storage ← Phase.rest s .holding
      return { s with storage } : Act σ Disk ServiceError (Services β)).outcome w := by
    unfold Services.sync Phase.rest Phase.inquire Phase.keep Phase.announce
    simp only [bind_assoc, pure_bind]
    rw [outcome_bind, outcome_ofExcept, hconnected]
  unfold serve verdict
  dsimp only
  rw [hsync, outcome_bind]
  rcases (Phase.rest s .holding : Act σ Disk ServiceError Storage).outcome w with ⟨e | storage, w'⟩
  · exact ⟨w', rfl, rfl⟩
  · exact ⟨w', rfl, rfl⟩

end Live

end HostedNode

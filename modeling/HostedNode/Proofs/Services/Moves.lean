import HostedNode.Proofs.World.Blind
import HostedNode.Proofs.World.Keeps
import HostedNode.Services.Interleaving

/-! # What moves leave alone

Raising an event is to the world that the event was raised, and a line logged (`Act.outcome_raise`).
A step of a call leaves the other calls and the connection alone
(`Concurrent.leavesOthers_advance`), and a disconnect leaves everything alone but the connection
(`Concurrent.step_disconnect`). So a call that was not checked before the services were disconnected
never gets the lock, and its next step, which does nothing else, ends it (`Concurrent.Late`). -/

namespace HostedNode

open Act

/-- Raising an event notes it, and does nothing else but log, whether or not the listener is
gone. -/
theorem Act.outcome_raise {σ κ ε : Type} (gone : Bool) (e : NodeEvent) (w : World σ κ) :
    ∃ w', (raise gone e : Act σ κ ε Unit).outcome w = (.ok (), w') ∧
      w'.sight = (w.note (.raised e)).sight ∧ w'.events = w.events ++ [e] := by
  let w1 := (w.note (.logged (.of .debug ("raising event " ++ Text.shown e)))).note (.raised e)
  have hsight : w1.sight = (w.note (.raised e)).sight :=
    World.sight_note (World.sight_logged w _) _
  have hevents : w1.events = w.events ++ [e] := by simp [w1, Happening.event?]
  cases gone with
  | false => exact ⟨w1, rfl, hsight, hevents⟩
  | true =>
    refine ⟨w1.note (.logged (.of .warn "event listener is gone, dropping event")), rfl, ?_, ?_⟩
    · rw [World.sight_logged, hsight]
    · exact (apart_events.note _ _ rfl).trans hevents

namespace Concurrent

variable {σ β : Type}

/-! ### Steps -/

theorem calls_setPhase_self (c : Concurrent σ β) (i : Nat) (p : Phase) :
    (c.setPhase i p).calls i = p := if_pos rfl

/-- The phase of one call has changed. -/
theorem calls_cases (c : Concurrent σ β) (i : Nat) (p : Phase) (j : Nat) :
    (j = i ∧ (c.setPhase i p).calls j = p) ∨ (j ≠ i ∧ (c.setPhase i p).calls j = c.calls j) := by
  by_cases hj : j = i
  · exact Or.inl ⟨hj, if_pos hj⟩
  · exact Or.inr ⟨hj, if_neg hj⟩

theorem perform_cases {α : Type} (c : Concurrent σ β) (i : Nat)
    (act : Act σ Disk ServiceError α) (next : α → Concurrent σ β → Concurrent σ β) :
    (∃ a w', act.outcome c.world = (.ok a, w') ∧
      c.perform i act next = next a { c with world := w' }) ∨
    ∃ e w', act.outcome c.world = (.error e, w') ∧
      c.perform i act next = { c with world := w' }.setPhase i (.leaving (.error e)) := by
  unfold perform outcome
  cases act c.world with
  | ok a w' => exact Or.inl ⟨a, w', rfl, rfl⟩
  | error e w' => exact Or.inr ⟨e, w', rfl, rfl⟩

theorem perform_of_ok {α : Type} {c : Concurrent σ β} {i : Nat}
    {act : Act σ Disk ServiceError α} {a : α} {w' : World σ Disk}
    (h : act.outcome c.world = (.ok a, w')) (next : α → Concurrent σ β → Concurrent σ β) :
    c.perform i act next = next a { c with world := w' } := by
  rcases perform_cases c i act next with ⟨b, v, ho, hperform⟩ | ⟨e, v, ho, -⟩
  · rw [h] at ho
    obtain ⟨hresult, rfl⟩ := Prod.mk.inj ho
    rw [hperform, Except.ok.inj hresult]
  · rw [h] at ho
    cases (Prod.mk.inj ho).1

/-- What the step of a call does not reach: the connection and the other calls. Only a call that
waits gets the lock. -/
structure LeavesOthers (i : Nat) (c c' : Concurrent σ β) : Prop where
  connected : c'.services.connected = c.services.connected
  calls : ∀ j, j ≠ i → c'.calls j = c.calls j
  acquired : c'.acquired = c.acquired ∨ c.calls i = .waiting ∧ c'.acquired = c.acquired ++ [i]

theorem leavesOthers_perform {α : Type} {c : Concurrent σ β} {i : Nat}
    {act : Act σ Disk ServiceError α} {next : α → Concurrent σ β → Concurrent σ β}
    (hnext : ∀ a w', LeavesOthers i c (next a { c with world := w' })) :
    LeavesOthers i c (c.perform i act next) := by
  rcases perform_cases c i act next with ⟨a, w', -, hperform⟩ | ⟨e, w', -, hperform⟩
  · rw [hperform]
    exact hnext a w'
  · rw [hperform]
    exact ⟨rfl, fun j hj => if_neg hj, Or.inl rfl⟩

variable [Backend σ β] {c : Concurrent σ β} {i : Nat}

theorem leavesOthers_advance (c : Concurrent σ β) (i : Nat) : LeavesOthers i c (c.advance i) := by
  have hother : ∀ p : Phase, ∀ j, j ≠ i → (c.setPhase i p).calls j = c.calls j :=
    fun p j hj => if_neg hj
  unfold advance
  cases hp : c.calls i with
  | called =>
    dsimp only
    cases c.services.ensureConnected with
    | ok u => exact ⟨rfl, hother _, Or.inl rfl⟩
    | error e => exact ⟨rfl, hother _, Or.inl rfl⟩
  | waiting =>
    dsimp only
    cases c.holder with
    | none => exact ⟨rfl, hother _, Or.inr ⟨hp, rfl⟩⟩
    | some j => exact ⟨rfl, fun _ _ => rfl, Or.inl rfl⟩
  | holding => exact ⟨rfl, hother _, Or.inl rfl⟩
  | informed previous => exact leavesOthers_perform fun _ _ => ⟨rfl, hother _, Or.inl rfl⟩
  | pulled previous state => exact leavesOthers_perform fun _ _ => ⟨rfl, hother _, Or.inl rfl⟩
  | raising state es =>
    cases es with
    | nil => exact leavesOthers_perform fun _ _ => ⟨rfl, hother _, Or.inl rfl⟩
    | cons e es => exact leavesOthers_perform fun _ _ => ⟨rfl, hother _, Or.inl rfl⟩
  | leaving r => exact ⟨rfl, hother _, Or.inl rfl⟩
  | finished r => exact ⟨rfl, fun _ _ => rfl, Or.inl rfl⟩

/-- A disconnect is a matter of the services being connected, and of a line logged. -/
theorem step_disconnect (c : Concurrent σ β) :
    ∃ services world, c.step .disconnect = { c with services, world } ∧
      services.node = c.services.node ∧ services.storage = c.services.storage ∧
      services.connected = false ∧ world.sight = c.world.sight ∧ world.events = c.world.events := by
  obtain ⟨⟨node, storage, connected⟩, world, dispatcher, calls, holder, acquired⟩ := c
  cases connected with
  | true =>
    refine ⟨_, _, rfl, rfl, rfl, rfl, ?_, ?_⟩
    · exact World.sight_logged _ _
    · exact apart_events.note _ _ rfl
  | false => exact ⟨_, _, rfl, rfl, rfl, rfl, rfl, rfl⟩

/-- Only its own steps bring a call to another phase. -/
theorem calls_step {m : Move} (hm : m ≠ .sync i) : (c.step m).calls i = c.calls i := by
  cases m with
  | sync j => exact (leavesOthers_advance c j).calls i fun hij => hm (hij ▸ rfl)
  | disconnect =>
    obtain ⟨services, world, hstep, -⟩ := step_disconnect c
    rw [hstep]
  | deliver => rfl

theorem step_finished {r : Except ServiceError Unit} (hp : c.calls i = .finished r) :
    c.step (.sync i) = c := by
  show c.advance i = c
  unfold Concurrent.advance
  rw [hp]

/-- What one move preserves, all moves preserve. -/
theorem run_preserves (P : Concurrent σ β → Prop) (hstep : ∀ c m, P c → P (c.step m)) (h : P c)
    (ms : List Move) : P (c.run ms) := by
  induction ms generalizing c with
  | nil => exact h
  | cons m ms ih => exact ih (hstep c m h)

/-- A call that has ended stays as it is. -/
theorem finished_run {r : Except ServiceError Unit} (hp : c.calls i = .finished r)
    (ms : List Move) : (c.run ms).calls i = .finished r := by
  refine run_preserves (·.calls i = .finished r) (fun c m hp => ?_) hp ms
  by_cases hm : m = .sync i
  · rw [hm, step_finished hp]
    exact hp
  · exact (calls_step hm).trans hp

/-! ### Calls that come too late -/

/-- A call that was not checked before the services were disconnected. -/
structure Late (c : Concurrent σ β) (i : Nat) : Prop where
  disconnected : c.services.connected = false
  phase : c.calls i = .called ∨ c.calls i = .finished (.error .notConnected)
  unlocked : i ∉ c.acquired

/-- Such a call is refused in its next step, which does nothing else. -/
theorem Late.refused (h : Late c i) (hp : c.calls i = .called) :
    c.step (.sync i) = c.setPhase i (.finished (.error .notConnected)) := by
  have hensured : c.services.ensureConnected = .error .notConnected := by
    unfold Services.ensureConnected
    rw [h.disconnected]
    rfl
  show c.advance i = _
  unfold Concurrent.advance
  rw [hp]
  dsimp only
  rw [hensured]

/-- After its next step such a call has ended. -/
theorem Late.ended (h : Late c i) :
    (c.step (.sync i)).calls i = .finished (.error .notConnected) := by
  rcases h.phase with hp | hp
  · rw [h.refused hp]
    exact calls_setPhase_self c i _
  · rw [step_finished hp]
    exact hp

theorem Late.step (h : Late c i) (m : Move) : Late (c.step m) i := by
  by_cases hm : m = .sync i
  · rw [hm]
    rcases h.phase with hp | hp
    · rw [h.refused hp]
      exact ⟨h.disconnected, Or.inr (calls_setPhase_self c i _), h.unlocked⟩
    · rw [step_finished hp]
      exact h
  · have hphase := h.phase
    rw [← calls_step hm] at hphase
    cases m with
    | sync j =>
      obtain ⟨hconnected, -, hacquired⟩ := leavesOthers_advance c j
      refine ⟨hconnected.trans h.disconnected, hphase, ?_⟩
      show i ∉ (c.advance j).acquired
      rcases hacquired with hsame | ⟨-, hmore⟩
      · rw [hsame]
        exact h.unlocked
      · rw [hmore]
        intro hmem
        rcases List.mem_append.mp hmem with hmem | hmem
        · exact h.unlocked hmem
        · exact hm (List.mem_singleton.mp hmem ▸ rfl)
    | disconnect =>
      obtain ⟨services, world, hstep, -, -, hdisconnected, -, -⟩ := step_disconnect c
      rw [hstep]
      exact ⟨hdisconnected, h.phase, h.unlocked⟩
    | deliver => exact ⟨h.disconnected, h.phase, h.unlocked⟩

theorem Late.run (h : Late c i) (ms : List Move) : Late (c.run ms) i :=
  run_preserves (Late · i) (fun _ m h => h.step m) h ms

/-- Once such a call was let go on, it has ended. -/
theorem Late.ended_run (h : Late c i) {ms : List Move} (hms : .sync i ∈ ms) :
    (c.run ms).calls i = .finished (.error .notConnected) := by
  induction ms generalizing c with
  | nil => cases hms
  | cons m ms ih =>
    rcases List.mem_cons.mp hms with rfl | htail
    · exact finished_run h.ended ms
    · exact ih (h.step m) htail

end Concurrent

end HostedNode

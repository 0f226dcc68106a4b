import HostedNode.Proofs.Services.Moves
import HostedNode.Proofs.Services.Quiet

/-! # What a listener receives

What a listener has received is at all times a first part of what was raised; unless it broke down,
what it has not received is in the queue, in order (`Dispatcher.Tells`). Each delivery brings it the
oldest event in the queue (`Dispatcher.deliver_cons`), so that after enough of them it has received
all. This holds also if services are called at the same time: the dispatcher is given what is
raised, event by event (`Concurrent.Delivers`). -/

namespace HostedNode

open Act

namespace Dispatcher

/-- The events on their way are those that were raised. -/
structure Tells (d : Dispatcher) (raised : List NodeEvent) : Prop where
  received : d.received <+: raised
  whole : d.broken = false → d.received ++ d.queued = raised
  unbroken : d.patience = none → d.broken = false

variable {d : Dispatcher} {raised : List NodeEvent}

theorem tells_ofPatience (patience : Option Nat) : Tells (ofPatience patience) [] :=
  ⟨List.prefix_rfl, fun _ => rfl, fun _ => rfl⟩

theorem Tells.raise (h : d.Tells raised) (e : NodeEvent) : (d.raise e).Tells (raised ++ [e]) := by
  have hreceived : d.received <+: raised ++ [e] := h.received.trans (List.prefix_append _ _)
  unfold Dispatcher.raise
  split
  · next hbroken => exact ⟨hreceived, fun hb => absurd hbroken (by simp [hb]), h.unbroken⟩
  · refine ⟨hreceived, fun hb => ?_, h.unbroken⟩
    show d.received ++ (d.queued ++ [e]) = raised ++ [e]
    rw [← List.append_assoc, h.whole hb]

/-- Delivery takes the oldest event from the queue, and neither changes nor repeats it. -/
theorem Tells.deliver (h : d.Tells raised) : d.deliver.Tells raised := by
  obtain ⟨queued, received, patience, broken⟩ := d
  obtain ⟨hreceived, hwhole, hunbroken⟩ := h
  cases queued with
  | nil => exact ⟨hreceived, hwhole, hunbroken⟩
  | cons e rest =>
    have hnext : broken = false → (received ++ [e]) ++ rest = raised := fun hb => by
      rw [List.append_assoc, List.singleton_append]
      exact hwhole hb
    cases broken with
    | true => exact ⟨hreceived, fun hb => Bool.noConfusion hb, hunbroken⟩
    | false =>
      have hfirst : received ++ [e] <+: raised := ⟨rest, hnext rfl⟩
      cases patience with
      | none => exact ⟨hfirst, hnext, fun _ => rfl⟩
      | some n =>
        cases n with
        | zero => exact ⟨hreceived, fun hb => Bool.noConfusion hb, fun hp => nomatch hp⟩
        | succ n => exact ⟨hfirst, hnext, fun hp => nomatch hp⟩

/-! ### Deliveries -/

variable {e : NodeEvent} {rest : List NodeEvent}

/-- **A delivery brings the listener the oldest event**, unless it breaks down. -/
theorem deliver_cons (hb : d.broken = false) (hp : d.patience ≠ some 0)
    (hq : d.queued = e :: rest) :
    d.deliver = { d with
      queued := rest
      received := d.received ++ [e]
      patience := d.patience.map (· - 1) } := by
  obtain ⟨queued, received, patience, broken⟩ := d
  obtain rfl : broken = false := hb
  obtain rfl : queued = e :: rest := hq
  cases patience with
  | none => rfl
  | some n =>
    cases n with
    | zero => exact absurd rfl hp
    | succ n => rfl

/-- A listener whose patience is at its end breaks down over the event that comes. -/
theorem deliver_impatient (hb : d.broken = false) (hp : d.patience = some 0)
    (hq : d.queued = e :: rest) : d.deliver = { d with queued := rest, broken := true } := by
  obtain ⟨queued, received, patience, broken⟩ := d
  obtain rfl : broken = false := hb
  obtain rfl : patience = some 0 := hp
  obtain rfl : queued = e :: rest := hq
  rfl

/-- A listener that does not break down receives as many events as are delivered, in order. -/
theorem received_deliverAll (hb : d.broken = false) (hp : d.patience = none) (n : Nat) :
    (d.deliverAll n).received = d.received ++ d.queued.take n := by
  induction n generalizing d with
  | zero => exact (List.append_nil _).symm
  | succ n ih =>
    rw [deliverAll]
    cases hq : d.queued with
    | nil =>
      have hidle : d.deliver = d := by
        unfold deliver
        rw [hq]
      rw [hidle, ih hb hp, hq, List.take_nil, List.take_nil]
    | cons e rest =>
      rw [deliver_cons hb (by simp [hp]) hq, ih]
      · simp
      · exact hb
      · simp [hp]

end Dispatcher

namespace Concurrent

variable {σ β : Type} {c : Concurrent σ β} {i : Nat} {past : List NodeEvent}

/-- What was raised since `past` is what the dispatcher was given. -/
def Delivers (past : List NodeEvent) (c : Concurrent σ β) : Prop :=
  ∃ raised, c.world.events = past ++ raised ∧ c.dispatcher.Tells raised

/-- Something done that raises no event. -/
theorem Delivers.performed {α : Type} (h : Delivers past c) {act : Act σ Disk ServiceError α}
    (hact : Keeps World.events act) {next : α → Concurrent σ β → Concurrent σ β}
    (hnext : ∀ a c, (next a c).world = c.world ∧ (next a c).dispatcher = c.dispatcher) :
    Delivers past (c.perform i act next) := by
  obtain ⟨raised, hevents, htells⟩ := h
  rcases perform_cases c i act next with ⟨a, w', ho, hperform⟩ | ⟨e, w', ho, hperform⟩
  · have hkept := hact c.world
    rw [ho] at hkept
    obtain ⟨hworld, hdispatcher⟩ := hnext a { c with world := w' }
    refine ⟨raised, ?_, ?_⟩
    · rw [hperform, hworld]
      exact hkept.trans hevents
    · rw [hperform, hdispatcher]
      exact htells
  · have hkept := hact c.world
    rw [ho] at hkept
    refine ⟨raised, ?_, ?_⟩
    · rw [hperform]
      exact hkept.trans hevents
    · rw [hperform]
      exact htells

/-- An event that is raised is given to the dispatcher. -/
theorem Delivers.raised (h : Delivers past c) (e : NodeEvent) (p : Phase) :
    Delivers past (c.perform i (raise c.dispatcher.broken e) fun _ c =>
      { c with dispatcher := c.dispatcher.raise e }.setPhase i p) := by
  obtain ⟨raised, hevents, htells⟩ := h
  obtain ⟨w', hw, -, hraised⟩ := outcome_raise (ε := ServiceError) c.dispatcher.broken e c.world
  refine ⟨raised ++ [e], ?_, ?_⟩
  · rw [perform_of_ok hw, ← List.append_assoc, ← hevents]
    exact hraised
  · rw [perform_of_ok hw]
    exact htells.raise e

variable [Backend σ β] [QuietBackend σ β]

theorem Delivers.advance (h : Delivers past c) (i : Nat) : Delivers past (c.advance i) := by
  unfold Concurrent.advance
  cases c.calls i with
  | called =>
    dsimp only
    cases c.services.ensureConnected with
    | ok u => exact h
    | error e => exact h
  | waiting =>
    dsimp only
    cases c.holder with
    | none => exact h
    | some j => exact h
  | holding => exact h
  | informed previous =>
    refine h.performed (keeps_mapError _ fun w => ?_) fun _ _ => ⟨rfl, rfl⟩
    exact (Prod.mk.inj (QuietBackend.pull c.services.node w)).2
  | pulled previous state =>
    exact h.performed (keeps_mapError _ (keeps_onStore _)) fun _ _ => ⟨rfl, rfl⟩
  | raising state es =>
    cases es with
    | nil => exact h.performed (keeps_log apart_events _ _) fun _ _ => ⟨rfl, rfl⟩
    | cons e es => exact h.raised e (.raising state es)
  | leaving r => exact h
  | finished r => exact h

theorem Delivers.step (h : Delivers past c) (m : Move) : Delivers past (c.step m) := by
  cases m with
  | sync i => exact h.advance i
  | disconnect =>
    obtain ⟨raised, hevents, htells⟩ := h
    obtain ⟨services, world, hstep, -, -, -, -, hsame⟩ := step_disconnect c
    rw [hstep]
    exact ⟨raised, hsame.trans hevents, htells⟩
  | deliver =>
    obtain ⟨raised, hevents, htells⟩ := h
    exact ⟨raised, hevents, htells.deliver⟩

theorem Delivers.run (h : Delivers past c) (ms : List Move) : Delivers past (c.run ms) :=
  run_preserves (Delivers past) (fun _ m h => h.step m) h ms

omit [QuietBackend σ β] in
theorem dispatcher_run_deliver (c : Concurrent σ β) (n : Nat) :
    (c.run (List.replicate n .deliver)).dispatcher = c.dispatcher.deliverAll n := by
  induction n generalizing c with
  | zero => rfl
  | succ n ih => exact ih (c.step .deliver)

omit [QuietBackend σ β] in
/-- **A listener that does not break down receives all that was raised**, once there were deliveries
enough. -/
theorem Delivers.drained (h : Delivers past c) (hp : c.dispatcher.patience = none) {n : Nat}
    (hn : c.dispatcher.queued.length ≤ n) :
    past ++ (c.run (List.replicate n .deliver)).dispatcher.received = c.world.events := by
  obtain ⟨raised, hevents, htells⟩ := h
  have hb := htells.unbroken hp
  rw [dispatcher_run_deliver, Dispatcher.received_deliverAll hb hp, List.take_of_length_le hn,
    htells.whole hb, hevents]

end Concurrent

end HostedNode

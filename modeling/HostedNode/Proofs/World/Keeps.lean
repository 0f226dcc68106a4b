import HostedNode.Proofs.World.Outcome

/-! # What steps leave as it is

A step keeps a view of the world if the view is the same before and after it (`Act.Keeps`). Steps
put together from ones that keep a view keep it. The views of interest are the store and the events
raised, which neither the net nor the other lines of the journal have a part in (`Act.Apart`). -/

namespace HostedNode.Act

open Rpc

variable {σ κ ε α β γ : Type}

/-- The step leaves a view of the world as it is. -/
def Keeps (view : World σ κ → γ) (act : Act σ κ ε α) : Prop :=
  ∀ w, view (act.outcome w).2 = view w

/-- The view sees neither the net nor anything in the journal but events. -/
structure Apart (view : World σ κ → γ) : Prop where
  note : ∀ w h, h.event? = none → view (w.note h) = view w
  net : ∀ w net, view { w with net } = view w

/-- What a backend must leave alone: the store and the events raised. -/
def storeAndEvents (w : World σ κ) : κ × List NodeEvent := (w.store, w.events)

theorem apart_events : Apart (World.events : World σ κ → List NodeEvent) where
  note w h hh := by simp [hh]
  net _ _ := rfl

theorem apart_storeAndEvents : Apart (storeAndEvents : World σ κ → κ × List NodeEvent) where
  note w h hh := by simp [storeAndEvents, hh]
  net _ _ := rfl

section

variable {view : World σ κ → γ}

theorem keeps_pure (a : α) : Keeps view (pure a : Act σ κ ε α) := fun _ => rfl

theorem keeps_throw (e : ε) : Keeps view (throw e : Act σ κ ε α) := fun _ => rfl

theorem keeps_get : Keeps view (get : Act σ κ ε (World σ κ)) := fun _ => rfl

theorem keeps_ofExcept (r : Except ε α) : Keeps view (ofExcept r : Act σ κ ε α) := fun w => by
  rw [outcome_ofExcept]

theorem keeps_bind {act : Act σ κ ε α} {f : α → Act σ κ ε β} (h : Keeps view act)
    (hf : ∀ a, Keeps view (f a)) : Keeps view (act >>= f) := by
  intro w
  have hw := h w
  rw [outcome_bind]
  rcases ho : act.outcome w with ⟨r, w'⟩
  rw [ho] at hw
  cases r with
  | error e => exact hw
  | ok a => exact (hf a w').trans hw

theorem keeps_mapError {ε' : Type} {act : Act σ κ ε α} (f : ε → ε') (h : Keeps view act) :
    Keeps view (mapError f act) := fun w => by
  rw [outcome_mapError]
  exact h w

theorem keeps_attempt {ε' : Type} {act : Act σ κ ε α} (h : Keeps view act) :
    Keeps view (attempt act : Act σ κ ε' (Except ε α)) := fun w => by
  rw [outcome_attempt]
  exact h w

theorem keeps_log (hv : Apart view) (severity : Log.Severity) (line : String) :
    Keeps view (log severity line : Act σ κ ε Unit) := fun w => hv.note w _ rfl

theorem keeps_openConnection [Net σ] (hv : Apart view) (c : Connection) :
    Keeps view (openConnection c : Act σ κ TransportError Unit) := fun w => by
  rw [outcome_openConnection]
  exact (hv.note _ _ rfl).trans (hv.net w _)

theorem keeps_call [Net σ] (hv : Apart view) (c : Connection) (method : String)
    (params : List Json) : Keeps view (call c method params : Act σ κ TransportError Json) :=
  fun w => by
    rw [outcome_call]
    exact (hv.note _ _ rfl).trans (hv.net w _)

end

theorem keeps_onStore (f : EStateM ε κ α) :
    Keeps World.events (onStore f : Act σ κ ε α) := fun w => by
  rw [outcome_onStore]
  rfl

/-- What comes of two steps that succeed is what comes of the second one after the first. -/
theorem outcome_bind_ok {act : Act σ κ ε α} {f : α → Act σ κ ε β} {w w' : World σ κ} {b : β}
    (h : (act >>= f).outcome w = (.ok b, w')) :
    ∃ a w1, act.outcome w = (.ok a, w1) ∧ (f a).outcome w1 = (.ok b, w') := by
  rw [outcome_bind] at h
  rcases ho : act.outcome w with ⟨r, w1⟩
  rw [ho] at h
  cases r with
  | error e => cases (Prod.mk.inj h).1
  | ok a => exact ⟨a, w1, rfl, h⟩

theorem outcome_mapError_ok {ε' : Type} {f : ε → ε'} {act : Act σ κ ε α} {w w' : World σ κ} {a : α}
    (h : (mapError f act).outcome w = (.ok a, w')) : act.outcome w = (.ok a, w') := by
  rw [outcome_mapError] at h
  rcases ho : act.outcome w with ⟨r, w1⟩
  rw [ho] at h
  cases r with
  | error e => cases (Prod.mk.inj h).1
  | ok b =>
    obtain ⟨hb, rfl⟩ := Prod.mk.inj h
    obtain rfl := Except.ok.inj hb
    rfl

end HostedNode.Act

import HostedNode.Proofs.World.Outcome

/-! # Lines that are logged have no part in what is done

No step looks at the lines that were logged before (`Act.Blind`): in two worlds with the same net,
the same store and the same record of all else that happened, it has the same result, and leaves
worlds of which this holds again. So lines that others log in between make no difference to a
step. -/

namespace HostedNode

open Rpc

namespace World

variable {σ κ : Type}

/-- What happened, but for lines logged. -/
def record (w : World σ κ) : List Happening := w.journal.filter fun h => h.entry?.isNone

/-- A world as a step sees it. -/
def sight (w : World σ κ) : σ × κ × List Happening := (w.net, w.store, w.record)

theorem events_eq_record (w : World σ κ) : w.events = w.record.filterMap Happening.event? := by
  have hevent : Happening.event? =
      fun h => if h.entry?.isNone then Happening.event? h else none := by
    funext h
    cases h <;> rfl
  rw [record, List.filterMap_filter, ← hevent]
  rfl

theorem traffic_eq_record (w : World σ κ) : w.traffic = w.record.filter Happening.isTraffic := by
  have htraffic : Happening.isTraffic = fun h => h.isTraffic && h.entry?.isNone := by
    funext h
    cases h <;> rfl
  rw [record, List.filter_filter, ← htraffic]
  rfl

@[simp] theorem record_note (w : World σ κ) (h : Happening) :
    (w.note h).record = w.record ++ if h.entry?.isNone then [h] else [] := by
  simp only [record, note, List.filter_append]
  cases hh : h.entry?.isNone <;> simp [hh]

theorem sight_logged (w : World σ κ) (e : LogEntry) : (w.note (.logged e)).sight = w.sight := by
  simp [sight, Happening.entry?]

theorem sight_note {w w' : World σ κ} (hw : w.sight = w'.sight) (h : Happening) :
    (w.note h).sight = (w'.note h).sight := by
  obtain ⟨hnet, hrest⟩ := Prod.mk.inj hw
  obtain ⟨hstore, hrecord⟩ := Prod.mk.inj hrest
  simp only [sight, net_note, store_note, record_note, hnet, hstore, hrecord]

end World

namespace Act

variable {σ κ ε α β : Type}

/-- A step does not look at the lines that were logged. -/
def Blind (act : Act σ κ ε α) : Prop :=
  ∀ w w' : World σ κ, w.sight = w'.sight →
    (act.outcome w).1 = (act.outcome w').1 ∧ (act.outcome w).2.sight = (act.outcome w').2.sight

theorem blind_pure (a : α) : Blind (pure a : Act σ κ ε α) := fun _ _ h => ⟨rfl, h⟩

theorem blind_throw (e : ε) : Blind (throw e : Act σ κ ε α) := fun _ _ h => ⟨rfl, h⟩

theorem blind_ofExcept (r : Except ε α) : Blind (ofExcept r : Act σ κ ε α) := fun w w' h => by
  rw [outcome_ofExcept, outcome_ofExcept]
  exact ⟨rfl, h⟩

theorem blind_bind {act : Act σ κ ε α} {f : α → Act σ κ ε β} (h : Blind act)
    (hf : ∀ a, Blind (f a)) : Blind (act >>= f) := by
  intro w w' hw
  obtain ⟨hresult, hsight⟩ := h w w' hw
  rw [outcome_bind, outcome_bind]
  rcases ho : act.outcome w with ⟨r, v⟩
  rcases ho' : act.outcome w' with ⟨r', v'⟩
  rw [ho, ho'] at hresult hsight
  obtain rfl : r = r' := hresult
  cases r with
  | error e => exact ⟨rfl, hsight⟩
  | ok a => exact hf a v v' hsight

theorem blind_mapError {ε' : Type} {act : Act σ κ ε α} (f : ε → ε') (h : Blind act) :
    Blind (mapError f act) := by
  intro w w' hw
  obtain ⟨hresult, hsight⟩ := h w w' hw
  rw [outcome_mapError, outcome_mapError]
  exact ⟨congrArg (Except.mapError f) hresult, hsight⟩

theorem blind_attempt {ε' : Type} {act : Act σ κ ε α} (h : Blind act) :
    Blind (attempt act : Act σ κ ε' (Except ε α)) := by
  intro w w' hw
  obtain ⟨hresult, hsight⟩ := h w w' hw
  rw [outcome_attempt, outcome_attempt]
  exact ⟨congrArg Except.ok hresult, hsight⟩

theorem blind_note (h : Happening) : Blind (note h : Act σ κ ε Unit) :=
  fun _ _ hw => ⟨rfl, World.sight_note hw h⟩

theorem blind_log (severity : Log.Severity) (line : String) :
    Blind (log severity line : Act σ κ ε Unit) := blind_note _

theorem blind_onStore (f : EStateM ε κ α) : Blind (onStore f : Act σ κ ε α) := by
  intro w w' hw
  obtain ⟨hnet, hrest⟩ := Prod.mk.inj hw
  obtain ⟨hstore, hrecord⟩ := Prod.mk.inj hrest
  rw [outcome_onStore, outcome_onStore, hstore]
  refine ⟨rfl, ?_⟩
  unfold World.sight World.record at *
  rw [hnet, hrecord]

theorem blind_call [Net σ] (c : Connection) (method : String) (params : List Json) :
    Blind (call c method params : Act σ κ TransportError Json) := by
  intro w w' hw
  obtain ⟨hnet, hrest⟩ := Prod.mk.inj hw
  rw [outcome_call, outcome_call, hnet]
  refine ⟨rfl, World.sight_note ?_ _⟩
  exact congrArg (Prod.mk _) hrest

end Act

end HostedNode

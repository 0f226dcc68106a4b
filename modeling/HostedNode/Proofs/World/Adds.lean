import HostedNode.Proofs.World.Keeps

/-! # What steps put into the journal

A step adds only certain things to the journal (`Act.Adds`): it leaves what is there, and each entry
behind it is one of those. Steps put together from such steps are such steps. This tells of traffic
and events at once, since both stand in the journal; if no entry tells of an event, none was raised
(`World.Extends.events_eq`). -/

namespace HostedNode

open Act Rpc

/-- Whether an entry is a line that was logged. -/
def Happening.IsLog (h : Happening) : Prop := ∃ e, h = .logged e

namespace World

variable {σ σ' σ'' κ κ' κ'' : Type} {P : Happening → Prop}

/-- The second world has the journal of the first one, and behind it only certain entries. -/
def Extends (P : Happening → Prop) (w : World σ κ) (w' : World σ' κ') : Prop :=
  ∃ hs, w'.journal = w.journal ++ hs ∧ ∀ h ∈ hs, P h

theorem extends_of_eq {w : World σ κ} {w' : World σ' κ'} (h : w'.journal = w.journal) :
    Extends P w w' :=
  ⟨[], by rw [h, List.append_nil], fun _ hh => absurd hh List.not_mem_nil⟩

theorem extends_note (w : World σ κ) {h : Happening} (hh : P h) : Extends P w (w.note h) :=
  ⟨[h], rfl, fun h' hh' => by rwa [List.mem_singleton.mp hh']⟩

theorem Extends.trans {w : World σ κ} {w' : World σ' κ'} {w'' : World σ'' κ''}
    (h : Extends P w w') (h' : Extends P w' w'') : Extends P w w'' := by
  obtain ⟨hs, hj, hall⟩ := h
  obtain ⟨hs', hj', hall'⟩ := h'
  refine ⟨hs ++ hs', by rw [hj', hj, List.append_assoc], fun x hx => ?_⟩
  rcases List.mem_append.mp hx with hx | hx
  · exact hall x hx
  · exact hall' x hx

theorem Extends.mono {Q : Happening → Prop} {w : World σ κ} {w' : World σ' κ'}
    (h : Extends P w w') (hPQ : ∀ x, P x → Q x) : Extends Q w w' := by
  obtain ⟨hs, hj, hall⟩ := h
  exact ⟨hs, hj, fun x hx => hPQ x (hall x hx)⟩

/-- No event was raised if no entry says so. -/
theorem Extends.events_eq {w : World σ κ} {w' : World σ' κ'} (h : Extends P w w')
    (hP : ∀ x, P x → x.event? = none) : w'.events = w.events := by
  obtain ⟨hs, hj, hall⟩ := h
  have hnone : hs.filterMap Happening.event? = [] :=
    List.filterMap_eq_nil_iff.mpr fun x hx => hP x (hall x hx)
  rw [events, hj, List.filterMap_append, hnone, List.append_nil]
  rfl

end World

namespace Act

variable {σ κ ε α β : Type} {P : Happening → Prop}

/-- The step adds only certain entries to the journal. -/
def Adds (P : Happening → Prop) (act : Act σ κ ε α) : Prop :=
  ∀ w, World.Extends P w (act.outcome w).2

theorem Adds.mono {Q : Happening → Prop} {act : Act σ κ ε α} (h : Adds P act)
    (hPQ : ∀ x, P x → Q x) : Adds Q act :=
  fun w => (h w).mono hPQ

theorem adds_pure (a : α) : Adds P (pure a : Act σ κ ε α) := fun _ => World.extends_of_eq rfl

theorem adds_throw (e : ε) : Adds P (throw e : Act σ κ ε α) := fun _ => World.extends_of_eq rfl

theorem adds_get : Adds P (get : Act σ κ ε (World σ κ)) := fun _ => World.extends_of_eq rfl

theorem adds_ofExcept (r : Except ε α) : Adds P (ofExcept r : Act σ κ ε α) := fun w => by
  rw [outcome_ofExcept]
  exact World.extends_of_eq rfl

theorem adds_bind {act : Act σ κ ε α} {f : α → Act σ κ ε β} (h : Adds P act)
    (hf : ∀ a, Adds P (f a)) : Adds P (act >>= f) := by
  intro w
  have hw := h w
  rw [outcome_bind]
  rcases ho : act.outcome w with ⟨r, w'⟩
  rw [ho] at hw
  cases r with
  | error e => exact hw
  | ok a => exact hw.trans (hf a w')

theorem adds_mapError {ε' : Type} {act : Act σ κ ε α} (f : ε → ε') (h : Adds P act) :
    Adds P (mapError f act) := fun w => by
  rw [outcome_mapError]
  exact h w

theorem adds_attempt {ε' : Type} {act : Act σ κ ε α} (h : Adds P act) :
    Adds P (attempt act : Act σ κ ε' (Except ε α)) := fun w => by
  rw [outcome_attempt]
  exact h w

theorem adds_log (hP : ∀ e, P (.logged e)) (severity : Log.Severity) (line : String) :
    Adds P (log severity line : Act σ κ ε Unit) := fun w => World.extends_note w (hP _)

theorem adds_onStore (f : EStateM ε κ α) : Adds P (onStore f : Act σ κ ε α) := fun w => by
  rw [outcome_onStore]
  exact World.extends_of_eq rfl

theorem adds_openConnection [Net σ] {c : Connection} (hP : P (.opened c)) :
    Adds P (openConnection c : Act σ κ TransportError Unit) := fun w => by
  rw [outcome_openConnection]
  exact World.extends_note (κ := κ) ⟨(Net.opening c w.net).2, w.store, w.journal⟩ hP

theorem adds_call [Net σ] {c : Connection} {method : String} {params : List Json}
    (hP : P (.called c method params)) :
    Adds P (call c method params : Act σ κ TransportError Json) := fun w => by
  rw [outcome_call]
  exact World.extends_note (κ := κ) ⟨(Net.answer c method params w.net).2, w.store, w.journal⟩ hP

end Act

end HostedNode

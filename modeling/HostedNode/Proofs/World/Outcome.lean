import HostedNode.World

/-! # Steps by what they come to

`Act.outcome` gives what a step comes to: a value or an error, and the world that it leaves. The
outcome of a step that is put together follows from those of its parts. -/

namespace HostedNode

open Rpc

/-! ### Views of a world -/

namespace World

variable {σ κ : Type}

@[simp] theorem net_note (w : World σ κ) (h : Happening) : (w.note h).net = w.net := rfl

@[simp] theorem store_note (w : World σ κ) (h : Happening) : (w.note h).store = w.store := rfl

@[simp] theorem traffic_note (w : World σ κ) (h : Happening) :
    (w.note h).traffic = w.traffic ++ if h.isTraffic then [h] else [] := by
  simp only [traffic, note, List.filter_append]
  cases hh : h.isTraffic <;> simp [hh]

@[simp] theorem events_note (w : World σ κ) (h : Happening) :
    (w.note h).events = w.events ++ h.event?.toList := by
  simp only [events, note, List.filterMap_append]
  cases hh : h.event? <;> simp [hh]

@[simp] theorem traffic_mk {σ' κ' : Type} (w : World σ κ) (net : σ') (store : κ') :
    (⟨net, store, w.journal⟩ : World σ' κ').traffic = w.traffic := rfl

@[simp] theorem events_mk {σ' κ' : Type} (w : World σ κ) (net : σ') (store : κ') :
    (⟨net, store, w.journal⟩ : World σ' κ').events = w.events := rfl

end World

/-! ### Outcomes -/

namespace Act

variable {σ κ ε α β : Type}

/-- What a step comes to, and the world that it leaves. -/
def outcome (act : Act σ κ ε α) (w : World σ κ) : Except ε α × World σ κ :=
  match act w with
  | .ok a w => (.ok a, w)
  | .error e w => (.error e, w)

@[simp] theorem outcome_pure (a : α) (w : World σ κ) :
    (pure a : Act σ κ ε α).outcome w = (.ok a, w) := rfl

@[simp] theorem outcome_throw (e : ε) (w : World σ κ) :
    (throw e : Act σ κ ε α).outcome w = (.error e, w) := rfl

@[simp] theorem outcome_bind (act : Act σ κ ε α) (f : α → Act σ κ ε β) (w : World σ κ) :
    (act >>= f).outcome w = match act.outcome w with
      | (.ok a, w) => (f a).outcome w
      | (.error e, w) => (.error e, w) := by
  simp only [outcome, bind, EStateM.bind]
  cases act w <;> rfl

@[simp] theorem outcome_get (w : World σ κ) :
    (get : Act σ κ ε (World σ κ)).outcome w = (.ok w, w) := rfl

@[simp] theorem outcome_note (h : Happening) (w : World σ κ) :
    (note h : Act σ κ ε Unit).outcome w = (.ok (), w.note h) := rfl

@[simp] theorem outcome_log (severity : Log.Severity) (line : String) (w : World σ κ) :
    (log severity line : Act σ κ ε Unit).outcome w =
      (.ok (), w.note (.logged (.of severity line))) := rfl

@[simp] theorem outcome_ofExcept (r : Except ε α) (w : World σ κ) :
    (ofExcept r : Act σ κ ε α).outcome w = (r, w) := by
  cases r <;> rfl

@[simp] theorem outcome_mapError {ε' : Type} (f : ε → ε') (act : Act σ κ ε α) (w : World σ κ) :
    (mapError f act).outcome w = ((act.outcome w).1.mapError f, (act.outcome w).2) := by
  simp only [outcome, mapError]
  cases act w <;> rfl

@[simp] theorem outcome_attempt {ε' : Type} (act : Act σ κ ε α) (w : World σ κ) :
    (attempt act : Act σ κ ε' (Except ε α)).outcome w =
      (.ok (act.outcome w).1, (act.outcome w).2) := by
  simp only [outcome, attempt]
  cases act w <;> rfl

/-- The result of something done with a store, and the store. -/
def storeOutcome (f : EStateM ε κ α) (store : κ) : Except ε α × κ :=
  match f store with
  | .ok a store => (.ok a, store)
  | .error e store => (.error e, store)

theorem storeOutcome_of_ok {f : EStateM ε κ α} {store store' : κ} {a : α}
    (h : f store = .ok a store') : storeOutcome f store = (.ok a, store') := by
  rw [storeOutcome, h]

theorem storeOutcome_of_error {f : EStateM ε κ α} {store store' : κ} {e : ε}
    (h : f store = .error e store') : storeOutcome f store = (.error e, store') := by
  rw [storeOutcome, h]

@[simp] theorem outcome_onStore (f : EStateM ε κ α) (w : World σ κ) :
    (onStore f : Act σ κ ε α).outcome w =
      ((storeOutcome f w.store).1, { w with store := (storeOutcome f w.store).2 }) := by
  simp only [outcome, onStore, storeOutcome]
  cases f w.store <;> rfl

@[simp] theorem outcome_openConnection [Net σ] (c : Connection) (w : World σ κ) :
    (openConnection c : Act σ κ TransportError Unit).outcome w =
      ((Net.opening c w.net).1,
        World.note { w with net := (Net.opening c w.net).2 } (.opened c)) := by
  simp only [outcome, openConnection]
  rcases Net.opening c w.net with ⟨_ | _, _⟩ <;> rfl

@[simp] theorem outcome_call [Net σ] (c : Connection) (method : String) (params : List Json)
    (w : World σ κ) :
    (call c method params : Act σ κ TransportError Json).outcome w =
      ((Net.answer c method params w.net).1,
        World.note { w with net := (Net.answer c method params w.net).2 }
          (.called c method params)) := by
  simp only [outcome, call]
  rcases Net.answer c method params w.net with ⟨_ | _, _⟩ <;> rfl

end Act

end HostedNode

import HostedNode.Proofs.Secrets.Covered
import HostedNode.Proofs.World.Mirrors

/-! # Steps over covered secrets

A step covers another one (`Act.Covers`) if, in a world with its secrets covered, it does just what
the other one does in the world as it is, but for the secrets. Steps that are made of steps cover
each other if their parts do. Lines that are logged are never covered, so a step that covers another
one logs just the same. -/

namespace HostedNode

open Json Rpc

/-- Stores that hold secrets. -/
class HasSecrets (κ : Type) where
  covered : κ → κ

/-- A world with its secrets covered. -/
def World.covered {κ : Type} [HasSecrets κ] (w : World Script κ) : World Script κ :=
  ⟨coveredScript w.net, HasSecrets.covered w.store, w.journal.map Happening.covered⟩

theorem World.covered_note {κ : Type} [HasSecrets κ] (w : World Script κ) (h : Happening) :
    (w.note h).covered = w.covered.note h.covered := by
  simp only [World.covered, World.note, List.map_append, List.map_singleton]

namespace Act

variable {κ ε ε' α β γ δ : Type} [HasSecrets κ]

/-- The second step does in the covered world what the first one does, but for the secrets. -/
def Covers (c : α → β) (act : Act Script κ ε α) (act' : Act Script κ ε β) : Prop :=
  Mirrors World.covered c act act'

theorem covers_iff {c : α → β} {act : Act Script κ ε α} {act' : Act Script κ ε β} :
    Covers c act act' ↔
      ∀ w, act'.outcome w.covered = ((act.outcome w).1.map c, (act.outcome w).2.covered) := by
  simp only [outcome_eq_storeOutcome]
  exact Iff.rfl

theorem covers_pure (c : α → β) (a : α) :
    Covers c (pure a : Act Script κ ε α) (pure (c a)) := mirrors_pure a

theorem covers_throw (c : α → β) (e : ε) :
    Covers c (throw e : Act Script κ ε α) (throw e) := mirrors_throw e

theorem covers_bind {c : α → β} {d : γ → δ} {act : Act Script κ ε α} {act' : Act Script κ ε β}
    {f : α → Act Script κ ε γ} {f' : β → Act Script κ ε δ} (h : Covers c act act')
    (hf : ∀ a, Covers d (f a) (f' (c a))) : Covers d (act >>= f) (act' >>= f') :=
  mirrors_bind h hf

theorem covers_mapError {c : α → β} {act : Act Script κ ε α} {act' : Act Script κ ε β}
    (f : ε → ε') (h : Covers c act act') : Covers c (mapError f act) (mapError f act') := by
  rw [covers_iff]
  intro w
  rw [outcome_mapError, outcome_mapError, covers_iff.mp h w]
  rcases act.outcome w with ⟨_ | _, _⟩ <;> rfl

theorem covers_attempt {c : α → β} {act : Act Script κ ε α} {act' : Act Script κ ε β}
    (h : Covers c act act') :
    Covers (Except.map c) (attempt act : Act Script κ ε' _) (attempt act') := by
  rw [covers_iff]
  intro w
  rw [outcome_attempt, outcome_attempt, covers_iff.mp h w]
  rfl

theorem covers_ofExcept {c : α → β} {r : Except ε α} {r' : Except ε β} (h : r' = r.map c) :
    Covers c (ofExcept r : Act Script κ ε α) (ofExcept r') := by
  rw [covers_iff]
  intro w
  rw [outcome_ofExcept, outcome_ofExcept, h]

/-- A result without secrets covers itself. -/
theorem covers_result (r : Except ε α) :
    Covers id (ofExcept r : Act Script κ ε α) (ofExcept r) :=
  covers_ofExcept (by rw [Except.map_id, id])

theorem covers_attempt_id {act act' : Act Script κ ε α} (h : Covers id act act') :
    Covers id (attempt act : Act Script κ ε' (Except ε α)) (attempt act') := by
  have hattempt : Covers (Except.map id) (attempt act : Act Script κ ε' (Except ε α))
    (attempt act') := covers_attempt h
  rwa [Except.map_id] at hattempt

theorem covers_note (h : Happening) :
    Covers id (note h : Act Script κ ε Unit) (note h.covered) := by
  rw [covers_iff]
  intro w
  rw [outcome_note, outcome_note, World.covered_note]
  rfl

theorem covers_log (severity : Log.Severity) (line : String) :
    Covers id (log severity line : Act Script κ ε Unit) (log severity line) := covers_note _

theorem covers_openConnection (c : Connection) :
    Covers id (openConnection c : Act Script κ TransportError Unit)
      (openConnection c.covered) := by
  rw [covers_iff]
  intro w
  have hnet : w.covered.net = coveredScript w.net := rfl
  have hnote := World.covered_note ⟨(Net.opening c w.net).2, w.store, w.journal⟩ (.opened c)
  rw [outcome_openConnection, outcome_openConnection, hnet, opening_coveredScript]
  cases (Net.opening c w.net).1 <;> exact Prod.ext rfl hnote.symm

theorem covers_call (c : Connection) (method : String) (params : List Json) :
    Covers (coveredAnswer method) (call c method params : Act Script κ TransportError Json)
      (call c.covered method (params.map coveredParam)) := by
  rw [covers_iff]
  intro w
  have hnet : w.covered.net = coveredScript w.net := rfl
  have hnote := World.covered_note ⟨(Net.answer c method params w.net).2, w.store, w.journal⟩
    (.called c method params)
  rw [outcome_call, outcome_call, hnet,
    answer_coveredScript w.net method c params (params.map coveredParam)]
  exact Prod.ext rfl hnote.symm

theorem covers_onStore {c : α → β} {f : EStateM ε κ α} {f' : EStateM ε κ β}
    (h : Mirrors HasSecrets.covered c f f') :
    Covers c (onStore f : Act Script κ ε α) (onStore f') := by
  rw [covers_iff]
  intro w
  have hstore : w.covered.store = HasSecrets.covered w.store := rfl
  rw [outcome_onStore, outcome_onStore, hstore, h]
  rfl

end Act

end HostedNode

import HostedNode.Proofs.World.Outcome

/-! # Steps and their images

A step on one store is the image of a step on another one (`Act.Mirrors`) if it does to images of
stores what the other one does to the stores themselves: it gives the image of what the other one
gives, or the same error. Steps that are put together are images if their parts are. -/

namespace HostedNode.Act

variable {κ κ' ε α β γ δ : Type}

/-- The second step does on images of stores what the first one does, and gives the image of what
that gives. -/
def Mirrors (image : κ → κ') (c : α → β) (act : EStateM ε κ α) (act' : EStateM ε κ' β) : Prop :=
  ∀ k, storeOutcome act' (image k) =
    ((storeOutcome act k).1.map c, image (storeOutcome act k).2)

/-- What a step of a run comes to, as that of an operation on the world. -/
theorem outcome_eq_storeOutcome {σ : Type} (act : Act σ κ ε α) (w : World σ κ) :
    act.outcome w = storeOutcome act w := by
  unfold outcome storeOutcome
  cases act w <;> rfl

theorem storeOutcome_bind (act : EStateM ε κ α) (f : α → EStateM ε κ β) (k : κ) :
    storeOutcome (act >>= f) k = match storeOutcome act k with
      | (.ok a, k) => storeOutcome (f a) k
      | (.error e, k) => (.error e, k) := by
  simp only [storeOutcome, bind, EStateM.bind]
  cases act k <;> rfl

variable {image : κ → κ'} {c : α → β} {d : γ → δ}

theorem mirrors_pure (a : α) :
    Mirrors image c (pure a : EStateM ε κ α) (pure (c a)) := fun _ => rfl

theorem mirrors_throw (e : ε) :
    Mirrors image c (throw e : EStateM ε κ α) (throw e) := fun _ => rfl

theorem mirrors_bind {act : EStateM ε κ α} {act' : EStateM ε κ' β} {f : α → EStateM ε κ γ}
    {f' : β → EStateM ε κ' δ} (h : Mirrors image c act act')
    (hf : ∀ a, Mirrors image d (f a) (f' (c a))) : Mirrors image d (act >>= f) (act' >>= f') := by
  intro k
  rw [storeOutcome_bind, storeOutcome_bind, h k]
  rcases storeOutcome act k with ⟨_ | a, k'⟩
  · rfl
  · exact hf a k'

end HostedNode.Act

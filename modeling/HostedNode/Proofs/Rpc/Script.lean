import HostedNode.Rpc.Script
import Mathlib.Data.List.Basic

/-! # Replies taken from a script

A reply that is taken is the first of those that are left (`ScriptOf.take_fst`). Taking it leaves
the replies to all other methods and at all other addresses as they are
(`ScriptOf.replies_take_of_ne`). -/

namespace HostedNode.Rpc

namespace ScriptOf

section

variable {β : Type} {name other : String} {b : β}

theorem lookup_put_self (xs : List (String × β)) : (put name b xs).lookup name = some b := by
  induction xs with
  | nil => simp [put]
  | cons x xs ih =>
    obtain ⟨n, c⟩ := x
    by_cases hn : n = name
    · simp [put, hn]
    · have hne : (name == n) = false := beq_false_of_ne fun h => hn h.symm
      simp [put, hn, List.lookup_cons, hne, ih]

theorem lookup_put_of_ne (h : other ≠ name) (xs : List (String × β)) :
    (put name b xs).lookup other = xs.lookup other := by
  have hother : (other == name) = false := beq_false_of_ne h
  induction xs with
  | nil => simp [put, List.lookup_cons, hother]
  | cons x xs ih =>
    obtain ⟨n, c⟩ := x
    by_cases hn : n = name
    · subst hn
      simp [put, List.lookup_cons, hother]
    · simp only [put, hn, if_false, List.lookup_cons, ih]

end

variable {ρ : Type}

theorem replies_setReplies_self (s : ScriptOf ρ) (address method : String) (rs : List ρ) :
    (s.setReplies address method rs).replies address method = rs := by
  simp [replies, setReplies, lookup_put_self]

theorem replies_setReplies_of_ne (s : ScriptOf ρ) {address method address' method' : String}
    (h : address' ≠ address ∨ method' ≠ method) (rs : List ρ) :
    (s.setReplies address method rs).replies address' method' = s.replies address' method' := by
  unfold replies setReplies
  by_cases ha : address' = address
  · subst ha
    have hm : method' ≠ method := h.resolve_left fun hne => hne rfl
    rw [lookup_put_self, Option.bind_some, lookup_put_of_ne hm]
    cases s.lookup address' <;> rfl
  · rw [lookup_put_of_ne ha]

/-- The replies that are left once the first one is taken; the last one stays. -/
def left : List ρ → List ρ
  | _ :: r :: rs => r :: rs
  | rs => rs

theorem take_fst (s : ScriptOf ρ) (address method : String) :
    (s.take address method).1 = (s.replies address method).head? := by
  unfold take
  rcases s.replies address method with _ | ⟨r, _ | ⟨r', rs⟩⟩ <;> rfl

theorem replies_take_self (s : ScriptOf ρ) (address method : String) :
    (s.take address method).2.replies address method = left (s.replies address method) := by
  unfold take
  rcases h : s.replies address method with _ | ⟨r, _ | ⟨r', rs⟩⟩
  · exact h
  · exact h
  · exact replies_setReplies_self s address method (r' :: rs)

theorem replies_take_of_ne (s : ScriptOf ρ) {address method address' method' : String}
    (h : address' ≠ address ∨ method' ≠ method) :
    (s.take address method).2.replies address' method' = s.replies address' method' := by
  unfold take
  rcases s.replies address method with _ | ⟨r, _ | ⟨r', rs⟩⟩
  · rfl
  · rfl
  · exact replies_setReplies_of_ne s h (r' :: rs)

end ScriptOf

namespace Script

variable (c : Connection) (s : Script)

/-- An answer is the next reply, or an error if there are none. -/
theorem answer_eq (method : String) (params : List Json) :
    Net.answer c method params s =
      ((ScriptOf.take s c.address method).1.getD (.error (.rpc ("unknown method " ++ method))),
        (ScriptOf.take s c.address method).2) := by
  unfold Net.answer instNetScript
  dsimp only
  rcases ScriptOf.take s c.address method with ⟨_ | _, _⟩ <;> rfl

/-- A connection opens if there is something at its address and the next reply to it is no error. -/
theorem opening_eq :
    Net.opening c s =
      if (List.lookup c.address s).isSome then
        ((ScriptOf.take s c.address openMethod).1.elim (.ok ()) (Except.map fun _ => ()),
          (ScriptOf.take s c.address openMethod).2)
      else (.error (.http ("unreachable " ++ c.address)), s) := by
  unfold Net.opening instNetScript
  dsimp only
  cases List.lookup c.address s with
  | none => rfl
  | some ms =>
    rcases ScriptOf.take s c.address openMethod with ⟨_ | _ | _, _⟩ <;> rfl

end Script

end HostedNode.Rpc

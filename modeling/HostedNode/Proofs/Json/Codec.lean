import HostedNode.Json.Coded
import HostedNode.Proofs.Json.Printed
import HostedNode.Proofs.Json.Recast

/-! # Types that survive their JSON form

A coded type is lawful if each value is read back from all forms of its JSON form, if readers of
text take these forms and show them as such forms again, and if its text can be read
(`LawfulCoded`). So a value is read back from any text that spells a form of it
(`readAs_of_recast`). Scalars, lists and options are lawful. -/

namespace HostedNode.Json

/-! ### The law -/

/-- Coded types whose values survive their JSON form and its text. -/
class LawfulCoded (α : Type) [Coded α] where
  /-- How deep the JSON form of a value is nested at most. -/
  levels : Nat
  printable : ∀ (a : α) (depth : Nat), levels ≤ depth → Printable depth (toJson a)
  recast_self : ∀ a : α, Recast (toJson a) (toJson a)
  run_recast : ∀ (p : Place) (a : α) (w : Json), Recast (toJson a) w → decoder.run p w = .ok a
  admits_recast : ∀ (a : α) (w : Json), Recast (toJson a) w →
    Admits (decoder (α := α)).schema w
  recast_view : ∀ (a : α) (w : Json), Recast (toJson a) w →
    Recast (toJson a) (view (decoder (α := α)).schema w)

export LawfulCoded (levels printable recast_self run_recast admits_recast recast_view)

section

variable {α : Type} [Coded α] [LawfulCoded α]

/-- **A value is read back from any text that spells a form of it.** -/
theorem readAs_of_recast {a : α} {text : String} {w : Json} (ht : SpellsText text w)
    (hw : Recast (toJson a) w) : readAs decoder text = .ok a := by
  rw [readAs_of_spells ht (admits_recast a w hw), decode,
    run_recast .untagged a _ (recast_view a w hw)]
  rfl

theorem readAs_compact (hl : levels α ≤ maxDepth) (a : α) :
    readAs decoder (toJson a).compact = .ok a :=
  readAs_of_recast (spellsText_compact (printable a maxDepth hl)) (recast_self a)

theorem readAs_pretty (hl : levels α ≤ maxDepth) (a : α) :
    readAs decoder (toJson a).pretty = .ok a :=
  readAs_of_recast (spellsText_pretty (printable a maxDepth hl)) (recast_self a)

end

/-- Types whose JSON form is never null. -/
class NeverNull (α : Type) [Coded α] : Prop where
  toJson_ne_null : ∀ a : α, toJson a ≠ .null

export NeverNull (toJson_ne_null)

/-! ### Scalars -/

/-- A value without parts that can be printed. -/
def Scalar : Json → Prop
  | .null | .bool _ | .str _ => True
  | .int i => InRange i
  | .double _ | .arr _ | .obj _ => False

theorem Scalar.printable {v : Json} (h : Scalar v) (depth : Nat) : Printable depth v := by
  cases v with
  | null | bool _ | str _ => trivial
  | int _ => exact h
  | _ => exact h.elim

theorem Scalar.recast_self {v : Json} (h : Scalar v) : Recast v v := by
  cases v with
  | null => exact .null
  | bool b => exact .bool b
  | int i => exact .int i
  | str s => exact .str s
  | _ => exact h.elim

theorem Scalar.eq_of_recast {v w : Json} (h : Scalar v) (hw : Recast v w) : w = v := by
  cases hw with
  | arr _ | obj _ | values _ => exact h.elim
  | _ => rfl

/-- A coded type is lawful if its values are scalars and each is read back. -/
abbrev LawfulCoded.ofScalar {α : Type} [Coded α] (hs : ∀ a : α, Scalar (toJson a))
    (hd : (decoder (α := α)).schema = .whole)
    (hrun : ∀ (p : Place) (a : α), decoder.run p (toJson a) = .ok a) : LawfulCoded α where
  levels := 0
  printable a depth _ := (hs a).printable depth
  recast_self a := (hs a).recast_self
  run_recast p a w hw := by
    rw [(hs a).eq_of_recast hw]
    exact hrun p a
  admits_recast a w _ := by
    rw [hd]
    exact admits_whole w
  recast_view a w hw := by
    rw [hd]
    exact recast_view_whole hw

instance : LawfulCoded String := .ofScalar (fun _ => trivial) rfl fun _ _ => rfl

instance : LawfulCoded Bool := .ofScalar (fun _ => trivial) rfl fun _ _ => rfl

theorem run_natBelow {bound n : Nat} (h : n < bound) (name : String) (p : Place) :
    (Decoder.natBelow bound name).run p (ofNat n) = .ok n := by
  have hb : (0 : Int) ≤ n ∧ (n : Int) < bound := by omega
  simp only [Decoder.natBelow, ofNat, if_pos hb, Int.toNat_natCast]

theorem Decoder.run_map {α β : Type} (f : α → β) (d : Decoder α) (p : Place) (v : Json) :
    (d.map f).run p v = (d.run p v).map f := rfl

theorem inRange_ofNat {n : Nat} (h : n < UInt64.size) : InRange n := by
  unfold InRange
  omega

/-- A coded type is lawful if its values are written as the natural numbers below a bound. -/
abbrev LawfulCoded.ofNatBelow {α : Type} [Coded α] {bound : Nat} {name : String} {f : Nat → α}
    (g : α → Nat) (hbound : bound ≤ UInt64.size) (hlt : ∀ a, g a < bound)
    (hj : ∀ a : α, toJson a = ofNat (g a)) (hd : decoder = (Decoder.natBelow bound name).map f)
    (hf : ∀ a, f (g a) = a) : LawfulCoded α :=
  .ofScalar
    (fun a => by
      rw [hj]
      exact inRange_ofNat (Nat.lt_of_lt_of_le (hlt a) hbound))
    (by rw [hd]; rfl) fun p a => by
      rw [hd, hj, Decoder.run_map, run_natBelow (hlt a), Except.map, hf]

instance : LawfulCoded UInt8 :=
  .ofNatBelow UInt8.toNat (by decide) UInt8.toNat_lt_size (fun _ => rfl) rfl
    fun n => UInt8.ofNat_toNat (x := n)

instance : LawfulCoded UInt32 :=
  .ofNatBelow UInt32.toNat (by decide) UInt32.toNat_lt_size (fun _ => rfl) rfl
    fun n => UInt32.ofNat_toNat (x := n)

instance : LawfulCoded UInt64 :=
  .ofNatBelow UInt64.toNat (Nat.le_refl _) UInt64.toNat_lt_size (fun _ => rfl) rfl
    fun n => UInt64.ofNat_toNat (x := n)

/-! ### Names -/

/-- A name that is known is read as what it stands for. -/
theorem run_name {α : Type} {known : List (String × α)} {n : String} {a : α}
    (h : known.lookup n = some a) (p : Place) : (Decoder.name known).run p (.str n) = .ok a := by
  simp only [Decoder.name, h]

/-- A coded type is lawful if its values are written as names, by which they are found. -/
abbrev LawfulCoded.ofName {α : Type} [Coded α] (name : α → String) (known : List (String × α))
    (hj : ∀ a : α, toJson a = .str (name a)) (hd : decoder = Decoder.name known)
    (h : ∀ a : α, known.lookup (name a) = some a) : LawfulCoded α :=
  .ofScalar (fun a => by rw [hj]; trivial) (by rw [hd]; rfl) fun p a => by
    rw [hd, hj]
    exact run_name (h a) p

/-! ### Lists -/

section

variable {α : Type} [Coded α] [LawfulCoded α]

theorem printableItems_map (as : List α) {depth : Nat} (h : levels α ≤ depth) :
    PrintableItems depth (as.map toJson) := by
  induction as with
  | nil => trivial
  | cons a as ih => exact ⟨printable a depth h, ih⟩

theorem recastItems_self (as : List α) : RecastItems (as.map toJson) (as.map toJson) := by
  induction as with
  | nil => exact .nil
  | cons a as ih => exact .cons (recast_self a) ih

theorem runItems_recast (p : Place) (as : List α) (ws : List Json)
    (h : RecastItems (as.map toJson) ws) : (decoder (α := α)).runItems p ws = .ok as := by
  induction as generalizing ws with
  | nil =>
    cases h
    rfl
  | cons a as ih =>
    cases h with
    | cons ha has =>
      rw [Decoder.runItems, run_recast p a _ ha, ih _ has]
      rfl

theorem admitsItems_recast (as : List α) (ws : List Json)
    (h : RecastItems (as.map toJson) ws) :
    AdmitsItems (.items (decoder (α := α)).schema) ws := by
  induction as generalizing ws with
  | nil =>
    cases h
    trivial
  | cons a as ih =>
    cases h with
    | cons ha has => exact ⟨admits_recast a _ ha, ih _ has⟩

theorem recastItems_view (as : List α) (ws : List Json) (h : RecastItems (as.map toJson) ws) :
    RecastItems (as.map toJson) (viewItems (.items (decoder (α := α)).schema) ws) := by
  induction as generalizing ws with
  | nil =>
    cases h
    exact .nil
  | cons a as ih =>
    cases h with
    | cons ha has => exact .cons (recast_view a _ ha) (ih _ has)

instance : LawfulCoded (List α) where
  levels := levels α + 1
  printable as depth h := ⟨depth - 1, by omega, printableItems_map as (by omega)⟩
  recast_self as := .arr (recastItems_self as)
  run_recast p as w h := by
    cases h with
    | arr h => exact runItems_recast p as _ h
  admits_recast as w h := by
    cases h with
    | arr h => exact admitsItems_recast as _ h
  recast_view as w h := by
    cases h with
    | arr h => exact .arr (recastItems_view as _ h)

/-! ### Options -/

theorem run_option {β : Type} {d : Decoder β} {p : Place} {v : Json} {b : β} (hv : v ≠ .null)
    (h : d.run p v = .ok b) : d.option.run p v = .ok (some b) := by
  cases v with
  | null => exact absurd rfl hv
  | _ => simp [Decoder.option, h, Except.map]

instance [NeverNull α] : LawfulCoded (Option α) where
  levels := levels α
  printable o depth h := by
    cases o with
    | none => trivial
    | some a => exact printable a depth h
  recast_self o := by
    cases o with
    | none => exact .null
    | some a => exact recast_self a
  run_recast p o w h := by
    cases o with
    | none =>
      cases h
      rfl
    | some a => exact run_option (h.ne_null (toJson_ne_null a)) (run_recast p a w h)
  admits_recast o w h := by
    cases o with
    | none =>
      cases h
      trivial
    | some a => exact admits_recast a w h
  recast_view o w h := by
    cases o with
    | none =>
      cases h
      exact .null
    | some a => exact recast_view a w h

end

end HostedNode.Json

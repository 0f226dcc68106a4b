import HostedNode.Proofs.Json.Printed

/-! # Plain values read back

A plain value is one whose objects have their fields sorted by name, each name once, and whose
numbers are integers of 64 bits (`Plain`). A reader that looks at everything shows such a value as
it is (`view_of_plain`). So if a plain value is not too deep, it is read back from its pretty text
(`read_pretty`). -/

namespace HostedNode.Json

/-! ### Depth -/

mutual

/-- How deep arrays and objects are nested in the value. -/
def depth : Json → Nat
  | .arr vs => depthItems vs + 1
  | .obj fs => depthFields fs + 1
  | _ => 0

/-- The depth of the deepest item. -/
def depthItems : List Json → Nat
  | [] => 0
  | v :: vs => max (depth v) (depthItems vs)

/-- The depth of the deepest field. -/
def depthFields : List (String × Json) → Nat
  | [] => 0
  | (_, v) :: fs => max (depth v) (depthFields fs)

end

/-! ### Plain values -/

mutual

/-- The names of all objects are in order, none of them twice, and all numbers are integers in
range. -/
def Plain : Json → Prop
  | .arr vs => PlainItems vs
  | .obj fs => fs.Pairwise (·.1 < ·.1) ∧ PlainFields fs
  | .int i => InRange i
  | .double _ => False
  | _ => True

/-- The items are plain. -/
def PlainItems : List Json → Prop
  | [] => True
  | v :: vs => Plain v ∧ PlainItems vs

/-- The values of the fields are plain. -/
def PlainFields : List (String × Json) → Prop
  | [] => True
  | (_, v) :: fs => Plain v ∧ PlainFields fs

end

mutual

theorem printable_of_plain : ∀ (v : Json) {levels : Nat}, Plain v → depth v ≤ levels →
    Printable levels v
  | .null, _, _, _ | .bool _, _, _, _ | .str _, _, _, _ => trivial
  | .int _, _, h, _ => h
  | .double _, _, h, _ => h.elim
  | .arr vs, levels, h, hd => by
    rw [depth] at hd
    exact ⟨levels - 1, by omega, printableItems_of_plain vs h (by omega)⟩
  | .obj fs, levels, h, hd => by
    rw [depth] at hd
    exact ⟨levels - 1, by omega, printableFields_of_plain fs h.2 (by omega)⟩

theorem printableItems_of_plain : ∀ (vs : List Json) {levels : Nat}, PlainItems vs →
    depthItems vs ≤ levels → PrintableItems levels vs
  | [], _, _, _ => trivial
  | v :: vs, levels, h, hd => by
    rw [depthItems] at hd
    exact ⟨printable_of_plain v h.1 (by omega), printableItems_of_plain vs h.2 (by omega)⟩

theorem printableFields_of_plain : ∀ (fs : List (String × Json)) {levels : Nat}, PlainFields fs →
    depthFields fs ≤ levels → PrintableFields levels fs
  | [], _, _, _ => trivial
  | (_, v) :: fs, levels, h, hd => by
    rw [depthFields] at hd
    exact ⟨printable_of_plain v h.1 (by omega), printableFields_of_plain fs h.2 (by omega)⟩

end

/-! ### Readers that look at everything -/

/-- A field whose name comes after all others is put at the end. -/
theorem insert_of_last {name : String} {v : Json} {acc : List (String × Json)}
    (h : ∀ f ∈ acc, f.1 < name) : insert name v acc = acc ++ [(name, v)] := by
  induction acc with
  | nil => rfl
  | cons f acc ih =>
    obtain ⟨n, w⟩ := f
    have hn : n < name := h (n, w) List.mem_cons_self
    rw [insert, if_neg (String.lt_asymm hn), if_neg (String.ne_of_lt hn).symm,
      ih fun g hg => h g (List.mem_cons_of_mem _ hg)]
    rfl

mutual

/-- **A reader that looks at everything shows a plain value as it is.** -/
theorem view_of_plain : ∀ v : Json, Plain v → view .whole v = v
  | .null, _ | .bool _, _ | .int _, _ | .double _, _ | .str _, _ => rfl
  | .arr vs, h => congrArg Json.arr (viewItems_of_plain vs h)
  | .obj fs, h => congrArg Json.obj (viewFields_of_plain fs [] h.2 h.1)

theorem viewItems_of_plain : ∀ vs : List Json, PlainItems vs → viewItems .whole vs = vs
  | [], _ => rfl
  | v :: vs, h => congrArg₂ List.cons (view_of_plain v h.1) (viewItems_of_plain vs h.2)

theorem viewFields_of_plain : ∀ fs acc : List (String × Json), PlainFields fs →
    (acc ++ fs).Pairwise (·.1 < ·.1) → viewFields .whole acc fs = acc ++ fs
  | [], acc, _, _ => (List.append_nil acc).symm
  | (name, v) :: fs, acc, h, hsorted => by
    have hlast : ∀ f ∈ acc, f.1 < name := fun f hf =>
      (List.pairwise_append.mp hsorted).2.2 f hf (name, v) List.mem_cons_self
    rw [List.append_cons] at hsorted ⊢
    rw [viewFields_cons, keepField_whole, view_of_plain v h.1, insert_of_last hlast,
      viewFields_of_plain fs _ h.2 hsorted]

end

/-- **A plain value is read back from its pretty text**, if it is not too deep. -/
theorem read_pretty {v : Json} (h : Plain v) (hd : depth v ≤ maxDepth) :
    read v.pretty = .ok v := by
  rw [read, readAs_of_spells (spellsText_pretty (printable_of_plain v h hd)) (admits_whole v)]
  show (decode Decoder.json (view .whole v)).mapError _ = _
  rw [view_of_plain v h]
  rfl

end HostedNode.Json

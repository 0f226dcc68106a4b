import HostedNode.Proofs.Json.Reads

/-! # Other forms of a value

A record can be written with more fields than it has, with its fields in another order, or as the
array of its values; each record inside of it as well. `Recast v w` says that `w` is `v` with some
of its objects changed in these ways. What a reader of everything shows of such a form is such a
form again (`recast_view_whole`). -/

namespace HostedNode.Json

/-! ### Fields that occur once -/

/-- The field is the only one of its name. -/
def Once (name : String) (v : Json) (fs : List (String × Json)) : Prop :=
  fs.filter (·.1 = name) = [(name, v)]

section

variable {name : String} {v : Json} {fs : List (String × Json)}

theorem Once.find? (h : Once name v fs) : find? name fs = some v := by
  induction fs with
  | nil => cases h
  | cons f fs ih =>
    obtain ⟨n, w⟩ := f
    unfold Once at h
    by_cases hn : n = name
    · rw [List.filter_cons_of_pos (by simp [hn])] at h
      obtain ⟨hw, -⟩ := List.cons.inj h
      rw [Json.find?, if_pos hn, (Prod.mk.inj hw).2]
    · rw [List.filter_cons_of_neg (by simp [hn])] at h
      rw [Json.find?, if_neg hn]
      exact ih h

/-- Any field of the name is the one. -/
theorem Once.eq_of_mem (h : Once name v fs) {w : Json} (hw : (name, w) ∈ fs) : w = v := by
  have hmem : (name, w) ∈ fs.filter (·.1 = name) := List.mem_filter.mpr ⟨hw, by simp⟩
  rw [h] at hmem
  exact (Prod.mk.inj (List.mem_singleton.mp hmem)).2

theorem filter_insert_of_ne {other : String} (h : other ≠ name) :
    (insert name v fs).filter (·.1 = other) = fs.filter (·.1 = other) := by
  induction fs with
  | nil => simp [insert, Ne.symm h]
  | cons f fs ih =>
    obtain ⟨n, w⟩ := f
    rw [insert]
    split
    · simp [Ne.symm h]
    · split
      · rename_i hn
        simp [← hn, Ne.symm h]
      · simp only [List.filter_cons, ih]

theorem once_insert (h : fs.filter (·.1 = name) = []) : Once name v (insert name v fs) := by
  unfold Once
  induction fs with
  | nil => simp [insert]
  | cons f fs ih =>
    obtain ⟨n, w⟩ := f
    have hn : n ≠ name := by
      rintro rfl
      simp at h
    rw [List.filter_cons_of_neg (by simp [hn])] at h
    rw [insert]
    split
    · simp [hn, h]
    · simp [Ne.symm hn, hn, ih h]

end

/-! ### What readers show of such a field -/

section

variable {s t : Schema} {name : String} {v : Json}

/-- Fields of other names do not matter for the fields of a name. -/
theorem filter_viewFields_of_absent {fs acc : List (String × Json)}
    (h : fs.filter (·.1 = name) = []) :
    (viewFields s acc fs).filter (·.1 = name) = acc.filter (·.1 = name) := by
  induction fs generalizing acc with
  | nil => rfl
  | cons f fs ih =>
    obtain ⟨n, w⟩ := f
    have hn : n ≠ name := by
      rintro rfl
      simp at h
    rw [List.filter_cons_of_neg (by simp [hn])] at h
    rw [viewFields_cons, ih h, keepField]
    split
    · exact filter_insert_of_ne hn.symm
    · rfl

theorem once_viewFields (ht : s.ofField? name = some t) {fs acc : List (String × Json)}
    (h : Once name v fs) (hacc : acc.filter (·.1 = name) = []) :
    Once name (view t v) (viewFields s acc fs) := by
  induction fs generalizing acc with
  | nil => cases h
  | cons f fs ih =>
    obtain ⟨n, w⟩ := f
    rw [viewFields_cons]
    unfold Once at h
    by_cases hn : n = name
    · subst hn
      rw [List.filter_cons_of_pos (by simp)] at h
      obtain ⟨hw, hrest⟩ := List.cons.inj h
      rw [(Prod.mk.inj hw).2, Once, filter_viewFields_of_absent hrest, keepField, ht]
      exact once_insert hacc
    · rw [List.filter_cons_of_neg (by simp [hn])] at h
      refine ih h ?_
      rw [keepField]
      split
      · rw [filter_insert_of_ne (Ne.symm hn)]
        exact hacc
      · exact hacc

end

/-! ### Forms -/

mutual

/-- The second value is a form of the first: each object of the first stands in the second as an
object that has its fields, each of them once, and any others, or as the array of the values of its
fields. -/
inductive Recast : Json → Json → Prop where
  | null : Recast .null .null
  | bool (b : Bool) : Recast (.bool b) (.bool b)
  | int (i : Int) : Recast (.int i) (.int i)
  | double (d : Decimal.Double) : Recast (.double d) (.double d)
  | str (s : String) : Recast (.str s) (.str s)
  | arr {vs ws} : RecastItems vs ws → Recast (.arr vs) (.arr ws)
  | obj {fs gs} : RecastFields fs gs → Recast (.obj fs) (.obj gs)
  | values {fs ws} : RecastValues fs ws → Recast (.obj fs) (.arr ws)

/-- The items are forms of the items, one by one. -/
inductive RecastItems : List Json → List Json → Prop where
  | nil : RecastItems [] []
  | cons {v w vs ws} : Recast v w → RecastItems vs ws → RecastItems (v :: vs) (w :: ws)

/-- A form of each field is among the fields of the second list, once under its name. -/
inductive RecastFields : List (String × Json) → List (String × Json) → Prop where
  | nil {gs} : RecastFields [] gs
  | cons {k v w fs gs} : Once k w gs → Recast v w → RecastFields fs gs →
    RecastFields ((k, v) :: fs) gs

/-- The items are forms of the values of the fields, one by one. -/
inductive RecastValues : List (String × Json) → List Json → Prop where
  | nil : RecastValues [] []
  | cons {k v w fs ws} : Recast v w → RecastValues fs ws → RecastValues ((k, v) :: fs) (w :: ws)

end

theorem Recast.ne_null {v w : Json} (h : Recast v w) (hv : v ≠ .null) : w ≠ .null := by
  rintro rfl
  cases h
  exact hv rfl

theorem recastFields_iff {fs gs : List (String × Json)} :
    RecastFields fs gs ↔ ∀ f ∈ fs, ∃ w, Once f.1 w gs ∧ Recast f.2 w := by
  induction fs with
  | nil =>
    refine ⟨fun _ => by simp, fun _ => .nil⟩
  | cons f fs ih =>
    rw [List.forall_mem_cons]
    constructor
    · intro h
      cases h with
      | cons hw hv hfs => exact ⟨⟨_, hw, hv⟩, ih.mp hfs⟩
    · rintro ⟨⟨w, hw, hv⟩, hfs⟩
      exact .cons hw hv (ih.mpr hfs)

theorem recastValues_append {fs gs : List (String × Json)} {ws : List Json}
    (h : RecastValues (fs ++ gs) ws) :
    ∃ xs ys, ws = xs ++ ys ∧ RecastValues fs xs ∧ RecastValues gs ys := by
  induction fs generalizing ws with
  | nil => exact ⟨[], ws, rfl, .nil, h⟩
  | cons f fs ih =>
    cases h with
    | cons hx hxs =>
      obtain ⟨ys, zs, rfl, hys, hzs⟩ := ih hxs
      exact ⟨_ :: ys, zs, rfl, .cons hx hys, hzs⟩

/-- A value that is a form of itself has the array of its values as a form. -/
theorem Recast.values_self {fs : List (String × Json)} (h : Recast (.obj fs) (.obj fs)) :
    Recast (.obj fs) (.arr (fs.map (·.2))) := by
  have hself : ∀ gs : List (String × Json), RecastFields gs fs → (∀ g ∈ gs, g ∈ fs) →
      RecastValues gs (gs.map (·.2)) := by
    intro gs
    induction gs with
    | nil => exact fun _ _ => .nil
    | cons g gs ih =>
      obtain ⟨k, v⟩ := g
      intro hgs hmem
      cases hgs with
      | cons hw hv hrest =>
        -- the name occurs once, so the form of the value is the value
        rw [← hw.eq_of_mem (hmem (k, v) (by simp))] at hv
        exact .cons hv (ih hrest fun g hg => hmem g (by simp [hg]))
  cases h with
  | obj h => exact .values (hself fs h fun _ hf => hf)

/-! ### Readers of everything -/

mutual

theorem recast_view_whole {v w : Json} : Recast v w → Recast v (view .whole w)
  | .null => .null
  | .bool b => .bool b
  | .int i => .int i
  | .double d => .double d
  | .str s => .str s
  | .arr h => .arr (recastItems_view_whole h)
  | .obj h => .obj (recastFields_view_whole h)
  | .values h => .values (recastValues_view_whole h)

theorem recastItems_view_whole {vs ws : List Json} :
    RecastItems vs ws → RecastItems vs (viewItems .whole ws)
  | .nil => .nil
  | .cons hv hvs => .cons (recast_view_whole hv) (recastItems_view_whole hvs)

theorem recastFields_view_whole {fs gs : List (String × Json)} :
    RecastFields fs gs → RecastFields fs (viewFields .whole [] gs)
  | .nil => .nil
  | .cons hw hv hfs =>
    .cons (once_viewFields rfl hw rfl) (recast_view_whole hv) (recastFields_view_whole hfs)

theorem recastValues_view_whole {fs : List (String × Json)} {ws : List Json} :
    RecastValues fs ws → RecastValues fs (viewItems .whole ws)
  | .nil => .nil
  | .cons hv hfs => .cons (recast_view_whole hv) (recastValues_view_whole hfs)

end

end HostedNode.Json

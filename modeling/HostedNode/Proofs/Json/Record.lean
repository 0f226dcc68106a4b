import HostedNode.Proofs.Json.Codec
import Mathlib.Data.List.Nodup

/-! # Records survive their JSON form

`RecordReader.Fits` relates a record reader, a record and the fields that the record is written to,
each field together with what the reader knows of it. It is put together from single fields as the
reader is. A reader that fits a record reads it back from all objects that hold forms of its fields
and from all arrays of such forms (`Fits.run_recast`). The types whose records are told apart by a
tag follow from the same relation, one reader a tag (`LawfulCoded.ofTagged`). -/

namespace HostedNode.Json

/-- A field of a record: what a reader knows of it, and the value written there. -/
abbrev Filled := FieldCheck × Json

namespace Filled

/-- The field as it is written. -/
def written (e : Filled) : String × Json := (e.1.name, e.2)

@[simp] theorem written_fst (e : Filled) : e.written.1 = e.1.name := rfl

/-- Whether an object has the field, with a form of its value. -/
def InFields (e : Filled) (fs : List (String × Json)) : Prop :=
  ∃ w, Once e.1.name w fs ∧ Recast e.2 w

/-- Whether all forms of the value can be read, and its text with so many levels of nesting. -/
structure Sound (e : Filled) (levels : Nat) : Prop where
  printable : ∀ depth, levels ≤ depth → Printable depth e.2
  recast_self : Recast e.2 e.2
  fault? : ∀ p w, Recast e.2 w → e.1.fault? p w = none
  admits : ∀ w, Recast e.2 w → Admits e.1.schema w
  recast_view : ∀ w, Recast e.2 w → Recast e.2 (view e.1.schema w)

end Filled

/-! ### Lists of fields -/

/-- The names of the fields. -/
def filledNames (es : List Filled) : List String := es.map (·.1.name)

theorem recastFields_written {es : List Filled} {gs : List (String × Json)} :
    RecastFields (es.map Filled.written) gs ↔ ∀ e ∈ es, e.InFields gs := by
  rw [recastFields_iff, List.forall_mem_map]
  rfl

theorem name_ne_of_notMem {es : List Filled} {name : String} (h : name ∉ filledNames es)
    {e : Filled} (he : e ∈ es) : e.1.name ≠ name := by
  rintro rfl
  exact h (List.mem_map_of_mem (f := fun e : Filled => e.1.name) he)

theorem once_written {es : List Filled} (hn : (filledNames es).Nodup) {e : Filled} (he : e ∈ es) :
    Once e.1.name e.2 (es.map Filled.written) := by
  unfold Once
  induction es with
  | nil => simp at he
  | cons f es ih =>
    obtain ⟨hf, hn⟩ := List.nodup_cons.mp hn
    rw [List.map_cons]
    rcases List.mem_cons.mp he with rfl | he
    · have hrest : (es.map Filled.written).filter (·.1 = e.1.name) = [] := by
        refine List.filter_eq_nil_iff.mpr fun g hg => ?_
        obtain ⟨e', he', rfl⟩ := List.mem_map.mp hg
        exact fun h => name_ne_of_notMem hf he' (of_decide_eq_true h)
      rw [List.filter_cons_of_pos (by simp), hrest]
      rfl
    · refine (List.filter_cons_of_neg ?_).trans (ih hn he)
      exact fun h => (name_ne_of_notMem hf he).symm (of_decide_eq_true h)

/-- The schema of the fields. -/
def schemaOf (es : List Filled) : Schema := .fields (es.map fun e => (e.1.name, e.1.schema))

theorem ofField?_schemaOf {es : List Filled} (hn : (filledNames es).Nodup) {e : Filled}
    (he : e ∈ es) : (schemaOf es).ofField? e.1.name = some e.1.schema := by
  unfold schemaOf Schema.ofField?
  induction es with
  | nil => simp at he
  | cons f es ih =>
    obtain ⟨hf, hn⟩ := List.nodup_cons.mp hn
    rcases List.mem_cons.mp he with rfl | he
    · simp
    · have hne : e.1.name ≠ f.1.name := name_ne_of_notMem hf he
      simpa [List.lookup_cons, beq_false_of_ne hne] using ih hn he

/-- Only the fields are known. -/
theorem mem_of_ofField?_schemaOf {es : List Filled} {name : String} {t : Schema}
    (h : (schemaOf es).ofField? name = some t) : ∃ e ∈ es, e.1.name = name ∧ e.1.schema = t := by
  obtain ⟨e, he, heq⟩ := List.mem_map.mp (mem_of_ofField? h)
  exact ⟨e, he, (Prod.mk.inj heq).1, (Prod.mk.inj heq).2⟩

section

variable {es : List Filled} {levels : Nat}

theorem printableFields_written (he : ∀ e ∈ es, e.Sound levels) {depth : Nat}
    (hd : levels ≤ depth) : PrintableFields depth (es.map Filled.written) := by
  induction es with
  | nil => trivial
  | cons e es ih =>
    exact ⟨(he e (by simp)).printable depth hd, ih fun f hf => he f (by simp [hf])⟩

/-- In an object that has each field once, none of them repeats. -/
theorem admitsFields_recast (he : ∀ e ∈ es, e.Sound levels) {gs : List (String × Json)}
    (hgs : ∀ e ∈ es, (gs.filter (·.1 = e.1.name)).length ≤ 1 ∧
      ∀ g ∈ gs, g.1 = e.1.name → Recast e.2 g.2) : AdmitsFields (schemaOf es) gs := by
  induction gs with
  | nil => trivial
  | cons g gs ih =>
    obtain ⟨k, v⟩ := g
    refine ⟨fun t ht => ?_, ih fun e hmem => ⟨?_, fun g hg => (hgs e hmem).2 g (by simp [hg])⟩⟩
    · obtain ⟨e, hmem, rfl, rfl⟩ := mem_of_ofField?_schemaOf ht
      obtain ⟨hlen, hform⟩ := hgs e hmem
      refine ⟨fun _ hk => ?_, (he e hmem).admits v (hform (_, v) (by simp) rfl)⟩
      obtain ⟨g, hg, hname⟩ := List.mem_map.mp hk
      have hmore : g ∈ gs.filter (·.1 = e.1.name) := List.mem_filter.mpr ⟨hg, by simp [hname]⟩
      rw [List.filter_cons_of_pos (by simp), List.length_cons] at hlen
      have hpos := List.length_pos_of_mem hmore
      omega
    · have hlen := (hgs e hmem).1
      rw [List.filter_cons] at hlen
      split at hlen
      · rw [List.length_cons] at hlen
        omega
      · exact hlen

theorem admitsItems_values (he : ∀ e ∈ es, e.Sound levels) {ws : List Json}
    (h : RecastValues (es.map Filled.written) ws) : AdmitsItems (schemaOf es) ws := by
  induction es generalizing ws with
  | nil =>
    cases h
    trivial
  | cons e es ih =>
    cases h with
    | cons hw hws =>
      exact ⟨(he e (by simp)).admits _ hw, ih (fun f hf => he f (by simp [hf])) hws⟩

theorem recastValues_view (he : ∀ e ∈ es, e.Sound levels) {ws : List Json}
    (h : RecastValues (es.map Filled.written) ws) :
    RecastValues (es.map Filled.written) (viewItems (schemaOf es) ws) := by
  induction es generalizing ws with
  | nil =>
    cases h
    exact .nil
  | cons e es ih =>
    cases h with
    | cons hw hws =>
      exact .cons ((he e (by simp)).recast_view _ hw) (ih (fun f hf => he f (by simp [hf])) hws)

theorem recastFields_view (he : ∀ e ∈ es, e.Sound levels) (hn : (filledNames es).Nodup)
    {gs : List (String × Json)} (h : ∀ e ∈ es, e.InFields gs) :
    RecastFields (es.map Filled.written) (viewFields (schemaOf es) [] gs) := by
  refine recastFields_written.mpr fun e hmem => ?_
  obtain ⟨w, hw, hform⟩ := h e hmem
  exact ⟨_, once_viewFields (ofField?_schemaOf hn hmem) hw rfl, (he e hmem).recast_view w hform⟩

end

/-! ### Readers that fit -/

namespace RecordReader

theorem ofItems_seq {α β : Type} (f : RecordReader (α → β)) (x : RecordReader α) (p : Place)
    (short : Nat → DecodeError) (n : Nat) (ws : List Json) :
    (f <*> x).ofItems p short n ws = (do
      let (g, items) ← f.ofItems p short n ws
      let (a, items) ← x.ofItems p short (n + f.checks.length) items
      .ok (g a, items)) := rfl

/-- The reader reads the record from these fields. -/
structure Fits {α : Type} (r : RecordReader α) (a : α) (levels : Nat) (es : List Filled) :
    Prop where
  checks : r.checks = es.map (·.1)
  sound : ∀ e ∈ es, e.Sound levels
  ofFields : ∀ p fs, (∀ e ∈ es, e.InFields fs) → r.ofFields p fs = .ok a
  ofItems : ∀ p short n ws rest, RecastValues (es.map Filled.written) ws →
    r.ofItems p short n (ws ++ rest) = .ok (a, rest)

namespace Fits

variable {α β : Type} {levels : Nat}

theorem pure (a : α) : (RecordReader.pure a).Fits a levels [] where
  checks := rfl
  sound := by simp
  ofFields _ _ _ := rfl
  ofItems _ _ _ ws rest h := by
    cases h
    rfl

theorem seq {f : RecordReader (α → β)} {x : RecordReader α} {g : α → β} {a : α}
    {es es' : List Filled} (hf : f.Fits g levels es) (hx : x.Fits a levels es') :
    (f <*> x).Fits (g a) levels (es ++ es') where
  checks := by
    show f.checks ++ x.checks = _
    rw [hf.checks, hx.checks, List.map_append]
  sound e he := (List.mem_append.mp he).elim (hf.sound e) (hx.sound e)
  ofFields p fs h := by
    have h1 := hf.ofFields p fs fun e he => h e (by simp [he])
    have h2 := hx.ofFields p fs fun e he => h e (by simp [he])
    show (do let g ← f.ofFields p fs; let a ← x.ofFields p fs; Except.ok (g a)) = _
    rw [h1, h2]
    rfl
  ofItems p short n ws rest h := by
    rw [List.map_append] at h
    obtain ⟨xs, ys, rfl, hxs, hys⟩ := recastValues_append h
    have h1 := hf.ofItems p short n xs (ys ++ rest) hxs
    have h2 := hx.ofItems p short (n + f.checks.length) ys rest hys
    rw [ofItems_seq, List.append_assoc, h1]
    simp only [bind, Except.bind, h2]

theorem map {x : RecordReader α} {a : α} {es : List Filled} (g : α → β) (hx : x.Fits a levels es) :
    (g <$> x).Fits (g a) levels es := seq (pure g) hx

/-- The field of a lawful type, with what is written there. -/
def filled {α : Type} [Coded α] (name : String) (a : α) : Filled :=
  (⟨name, (Coded.decoder (α := α)).schema, fun p v =>
    match Coded.decoder (α := α) |>.run p v with
    | .ok _ => none
    | .error e => some e⟩, toJson a)

theorem field [Coded α] [LawfulCoded α] (name : String) (absent short : Option α) (a : α)
    (hl : LawfulCoded.levels α ≤ levels) :
    (RecordReader.field name Coded.decoder absent short).Fits a levels [filled name a] where
  checks := rfl
  sound e he := by
    rw [List.mem_singleton.mp he]
    exact {
      printable := fun depth hd => printable a depth (by omega)
      recast_self := LawfulCoded.recast_self a
      fault? := fun p w hw => by simp [filled, LawfulCoded.run_recast p a w hw]
      admits := admits_recast a
      recast_view := recast_view a }
  ofFields p fs h := by
    obtain ⟨w, hw, hform⟩ := h _ (List.mem_singleton_self _)
    have hfind : find? name fs = some w := hw.find?
    simp only [RecordReader.field, hfind, LawfulCoded.run_recast p a w hform]
  ofItems p short n ws rest h := by
    cases h with
    | cons hw hws =>
      cases hws
      simp only [RecordReader.field, List.cons_append, List.nil_append]
      rw [LawfulCoded.run_recast p a _ hw]
      rfl

/-! ### Reading a record -/

variable {r : RecordReader α} {a : α} {es : List Filled}

theorem firstFault_eq_none (h : r.Fits a levels es) (p : Place) {fs : List (String × Json)}
    (hfs : ∀ f ∈ fs, ∀ e ∈ es, f.1 = e.1.name → Recast e.2 f.2) : r.firstFault p fs = none := by
  induction fs with
  | nil => rfl
  | cons f fs ih =>
    have ih := ih fun g hg => hfs g (by simp [hg])
    obtain ⟨n, v⟩ := f
    rw [firstFault]
    cases hc : r.checks.find? (·.name = n) with
    | none => exact ih
    | some c =>
      have hname : c.name = n := by simpa using List.find?_some hc
      have hmem : c ∈ r.checks := List.mem_of_find?_eq_some hc
      rw [h.checks] at hmem
      obtain ⟨e, he, rfl⟩ := List.mem_map.mp hmem
      have hform := hfs (n, v) (by simp) e he hname.symm
      simpa only [(h.sound e he).fault? p v hform] using ih

/-- **A record is read back from an object that has its fields.** -/
theorem readFields_of_inFields (h : r.Fits a levels es) (p : Place) {fs : List (String × Json)}
    (hfs : ∀ e ∈ es, e.InFields fs) : r.readFields p fs = .ok a := by
  have hfault : r.firstFault p fs = none := h.firstFault_eq_none p fun f hf e he hname => by
    obtain ⟨w, hw, hform⟩ := hfs e he
    obtain ⟨k, v⟩ := f
    dsimp only at hname
    subst hname
    rw [hw.eq_of_mem hf]
    exact hform
  simp only [readFields, hfault, h.ofFields p fs hfs]

/-- **A record is read back from the array of its values.** -/
theorem readItems_of_recastValues (h : r.Fits a levels es) (what : String) (p : Place)
    {ws : List Json} (hws : RecastValues (es.map Filled.written) ws) :
    r.readItems what p ws = .ok a := by
  have hitems := fun short => h.ofItems p short 0 ws [] hws
  rw [List.append_nil] at hitems
  simp only [readItems, hitems, bind, Except.bind]
  rfl

theorem run_recast (h : r.Fits a levels es) (what : String) (p : Place) {w : Json}
    (hw : Recast (.obj (es.map Filled.written)) w) : (r.decoder what).run p w = .ok a := by
  cases hw with
  | obj hfs => exact h.readFields_of_inFields p (recastFields_written.mp hfs)
  | values hws => exact h.readItems_of_recastValues _ p hws

theorem names_eq (h : r.Fits a levels es) : r.checks.map (·.name) = filledNames es := by
  rw [h.checks, List.map_map]
  rfl

theorem schema_eq (h : r.Fits a levels es) : r.schema = schemaOf es := by
  rw [RecordReader.schema, h.checks, List.map_map]
  rfl

theorem admits (h : r.Fits a levels es) {w : Json}
    (hw : Recast (.obj (es.map Filled.written)) w) : Admits r.schema w := by
  rw [h.schema_eq]
  cases hw with
  | obj hfs =>
    refine admitsFields_recast h.sound fun e he => ?_
    obtain ⟨x, hx, hform⟩ := recastFields_written.mp hfs e he
    refine ⟨by simp [show _ = _ from hx], fun g hg hname => ?_⟩
    obtain ⟨k, v⟩ := g
    dsimp only at hname
    subst hname
    rw [hx.eq_of_mem hg]
    exact hform
  | values hws => exact admitsItems_values h.sound hws

theorem recast_view (h : r.Fits a levels es) (hn : (filledNames es).Nodup) {w : Json}
    (hw : Recast (.obj (es.map Filled.written)) w) :
    Recast (.obj (es.map Filled.written)) (view r.schema w) := by
  rw [h.schema_eq]
  cases hw with
  | obj hfs => exact .obj (recastFields_view h.sound hn (recastFields_written.mp hfs))
  | values hws => exact .values (recastValues_view h.sound hws)

theorem inFields_self (h : r.Fits a levels es) (hn : (filledNames es).Nodup) {e : Filled}
    (he : e ∈ es) : e.InFields (es.map Filled.written) :=
  ⟨e.2, once_written hn he, (h.sound e he).recast_self⟩

end Fits

end RecordReader

/-- A coded type is lawful if its decoder is that of a record reader which fits all its values. -/
abbrev LawfulCoded.ofReader {α : Type} [Coded α] (what : String) (r : RecordReader α) (levels : Nat)
    {fields : α → List Filled} (hfits : ∀ a, r.Fits a levels (fields a))
    (hj : ∀ a : α, toJson a = .obj ((fields a).map Filled.written))
    (hd : decoder = r.decoder what) (hn : (r.checks.map (·.name)).Nodup) :
    LawfulCoded α :=
  have hnames (a : α) : (filledNames (fields a)).Nodup := (hfits a).names_eq ▸ hn
  { levels := levels + 1
    printable := fun a depth h => by
      rw [hj]
      exact ⟨depth - 1, by omega, printableFields_written (hfits a).sound (by omega)⟩
    recast_self := fun a => by
      rw [hj]
      exact .obj (recastFields_written.mpr fun e he => (hfits a).inFields_self (hnames a) he)
    run_recast := fun p a w hw => by
      rw [hd]
      rw [hj] at hw
      exact (hfits a).run_recast what p hw
    admits_recast := fun a w hw => by
      rw [hd]
      rw [hj] at hw
      exact (hfits a).admits hw
    recast_view := fun a w hw => by
      rw [hd]
      rw [hj] at hw ⊢
      exact (hfits a).recast_view (hnames a) hw }

/-! ### Tagged records -/

section

variable {α : Type} {name : String} {variants : List (Variant α)} {c : Variant α} {a : α}
  {levels : Nat} {es : List Filled}

/-- The tag as a field. -/
def tagField (tag : String) : String × Json := (tagName, .str tag)

theorem Filled.InFields.untagged {e : Filled} {fs : List (String × Json)} (h : e.InFields fs)
    (hne : e.1.name ≠ tagName) : e.InFields (untaggedFields fs) := by
  obtain ⟨w, hw, hform⟩ := h
  refine ⟨w, ?_, hform⟩
  have hkeep : (untaggedFields fs).filter (·.1 = e.1.name) = fs.filter (·.1 = e.1.name) := by
    rw [untaggedFields, List.filter_filter]
    refine List.filter_congr fun f _ => ?_
    by_cases hf : f.1 = e.1.name
    · simp [hf, hne]
    · simp [hf]
  exact hkeep.trans hw

theorem run_tagged (hc : variants.find? (·.tag = c.tag) = some c) (h : c.reader.Fits a levels es)
    (htag : tagName ∉ filledNames es) (p : Place) {w : Json}
    (hw : Recast (.obj (tagField c.tag :: es.map Filled.written)) w) :
    (Decoder.tagged name variants).run p w = .ok a := by
  have hvariant : variantOf variants (.str c.tag) = .ok c := by simp only [variantOf, hc]
  cases hw with
  | obj hfs =>
    cases hfs with
    | cons ht hform hfs =>
      cases hform
      have hread := h.readFields_of_inFields .tagged fun e he =>
        (recastFields_written.mp hfs e he).untagged (name_ne_of_notMem htag he)
      simp only [Decoder.tagged, ht.find?, hvariant, bind, Except.bind, hread]
  | values hws =>
    cases hws with
    | cons hform hws =>
      cases hform
      have hread := fun what => h.readItems_of_recastValues what .tagged hws
      simp only [Decoder.tagged, hvariant, bind, Except.bind, hread]

theorem recast_tagged_self (h : c.reader.Fits a levels es) (hn : (filledNames es).Nodup)
    (htag : tagName ∉ filledNames es) :
    Recast (.obj (tagField c.tag :: es.map Filled.written))
      (.obj (tagField c.tag :: es.map Filled.written)) := by
  refine .obj (.cons ?_ (.str c.tag) (recastFields_written.mpr fun e he => ?_))
  · have hrest : (es.map Filled.written).filter (·.1 = tagName) = [] := by
      refine List.filter_eq_nil_iff.mpr fun g hg => ?_
      obtain ⟨e, he, rfl⟩ := List.mem_map.mp hg
      exact fun h => name_ne_of_notMem htag he (of_decide_eq_true h)
    rw [Once, tagField, List.filter_cons_of_pos (by simp), hrest]
  · obtain ⟨w, hw, hform⟩ := h.inFields_self hn he
    refine ⟨w, ?_, hform⟩
    have hne : tagName ≠ e.1.name := (name_ne_of_notMem htag he).symm
    rw [Once, tagField, List.filter_cons_of_neg (by simpa using hne)]
    exact hw

end

/-- One of the variants reads the record from this form of it, which has the tag as its first
field. -/
structure TaggedFits {α : Type} (variants : List (Variant α)) (levels : Nat) (a : α)
    (c : Variant α) (es : List Filled) : Prop where
  find? : variants.find? (·.tag = c.tag) = some c
  fits : c.reader.Fits a levels es
  nodup : (tagName :: c.reader.checks.map (·.name)).Nodup

namespace TaggedFits

variable {α : Type} {variants : List (Variant α)} {levels : Nat} {a : α} {c : Variant α}
  {es : List Filled}

theorem tag_notMem (h : TaggedFits variants levels a c es) : tagName ∉ filledNames es := by
  rw [← h.fits.names_eq]
  exact (List.nodup_cons.mp h.nodup).1

theorem names_nodup (h : TaggedFits variants levels a c es) : (filledNames es).Nodup := by
  rw [← h.fits.names_eq]
  exact (List.nodup_cons.mp h.nodup).2

end TaggedFits

/-- A coded type is lawful if its decoder tells its records apart by their tag, and one of the
variants fits each of its values. -/
abbrev LawfulCoded.ofTagged {α : Type} [Coded α] (name : String) (variants : List (Variant α))
    (levels : Nat) (hd : decoder = Decoder.tagged name variants)
    (h : ∀ a : α, ∃ c es, TaggedFits variants levels a c es ∧
      toJson a = .obj (tagField c.tag :: es.map Filled.written)) : LawfulCoded α where
  levels := levels + 1
  printable a depth hdepth := by
    obtain ⟨c, es, hc, hj⟩ := h a
    rw [hj]
    exact ⟨depth - 1, by omega, trivial, printableFields_written hc.fits.sound (by omega)⟩
  recast_self a := by
    obtain ⟨c, es, hc, hj⟩ := h a
    rw [hj]
    exact recast_tagged_self hc.fits hc.names_nodup hc.tag_notMem
  run_recast p a w hw := by
    obtain ⟨c, es, hc, hj⟩ := h a
    rw [hj] at hw
    rw [hd]
    exact run_tagged hc.find? hc.fits hc.tag_notMem p hw
  admits_recast a w _ := by
    rw [hd]
    exact admits_whole w
  recast_view a w hw := by
    rw [hd]
    exact recast_view_whole hw

end HostedNode.Json

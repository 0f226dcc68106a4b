import HostedNode.Json.Coded
import HostedNode.Proofs.Json.Fields
import Mathlib.Data.List.Forall2
import Mathlib.Data.List.Nodup

/-! # What decoders read

A decoder is known by the relation between values and what it reads of them (`Decoder.Reads`). A
record comes in two forms: an object, in which each field stands under its name or is absent
(`Stands`), and names that the record does not know do not matter; or an array, of which each field
takes the next item or, at the end, none (`Next`). What a decoder of a record reads in either form
is put together from what is read of its fields (`RecordReader.Reads`,
`RecordReader.decode_eq_ok_iff`). -/

namespace HostedNode.Json

variable {α β : Type}

/-! ### Values -/

/-- The decoder reads just these things of values. -/
def Decoder.Reads (d : Decoder α) (P : Json → α → Prop) : Prop :=
  ∀ p v a, d.run p v = .ok a ↔ P v a

/-- The value is a text. -/
def IsText (v : Json) (s : String) : Prop := v = .str s

/-- The value is a truth value. -/
def IsBool (v : Json) (b : Bool) : Prop := v = .bool b

/-- The value is a number of 32 bits. -/
def IsUInt32 (v : Json) (n : UInt32) : Prop := v = .int n.toNat

/-- The value is a number of 64 bits. -/
def IsUInt64 (v : Json) (n : UInt64) : Prop := v = .int n.toNat

/-- The value is null, for nothing, or something. -/
def OrNull (P : Json → α → Prop) (v : Json) : Option α → Prop
  | none => v = .null
  | some a => v ≠ .null ∧ P v a

/-- The value is an array of such values. -/
def Items (P : Json → α → Prop) (v : Json) (as : List α) : Prop :=
  ∃ vs, v = .arr vs ∧ List.Forall₂ P vs as

namespace Decoder

theorem reads_string : Decoder.string.Reads IsText := fun p v s => by
  constructor
  · exact eq_str_of_run_string
  · rintro rfl
    rfl

theorem reads_bool : Decoder.bool.Reads IsBool := fun p v b => by
  constructor
  · intro h
    cases v with
    | bool c =>
      obtain rfl := Except.ok.inj h
      rfl
    | _ => cases h
  · rintro rfl
    rfl

theorem run_natBelow_eq_ok {bound n : Nat} {name : String} {p : Place} {v : Json} :
    (natBelow bound name).run p v = .ok n ↔ v = .int n ∧ n < bound := by
  constructor
  · intro h
    cases v with
    | int i =>
      have hread : (if 0 ≤ i ∧ i < bound then Except.ok i.toNat
          else .error (DecodeError.invalidValue (Json.int i).kindText name)) = .ok n := h
      split at hread
      · next hi =>
        obtain rfl := Except.ok.inj hread
        refine ⟨?_, by omega⟩
        rw [Int.toNat_of_nonneg hi.1]
      · cases hread
    | _ => cases h
  · rintro ⟨rfl, hn⟩
    have hin : 0 ≤ (n : Int) ∧ (n : Int) < bound := by omega
    show (if 0 ≤ (n : Int) ∧ (n : Int) < bound then Except.ok (Int.toNat n)
      else .error (DecodeError.invalidValue (Json.int n).kindText name)) = .ok n
    rw [if_pos hin, Int.toNat_natCast]

theorem reads_uint32 : Decoder.uint32.Reads IsUInt32 := fun p v n => by
  show ((natBelow UInt32.size "u32").run p v).map UInt32.ofNat = .ok n ↔ _
  rw [map_eq_ok]
  simp only [run_natBelow_eq_ok]
  constructor
  · rintro ⟨m, ⟨rfl, hm⟩, rfl⟩
    show Json.int m = .int (UInt32.ofNat m).toNat
    rw [UInt32.toNat_ofNat_of_lt' hm]
  · rintro rfl
    exact ⟨n.toNat, ⟨rfl, n.toNat_lt⟩, UInt32.ofNat_toNat⟩

theorem reads_uint64 : Decoder.uint64.Reads IsUInt64 := fun p v n => by
  show ((natBelow UInt64.size "u64").run p v).map UInt64.ofNat = .ok n ↔ _
  rw [map_eq_ok]
  simp only [run_natBelow_eq_ok]
  constructor
  · rintro ⟨m, ⟨rfl, hm⟩, rfl⟩
    show Json.int m = .int (UInt64.ofNat m).toNat
    rw [UInt64.toNat_ofNat_of_lt' hm]
  · rintro rfl
    exact ⟨n.toNat, ⟨rfl, n.toNat_lt⟩, UInt64.ofNat_toNat⟩

theorem reads_option {d : Decoder α} {P : Json → α → Prop} (h : d.Reads P) :
    d.option.Reads (OrNull P) := fun p v o => by
  by_cases hv : v = .null
  · subst hv
    cases o with
    | none => exact ⟨fun _ => rfl, fun _ => rfl⟩
    | some a => exact ⟨nofun, fun h => absurd rfl h.1⟩
  · have hrun : d.option.run p v = (d.run p v).map some := by
      cases v with
      | null => exact absurd rfl hv
      | _ => rfl
    rw [hrun, map_eq_ok]
    cases o with
    | none => exact ⟨nofun, fun h => absurd h hv⟩
    | some a =>
      constructor
      · rintro ⟨b, hb, hba⟩
        obtain rfl := Option.some.inj hba
        exact ⟨hv, (h p v _).mp hb⟩
      · rintro ⟨-, ha⟩
        exact ⟨a, (h p v a).mpr ha, rfl⟩

theorem runItems_eq_ok {d : Decoder α} {P : Json → α → Prop} (h : d.Reads P) {p : Place}
    {vs : List Json} {as : List α} : d.runItems p vs = .ok as ↔ List.Forall₂ P vs as := by
  induction vs generalizing as with
  | nil =>
    rw [List.forall₂_nil_left_iff]
    exact ⟨fun h => (Except.ok.inj h).symm, fun h => congrArg Except.ok h.symm⟩
  | cons v vs ih =>
    rw [runItems, List.forall₂_cons_left_iff, bind_eq_ok]
    constructor
    · rintro ⟨a, ha, hread⟩
      obtain ⟨more, hmore, hread⟩ := bind_eq_ok.mp hread
      exact ⟨a, more, (h p v a).mp ha, ih.mp hmore, (Except.ok.inj hread).symm⟩
    · rintro ⟨a, more, ha, hmore, rfl⟩
      exact ⟨a, (h p v a).mpr ha, bind_eq_ok.mpr ⟨more, ih.mpr hmore, rfl⟩⟩

theorem reads_list {d : Decoder α} {P : Json → α → Prop} (h : d.Reads P) :
    d.list.Reads (Items P) := fun p v as => by
  cases v with
  | arr vs =>
    constructor
    · exact fun hread => ⟨vs, rfl, (runItems_eq_ok h).mp hread⟩
    · rintro ⟨vs', hvs, hall⟩
      obtain rfl := Json.arr.inj hvs
      exact (runItems_eq_ok h).mpr hall
  | _ => exact ⟨nofun, nofun⟩

end Decoder

/-! ### Records -/

/-- A field of an object: each value under its name is such a value, and the first of them counts;
if there is none, the field is what its absence stands for. -/
def Stands (P : Json → α → Prop) (absent : Option α) (name : String) (fs : List (String × Json))
    (a : α) : Prop :=
  (∀ v, (name, v) ∈ fs → ∃ b, P v b) ∧
    match find? name fs with
    | some v => P v a
    | none => absent = some a

/-- A field in an array: the next item, or at the end what its absence stands for. -/
def Next (P : Json → α → Prop) (absent : Option α) (vs : List Json) (a : α) (rest : List Json) :
    Prop :=
  (∃ v, vs = v :: rest ∧ P v a) ∨ (vs = [] ∧ rest = [] ∧ absent = some a)

namespace RecordReader

/-- No value under a name that the reader knows is wrong. -/
def Faultless (r : RecordReader α) (p : Place) (fs : List (String × Json)) : Prop :=
  ∀ c ∈ r.checks, ∀ v, (c.name, v) ∈ fs → c.fault? p v = none

/-- The reader reads just these things of objects, and these of the front of lists of items. -/
structure Reads (r : RecordReader α) (K : List (String × Json) → α → Prop)
    (L : List Json → α → List Json → Prop) : Prop where
  keyed : ∀ p fs a, r.Faultless p fs ∧ r.ofFields p fs = .ok a ↔ K fs a
  listed : ∀ p short n vs a rest, r.ofItems p short n vs = .ok (a, rest) ↔ L vs a rest

theorem reads_pure (a : α) :
    (RecordReader.pure a).Reads (fun _ b => b = a) (fun vs b rest => b = a ∧ rest = vs) where
  keyed p fs b := by
    constructor
    · exact fun h => (Except.ok.inj h.2).symm
    · rintro rfl
      exact ⟨fun c hc => absurd hc List.not_mem_nil, rfl⟩
  listed p short n vs b rest := by
    constructor
    · intro h
      obtain ⟨rfl, rfl⟩ := Prod.mk.inj (Except.ok.inj h)
      exact ⟨rfl, rfl⟩
    · rintro ⟨rfl, rfl⟩
      rfl

section

variable {K : List (String × Json) → (α → β) → Prop} {L : List Json → (α → β) → List Json → Prop}
  {K' : List (String × Json) → α → Prop} {L' : List Json → α → List Json → Prop}

/-- Both readers take their parts, one after the other. -/
theorem Reads.seq {f : RecordReader (α → β)} {x : RecordReader α} (hf : f.Reads K L)
    (hx : x.Reads K' L') :
    (f <*> x).Reads (fun fs b => ∃ g a, K fs g ∧ K' fs a ∧ b = g a)
      (fun vs b rest => ∃ g a mid, L vs g mid ∧ L' mid a rest ∧ b = g a) where
  keyed p fs b := by
    have hchecks : (f <*> x).checks = f.checks ++ x.checks := rfl
    constructor
    · rintro ⟨hfault, hread⟩
      obtain ⟨g, a, hg, ha, rfl⟩ := ofFields_seq hread
      have hfaultf : f.Faultless p fs := fun c hc => hfault c (by simp [hchecks, hc])
      have hfaultx : x.Faultless p fs := fun c hc => hfault c (by simp [hchecks, hc])
      exact ⟨g, a, (hf.keyed p fs g).mp ⟨hfaultf, hg⟩, (hx.keyed p fs a).mp ⟨hfaultx, ha⟩, rfl⟩
    · rintro ⟨g, a, hg, ha, rfl⟩
      obtain ⟨hfaultf, hg⟩ := (hf.keyed p fs g).mpr hg
      obtain ⟨hfaultx, ha⟩ := (hx.keyed p fs a).mpr ha
      refine ⟨fun c hc => ?_, ?_⟩
      · rw [hchecks] at hc
        exact (List.mem_append.mp hc).elim (hfaultf c) (hfaultx c)
      · exact bind_eq_ok.mpr ⟨g, hg, bind_eq_ok.mpr ⟨a, ha, rfl⟩⟩
  listed p short n vs b rest := by
    constructor
    · intro hread
      obtain ⟨g, mid, a, hg, ha, rfl⟩ := ofItems_seq_ok hread
      exact ⟨g, a, mid, (hf.listed p short n vs g mid).mp hg, (hx.listed ..).mp ha, rfl⟩
    · rintro ⟨g, a, mid, hg, ha, rfl⟩
      exact bind_eq_ok.mpr ⟨(g, mid), (hf.listed p short n vs g mid).mpr hg,
        bind_eq_ok.mpr ⟨(a, rest), (hx.listed ..).mpr ha, rfl⟩⟩

end

theorem reads_map {x : RecordReader α} {K : List (String × Json) → α → Prop}
    {L : List Json → α → List Json → Prop} (g : α → β) (hx : x.Reads K L) :
    (g <$> x).Reads (fun fs b => ∃ a, K fs a ∧ b = g a)
      (fun vs b rest => ∃ a, L vs a rest ∧ b = g a) where
  keyed p fs b := by
    refine (((reads_pure g).seq hx).keyed p fs b).trans ?_
    simp
  listed p short n vs b rest := by
    refine (((reads_pure g).seq hx).listed p short n vs b rest).trans ?_
    simp

/-- The one check of a field has no fault to find where each value under its name is such a value. -/
theorem faultless_field {d : Decoder α} {P : Json → α → Prop} (hd : d.Reads P) (name : String)
    (absent short : Option α) {p : Place} {fs : List (String × Json)} :
    (RecordReader.field name d absent short).Faultless p fs ↔
      ∀ v, (name, v) ∈ fs → ∃ b, P v b := by
  have hone : ∀ c ∈ (RecordReader.field name d absent short).checks, c.name = name ∧
      ∀ v, c.fault? p v = none ↔ ∃ b, P v b := by
    intro c hc
    obtain rfl := List.mem_singleton.mp hc
    refine ⟨rfl, fun v => ?_⟩
    dsimp only
    cases hv : d.run p v with
    | ok b => exact ⟨fun _ => ⟨b, (hd p v b).mp hv⟩, fun _ => rfl⟩
    | error e =>
      refine ⟨nofun, ?_⟩
      rintro ⟨b, hb⟩
      cases hv.symm.trans ((hd p v b).mpr hb)
  constructor
  · intro h v hv
    exact ((hone _ (List.mem_singleton_self _)).2 v).mp (h _ (List.mem_singleton_self _) v hv)
  · intro h c hc v hv
    obtain ⟨hname, hsound⟩ := hone c hc
    exact (hsound v).mpr (h v (hname ▸ hv))

/-- A field is read from its values. -/
theorem reads_field {d : Decoder α} {P : Json → α → Prop} (hd : d.Reads P) (name : String)
    (absent short : Option α) :
    (RecordReader.field name d absent short).Reads (Stands P absent name) (Next P short) where
  keyed p fs a := by
    refine and_congr (faultless_field hd name absent short) ?_
    unfold RecordReader.field
    dsimp only
    cases find? name fs with
    | some v => exact hd p v a
    | none =>
      cases absent with
      | some b => simp
      | none => simp
  listed p shortFault n vs a rest := by
    unfold RecordReader.field Next
    dsimp only
    cases vs with
    | nil =>
      cases short with
      | some b => simp [eq_comm, and_comm]
      | none => simp
    | cons v vs =>
      dsimp only
      rw [map_eq_ok]
      constructor
      · rintro ⟨b, hb, hpair⟩
        obtain ⟨rfl, rfl⟩ := Prod.mk.inj hpair
        exact Or.inl ⟨v, rfl, (hd p v b).mp hb⟩
      · rintro (⟨w, hw, ha⟩ | ⟨hnil, -⟩)
        · obtain ⟨rfl, rfl⟩ := List.cons.inj hw
          exact ⟨a, (hd p v a).mpr ha, rfl⟩
        · cases hnil

theorem faultless_cons {r : RecordReader α} {p : Place} {name : String} {v : Json}
    {fs : List (String × Json)} : r.Faultless p ((name, v) :: fs) ↔
      (∀ c ∈ r.checks, c.name = name → c.fault? p v = none) ∧ r.Faultless p fs := by
  constructor
  · exact fun h => ⟨fun c hc hname => h c hc v (by simp [hname]),
      fun c hc w hw => h c hc w (List.mem_cons_of_mem _ hw)⟩
  · rintro ⟨hhead, hrest⟩ c hc w hw
    rcases List.mem_cons.mp hw with heq | hw
    · obtain ⟨hname, rfl⟩ := Prod.mk.inj heq
      exact hhead c hc hname
    · exact hrest c hc w hw

/-- Where names do not repeat, an object has no fault if none of its fields has one. -/
theorem firstFault_eq_none_iff {r : RecordReader α} (hn : (r.checks.map (·.name)).Nodup)
    {p : Place} {fs : List (String × Json)} : r.firstFault p fs = none ↔ r.Faultless p fs := by
  induction fs with
  | nil => exact ⟨fun _ c _ v hv => absurd hv List.not_mem_nil, fun _ => rfl⟩
  | cons f fs ih =>
    obtain ⟨name, v⟩ := f
    rw [firstFault, faultless_cons]
    cases hfind : r.checks.find? (·.name = name) with
    | none =>
      have hnone := List.find?_eq_none.mp hfind
      rw [ih]
      exact ⟨fun h => ⟨fun c hc hname => absurd hname (by simpa using hnone c hc), h⟩, And.right⟩
    | some c =>
      have hc : c ∈ r.checks := List.mem_of_find?_eq_some hfind
      have hname : c.name = name := by simpa using List.find?_some hfind
      have honly : ∀ c' ∈ r.checks, c'.name = name → c' = c := fun c' hc' hname' =>
        List.inj_on_of_nodup_map hn hc' hc (hname'.trans hname.symm)
      dsimp only
      cases hfault : c.fault? p v with
      | none =>
        rw [ih]
        refine ⟨fun h => ⟨fun c' hc' hname' => ?_, h⟩, And.right⟩
        rw [honly c' hc' hname', hfault]
      | some e =>
        refine ⟨nofun, fun h => ?_⟩
        have hnone := h.1 c hc hname
        rw [hfault] at hnone
        cases hnone

/-- **A record is read from an object or from an array, and from nothing else.** -/
theorem decode_eq_ok_iff {r : RecordReader α} {K : List (String × Json) → α → Prop}
    {L : List Json → α → List Json → Prop} (h : r.Reads K L)
    (hn : (r.checks.map (·.name)).Nodup) (what : String) (p : Place) (v : Json) (a : α) :
    (r.decoder what).run p v = .ok a ↔
      (∃ fs, v = .obj fs ∧ K fs a) ∨ ∃ vs, v = .arr vs ∧ L vs a [] := by
  cases v with
  | obj fs =>
    have hrun : (r.decoder what).run p (.obj fs) = r.readFields p fs := rfl
    have hread : r.readFields p fs = .ok a ↔ K fs a := by
      rw [← h.keyed p fs a, ← firstFault_eq_none_iff hn, readFields]
      cases r.firstFault p fs with
      | none => simp
      | some e => simp
    rw [hrun, hread]
    simp
  | arr vs =>
    have hrun : (r.decoder what).run p (.arr vs) = r.readItems ("struct " ++ what) p vs := rfl
    have hread : r.readItems ("struct " ++ what) p vs = .ok a ↔ L vs a [] := by
      unfold readItems
      dsimp only
      rw [← h.listed p _ 0 vs a [], bind_eq_ok]
      constructor
      · rintro ⟨⟨b, rest⟩, hb, hread⟩
        cases rest with
        | nil =>
          obtain rfl := Except.ok.inj hread
          exact hb
        | cons w ws =>
          cases p with
          | untagged => cases hread
          | tagged => cases hread
      · exact fun hb => ⟨(a, []), hb, rfl⟩
    rw [hrun, hread]
    simp
  | _ => exact ⟨nofun, nofun⟩

end RecordReader

end HostedNode.Json

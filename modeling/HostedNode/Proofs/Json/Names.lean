import HostedNode.Proofs.Json.Reads

/-! # The names of the fields of a text

`topNames` lists the names of the fields of the object that a text is, in the order of the text and
with repetitions, and only passes over the values. For a text that spells an object these are the
names of its fields (`topNames_of_spells`). A reader of a record takes no text in which a name that
the record knows repeats (`count_topNames_of_readChars`). -/

namespace HostedNode.Json

/-- The names of the fields of an object, from the first one that is left up to a fault if there is
one. -/
def fieldNames : Nat → List Char → List String
  | 0, _ => []
  | fuel + 1, cs =>
    match expect '"' cs >>= readString with
    | .error _ => []
    | .ok (name, cs) =>
      name ::
        match expect ':' cs >>= skipValue [] fuel with
        | .error _ => []
        | .ok rest =>
          match skipSpace rest with
          | ',' :: rest => fieldNames fuel rest
          | _ => []

/-- The names of the fields of the object that the text is. -/
def topNames (text : String) : List String :=
  match skipSpace text.toList with
  | '\x7b' :: cs => fieldNames (2 * text.toList.length + 1) (skipSpace cs)
  | _ => []

section

variable {n depth : Nat} {text value after rest : List Char} {name : String}

/-- The names from a field on whose value can be passed over. -/
theorem fieldNames_succ (hn : SpellsName text name value)
    (hv : skipValue [] n value = .ok after) :
    fieldNames (n + 1) text =
      name :: match skipSpace after with
        | ',' :: rest => fieldNames n rest
        | _ => [] := by
  obtain ⟨cs, more, hq, hs, hc⟩ := hn
  rw [fieldNames, expect_of_skipSpace hq]
  simp only [bind, Except.bind, hs, expect_of_skipSpace hc, hv]

theorem fieldNames_more (hn : SpellsName text name value)
    (hv : skipValue [] n value = .ok after) (hr : skipSpace after = ',' :: rest) :
    fieldNames (n + 1) text = name :: fieldNames n rest := by
  rw [fieldNames_succ hn hv]
  simp only [hr]

theorem fieldNames_last (hn : SpellsName text name value)
    (hv : skipValue [] n value = .ok after) (hr : skipSpace after = '\x7d' :: rest) :
    fieldNames (n + 1) text = [name] := by
  simp [fieldNames_succ hn hv, hr]

end

theorem fieldNames_brace (n : Nat) (cs : List Char) : fieldNames (n + 1) ('\x7d' :: cs) = [] := rfl

/-! ### Texts that spell an object -/

theorem fieldNames_of_spells {depth : Nat} {text rest : List Char} {fs : List (String × Json)} :
    SpellsFields depth text fs rest → ∀ {fuel : Nat}, text.length ≤ fuel →
      fieldNames fuel text = fs.map (·.1)
  | .last hn hv hr, fuel, hf => by
    have hname := length_lt_of_spellsName hn
    obtain ⟨n, rfl⟩ : ∃ n, fuel = n + 1 := ⟨fuel - 1, by omega⟩
    exact fieldNames_last hn (skipValue_of_spells hv (by omega)) hr
  | .more hn hv hr hfs, fuel, hf => by
    have hname := length_lt_of_spellsName hn
    have hval := length_lt_of_spells hv
    have hlt := length_lt_of_skipSpace hr
    obtain ⟨n, rfl⟩ : ∃ n, fuel = n + 1 := ⟨fuel - 1, by omega⟩
    rw [fieldNames_more hn (skipValue_of_spells hv (by omega)) hr,
      fieldNames_of_spells hfs (by omega), List.map_cons]

theorem topNames_of_spells {text : String} {fs : List (String × Json)}
    (h : SpellsText text (.obj fs)) : topNames text = fs.map (·.1) := by
  obtain ⟨rest, hv, -⟩ := h
  unfold topNames
  cases hv with
  | negative _ hn | number _ _ hn =>
    -- no number is an object
    obtain ⟨m, -, hm⟩ := readNumber_eq_ok hn
    rcases value?_cases hm with ⟨_, h⟩ | ⟨_, h⟩ <;> cases h
  | emptyObject ht hr =>
    simp only [ht, hr]
    rfl
  | object ht hfs =>
    rename_i cs
    have hlt := length_lt_of_skipSpace ht
    have hle := length_skipSpace_le cs
    simp only [ht]
    exact fieldNames_of_spells hfs (by omega)

/-- A name that repeats, but not inside of the values. -/
example : topNames " \x7b\"id\":[1,\x7b\"id\":2\x7d],\"x\":\"id\",\"id\":0\x7d" =
    ["id", "x", "id"] := by
  decide +kernel

/-! ### Readers of records -/

/-- The fields that a reader has seen before the names that are left, together with these: of those
that the record knows none repeats. -/
structure Unrepeated (s : Schema) (acc : List (String × Json)) (names : List String) : Prop where
  count : ∀ k t, s.ofField? k = some t → names.count k ≤ 1
  fresh : ∀ k t, s.ofField? k = some t → k ∈ names → find? k acc = none

/-- One more field in front of names that do not repeat. -/
theorem Unrepeated.cons {s : Schema} {n depth : Nat} {acc acc' : List (String × Json)}
    {name : String} {value after : List Char} {names : List String} (hs : s.isRecord = true)
    (hf : ReadsField n s depth acc name value after acc') (h : Unrepeated s acc' names) :
    Unrepeated s acc (name :: names) := by
  cases hf with
  | known ht hfresh hv =>
    rename_i t v
    have hnotin : name ∉ names := fun hmem => by
      have hnone := h.fresh name t ht hmem
      rw [find?_insert_self] at hnone
      cases hnone
    refine ⟨fun k u hk => ?_, fun k u hk hmem => ?_⟩
    · by_cases hname : k = name
      · subst hname
        have hone : (k :: names).count k = 1 := by
          rw [List.count_cons_self, List.count_eq_zero_of_not_mem hnotin]
        exact Nat.le_of_eq hone
      · rw [List.count_cons_of_ne (Ne.symm hname)]
        exact h.count k u hk
    · by_cases hname : k = name
      · subst hname
        exact hfresh hs
      · have hmore := h.fresh k u hk ((List.mem_cons.mp hmem).resolve_left hname)
        rwa [find?_insert_of_ne hname] at hmore
  | unknown hnone hskip =>
    have hne : ∀ k u, s.ofField? k = some u → k ≠ name := by
      rintro k u hk rfl
      rw [hnone] at hk
      cases hk
    refine ⟨fun k u hk => ?_, fun k u hk hmem => ?_⟩
    · rw [List.count_cons_of_ne (hne k u hk).symm]
      exact h.count k u hk
    · exact h.fresh k u hk ((List.mem_cons.mp hmem).resolve_left (hne k u hk))

/-- **What a reader of a record takes has no known name twice.** The values of the fields that it
knows are read as a whole. -/
theorem unrepeated_of_readFields {s : Schema} (hs : s.isRecord = true)
    (hwhole : ∀ k t, s.ofField? k = some t → t = .whole) : ∀ (fuel : Nat) {depth : Nat}
    {acc : List (String × Json)} {text rest : List Char} {v : Json}, text.length ≤ fuel →
    readFields fuel s depth acc text = .ok (v, rest) → Unrepeated s acc (fieldNames fuel text)
  | 0, _, _, _, _, _, _, h => by cases h
  | fuel + 1, depth, acc, text, rest, v, hlen, h => by
    obtain ⟨name, value, after, acc', hname, hfield, h⟩ := readFields_eq_ok h
    have hlt := length_lt_of_spellsName hname
    have hskip : skipValue [] fuel value = .ok after := by
      cases hfield with
      | unknown _ hskip => exact hskip
      | known ht _ hv =>
        obtain rfl := hwhole _ _ ht
        obtain ⟨t, ht, -⟩ := spells_of_readValue fuel hv
        exact skipValue_of_spells ht (by omega)
    have hafter := length_le_of_skipValue fuel hskip
    rcases readMore_eq_ok h with ⟨next, hr, h⟩ | ⟨hr, -⟩
    · have hnext := length_lt_of_skipSpace hr
      rw [fieldNames_more hname hskip hr]
      exact .cons hs hfield (unrepeated_of_readFields hs hwhole fuel (by omega) h)
    · rw [fieldNames_last hname hskip hr]
      exact .cons hs hfield ⟨by simp, by simp⟩

theorem count_topNames_of_readChars {s : Schema} (hs : s.isRecord = true)
    (hwhole : ∀ k t, s.ofField? k = some t → t = .whole) {text : String} {v : Json}
    (h : readChars s text.toList = .ok v) {k : String} {t : Schema} (hk : s.ofField? k = some t) :
    (topNames text).count k ≤ 1 := by
  obtain ⟨⟨w, rest⟩, hw, -⟩ := bind_eq_ok.mp h
  unfold topNames
  split
  · rename_i cs ht
    have hlt := length_lt_of_skipSpace ht
    have hle := length_skipSpace_le cs
    rw [readValue_of_skipSpace ht, maxDepth, readValue_brace] at hw
    split at hw
    · rename_i more hr
      rw [hr, fieldNames_brace]
      simp
    · have hnames := unrepeated_of_readFields hs hwhole _ (by omega) hw
      exact hnames.count k t hk
  · simp

end HostedNode.Json

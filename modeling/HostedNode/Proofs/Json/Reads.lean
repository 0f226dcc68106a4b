import HostedNode.Proofs.Json.Skip

/-! # What readers make of a text

A reader with a schema makes of a text the value that the text spells, as the schema shows it
(`view`): unknown fields are left out, the others are sorted by name. It takes all texts of values
in which no known field of a record repeats (`Admits`, `readValue_of_spells`). A reader that looks
at everything takes no other texts than those that spell a value (`spells_of_readValue`). -/

namespace HostedNode.Json

/-! ### Views -/

mutual

/-- The value as a reader with this schema gives it: the fields of objects that the schema knows,
sorted by name. -/
def view : Schema → Json → Json
  | s, .arr vs => .arr (viewItems s vs)
  | s, .obj fs => .obj (viewFields s [] fs)
  | _, v => v

/-- The items of an array as a reader gives them. -/
def viewItems : Schema → List Json → List Json
  | _, [] => []
  | s, v :: vs => view s.next.1 v :: viewItems s.next.2 vs

/-- The fields of an object as a reader gives them, put among the fields `acc`. -/
def viewFields : Schema → List (String × Json) → List (String × Json) → List (String × Json)
  | _, acc, [] => acc
  | s, acc, (k, v) :: fs =>
    match s.ofField? k with
    | some t => viewFields s (insert k (view t v) acc) fs
    | none => viewFields s acc fs

end

mutual

/-- Whether a reader with this schema takes the text of the value: of the fields that a record
knows, none repeats. -/
def Admits : Schema → Json → Prop
  | s, .arr vs => AdmitsItems s vs
  | s, .obj fs => AdmitsFields s fs
  | _, _ => True

/-- Whether the items of an array are taken. -/
def AdmitsItems : Schema → List Json → Prop
  | _, [] => True
  | s, v :: vs => Admits s.next.1 v ∧ AdmitsItems s.next.2 vs

/-- Whether the fields of an object are taken. -/
def AdmitsFields : Schema → List (String × Json) → Prop
  | _, [] => True
  | s, (k, v) :: fs =>
    (∀ t, s.ofField? k = some t → (s.isRecord = true → k ∉ fs.map (·.1)) ∧ Admits t v) ∧
      AdmitsFields s fs

end

mutual

/-- A reader that looks at everything takes all values. -/
theorem admits_whole : ∀ v : Json, Admits .whole v
  | .arr vs => admitsItems_whole vs
  | .obj fs => admitsFields_whole fs
  | .null | .bool _ | .int _ | .double _ | .str _ => trivial

theorem admitsItems_whole : ∀ vs : List Json, AdmitsItems .whole vs
  | [] => trivial
  | v :: vs => ⟨admits_whole v, admitsItems_whole vs⟩

theorem admitsFields_whole : ∀ fs : List (String × Json), AdmitsFields .whole fs
  | [] => trivial
  | (_, v) :: fs => by
    refine ⟨fun t ht => ?_, admitsFields_whole fs⟩
    obtain rfl : Schema.whole = t := Option.some.inj ht
    exact ⟨fun h => Bool.noConfusion h, admits_whole v⟩

end

/-- A field that is looked at is one of the schema. -/
theorem mem_of_ofField? {fs : List (String × Schema)} {name : String} {t : Schema}
    (h : (Schema.fields fs).ofField? name = some t) : (name, t) ∈ fs := by
  obtain ⟨before, after, rfl, -⟩ := List.lookup_eq_some_iff.mp (show fs.lookup name = some t from h)
  simp

/-- A numeral stands for a number. -/
theorem value?_cases {n : Numeral} {v : Json} (h : n.value? = some v) :
    (∃ i, v = .int i) ∨ ∃ d, v = .double d := by
  have hdouble : n.double?.map .double = some v → ∃ d, v = .double d := by
    intro hd
    obtain ⟨d, -, rfl⟩ := Option.map_eq_some_iff.mp hd
    exact ⟨d, rfl⟩
  unfold Numeral.value? at h
  dsimp only at h
  split at h
  · split at h
    · exact Or.inl ⟨_, (Option.some.inj h).symm⟩
    · split at h
      · exact Or.inl ⟨_, (Option.some.inj h).symm⟩
      · exact Or.inr (hdouble h)
  · exact Or.inr (hdouble h)

/-- A number is shown as it is. -/
theorem view_of_value? {n : Numeral} {v : Json} (h : n.value? = some v) (s : Schema) :
    view s v = v := by
  rcases value?_cases h with ⟨i, rfl⟩ | ⟨d, rfl⟩
  · rfl
  · rfl

/-! ### One step of a reader -/

section

variable {s : Schema} {depth n : Nat} {text cs after rest : List Char}

/-- Blanks before a value are of no account. -/
theorem readValue_of_skipSpace (h : skipSpace text = cs) :
    readValue (n + 1) s depth text = readValue (n + 1) s depth cs := by
  have hcs : skipSpace cs = cs := by rw [← h, skipSpace_skipSpace]
  rw [readValue, readValue, h, hcs]

theorem readValue_digit {c : Char} (hc : c.isDigit = true) :
    readValue (n + 1) s depth (c :: cs) = readNumber false (c :: cs) := by
  rw [readValue, skipSpace_cons (isSpace_of_isDigit hc)]
  split
  · contradiction
  · rename_i heq
    exact absurd (List.cons.inj heq).1 (ne_of_isDigit hc (by decide))
  · rename_i heq
    exact absurd (List.cons.inj heq).1 (ne_of_isDigit hc (by decide))
  · rename_i heq
    exact absurd (List.cons.inj heq).1 (ne_of_isDigit hc (by decide))
  · rename_i heq
    exact absurd (List.cons.inj heq).1 (ne_of_isDigit hc (by decide))
  · rename_i heq
    obtain ⟨rfl, rfl⟩ := List.cons.inj heq
    rw [if_pos hc]

theorem readValue_bracket :
    readValue (n + 1) s (depth + 1) ('[' :: cs) =
      match skipSpace cs with
      | ']' :: rest => .ok (.arr [], rest)
      | rest => readItems n s depth [] rest := rfl

theorem readValue_brace :
    readValue (n + 1) s (depth + 1) ('\x7b' :: cs) =
      match skipSpace cs with
      | '\x7d' :: rest => .ok (.obj [], rest)
      | rest => readFields n s depth [] rest := rfl

theorem readItems_of_comma {acc : List Json} {v : Json}
    (h : readValue n s.next.1 depth text = .ok (v, after))
    (hafter : skipSpace after = ',' :: rest) :
    readItems (n + 1) s depth acc text = readItems n s.next.2 depth (v :: acc) rest := by
  rw [readItems, h]
  simp only [bind, Except.bind, hafter]

theorem readItems_of_bracket {acc : List Json} {v : Json}
    (h : readValue n s.next.1 depth text = .ok (v, after))
    (hafter : skipSpace after = ']' :: rest) :
    readItems (n + 1) s depth acc text = .ok (.arr (v :: acc).reverse, rest) := by
  rw [readItems, h]
  simp only [bind, Except.bind, hafter]

/-- How reading goes on behind a field. -/
def readMore (n : Nat) (s : Schema) (depth : Nat) (acc : List (String × Json)) :
    List Char → Read (Json × List Char)
  | ',' :: rest => readFields n s depth acc rest
  | '\x7d' :: rest => .ok (.obj acc, rest)
  | rest => .error rest

/-- The fields `acc` and one more that was read, if it is looked at. -/
def keepField (s : Schema) (name : String) (v : Json) (acc : List (String × Json)) :
    List (String × Json) :=
  match s.ofField? name with
  | some t => insert name (view t v) acc
  | none => acc

theorem viewFields_cons (s : Schema) (acc : List (String × Json)) (name : String) (v : Json)
    (fs : List (String × Json)) :
    viewFields s acc ((name, v) :: fs) = viewFields s (keepField s name v acc) fs := by
  rw [viewFields, keepField]
  cases s.ofField? name with
  | none => rfl
  | some t => rfl

/-- A field is read up to what follows its value. -/
theorem readFields_of_spellsName {name : String} {v : Json} {acc : List (String × Json)}
    (hn : SpellsName text name cs)
    (hknown : ∀ t, s.ofField? name = some t → (s.isRecord = true → find? name acc = none) ∧
      readValue n t depth cs = .ok (view t v, after))
    (hskip : skipValue [] n cs = .ok after) :
    readFields (n + 1) s depth acc text =
      readMore n s depth (keepField s name v acc) (skipSpace after) := by
  obtain ⟨qs, more, hq, hs, hc⟩ := hn
  rw [readFields, expect_of_skipSpace hq]
  simp only [bind, Except.bind, hs, expect_of_skipSpace hc, keepField]
  cases ht : s.ofField? name with
  | none =>
    simp only [hskip, pure, Except.pure]
    rfl
  | some t =>
    obtain ⟨hfresh, hval⟩ := hknown t ht
    have hrepeat : ¬ (s.isRecord && (find? name acc).isSome) = true := by
      intro h
      simp only [Bool.and_eq_true] at h
      simp [hfresh h.1] at h
    simp only [if_neg hrepeat, hval, pure, Except.pure]
    rfl

end

/-! ### Texts that spell a value are read -/

theorem exists_fuel {fuel a b : Nat} (h : a ≤ fuel + b) (hlt : b < a) : ∃ n, fuel = n + 1 :=
  ⟨fuel - 1, by omega⟩

mutual

/-- **A reader makes of a text what it shows of the value that the text spells.** -/
theorem readValue_of_spells {depth : Nat} {text rest : List Char} {v : Json}
    (h : Spells depth text v rest) {s : Schema} {fuel : Nat} (ha : Admits s v)
    (hf : text.length ≤ fuel + rest.length) :
    readValue fuel s depth text = .ok (view s v, rest) := by
  obtain ⟨n, rfl⟩ := exists_fuel hf (length_lt_of_spells h)
  cases h with
  | null ht | true ht | false ht =>
    rw [readValue_of_skipSpace ht]
    rfl
  | string ht hs =>
    rename_i cs t
    rw [readValue_of_skipSpace ht]
    show (readString cs).map (fun (t, rest) => (Json.str t, rest)) = _
    rw [hs]
    rfl
  | negative ht hn =>
    obtain ⟨m, -, hm⟩ := readNumber_eq_ok hn
    rw [readValue_of_skipSpace ht, view_of_value? hm]
    exact hn
  | number ht hc hn =>
    obtain ⟨m, -, hm⟩ := readNumber_eq_ok hn
    rw [readValue_of_skipSpace ht, view_of_value? hm, readValue_digit hc]
    exact hn
  | emptyArray ht hr =>
    rw [readValue_of_skipSpace ht, readValue_bracket]
    simp only [hr, view, viewItems]
  | array ht hs =>
    rename_i depth cs vs
    have hlt := length_lt_of_skipSpace ht
    have hle := length_skipSpace_le cs
    have hitems : readItems n s depth [] (skipSpace cs) = .ok (.arr (viewItems s vs), rest) :=
      readItems_of_spells hs ha (by omega)
    rw [readValue_of_skipSpace ht, readValue_bracket]
    split
    · rename_i more heq
      exact absurd ((skipSpace_skipSpace cs).trans heq) (hs.skipSpace_ne more)
    · exact hitems
  | emptyObject ht hr =>
    rw [readValue_of_skipSpace ht, readValue_brace]
    simp only [hr, view, viewFields]
  | object ht hs =>
    rename_i depth cs fs
    have hlt := length_lt_of_skipSpace ht
    have hle := length_skipSpace_le cs
    have hfields : readFields n s depth [] (skipSpace cs) = .ok (.obj (viewFields s [] fs), rest) :=
      readFields_of_spells hs ha (fun _ _ _ => rfl) (by omega)
    rw [readValue_of_skipSpace ht, readValue_brace]
    split
    · rename_i more heq
      exact absurd ((skipSpace_skipSpace cs).trans heq) (hs.skipSpace_ne more)
    · exact hfields

theorem readItems_of_spells {depth : Nat} {text rest : List Char} {vs : List Json}
    (h : SpellsItems depth text vs rest) {s : Schema} {fuel : Nat} {acc : List Json}
    (ha : AdmitsItems s vs) (hf : text.length ≤ fuel + rest.length) :
    readItems fuel s depth acc text = .ok (.arr (acc.reverse ++ viewItems s vs), rest) := by
  cases h with
  | last hv hr =>
    rename_i v after
    have hlt := length_lt_of_skipSpace hr
    have hval := length_lt_of_spells hv
    obtain ⟨n, rfl⟩ := exists_fuel hf (by omega)
    have hread : readValue n s.next.1 depth text = .ok (view s.next.1 v, after) :=
      readValue_of_spells hv ha.1 (by omega)
    rw [readItems_of_bracket hread hr, List.reverse_cons]
    rfl
  | more hv hr hvs =>
    rename_i v after vs next
    have hlt := length_lt_of_skipSpace hr
    have hval := length_lt_of_spells hv
    have hmore := length_lt_of_spellsItems hvs
    obtain ⟨n, rfl⟩ := exists_fuel hf (by omega)
    have hread : readValue n s.next.1 depth text = .ok (view s.next.1 v, after) :=
      readValue_of_spells hv ha.1 (by omega)
    rw [readItems_of_comma hread hr, readItems_of_spells hvs ha.2 (by omega)]
    simp [viewItems]

theorem readFields_of_spells {depth : Nat} {text rest : List Char} {fs : List (String × Json)}
    (h : SpellsFields depth text fs rest) {s : Schema} {fuel : Nat} {acc : List (String × Json)}
    (ha : AdmitsFields s fs)
    (hacc : s.isRecord = true → ∀ k ∈ fs.map (·.1), find? k acc = none)
    (hf : text.length ≤ fuel + rest.length) :
    readFields fuel s depth acc text = .ok (.obj (viewFields s acc fs), rest) := by
  cases h with
  | last hn hv hr =>
    have hlt := length_lt_of_skipSpace hr
    have hval := length_lt_of_spells hv
    have hname := length_lt_of_spellsName hn
    obtain ⟨n, rfl⟩ := exists_fuel hf (by omega)
    rw [readFields_of_spellsName hn (fun t ht => ⟨fun hs => hacc hs _ (by simp),
      readValue_of_spells hv (ha.1 t ht).2 (by omega)⟩) (skipValue_of_spells hv (by omega)), hr,
      viewFields_cons]
    rfl
  | more hn hv hr hfs =>
    rename_i name value v after fs next
    have hlt := length_lt_of_skipSpace hr
    have hval := length_lt_of_spells hv
    have hname := length_lt_of_spellsName hn
    have hmore := length_lt_of_spellsFields hfs
    obtain ⟨n, rfl⟩ := exists_fuel hf (by omega)
    rw [readFields_of_spellsName hn (fun t ht => ⟨fun hs => hacc hs _ (by simp),
      readValue_of_spells hv (ha.1 t ht).2 (by omega)⟩) (skipValue_of_spells hv (by omega)), hr,
      viewFields_cons]
    refine readFields_of_spells hfs ha.2 (fun hs k hk => ?_) (by omega)
    -- the field just read is not among those that are left
    unfold keepField
    split
    · rename_i t ht
      have hne : k ≠ name := fun heq => (ha.1 t ht).1 hs (heq ▸ hk)
      rw [find?_insert_of_ne hne]
      exact hacc hs k (by simp [hk])
    · exact hacc hs k (by simp [hk])

end

/-! ### What is read was spelled -/

theorem readWord_eq_ok {word cs rest : List Char} {v w : Json}
    (h : readWord word v cs = .ok (w, rest)) : cs = word ++ rest ∧ w = v := by
  unfold readWord at h
  split at h
  · rename_i hp
    obtain ⟨rfl, rfl⟩ := Prod.mk.inj (Except.ok.inj h)
    exact ⟨(List.prefix_iff_eq_append.mp (List.isPrefixOf_iff_prefix.mp hp)).symm, rfl⟩
  · cases h

/-- What a reader keeps of a field: its value, if the field is looked at. Then no field of the same
name must have come before it in a record. -/
inductive ReadsField (n : Nat) (s : Schema) (depth : Nat) (acc : List (String × Json))
    (name : String) (value after : List Char) : List (String × Json) → Prop where
  | known {t v} : s.ofField? name = some t → (s.isRecord = true → find? name acc = none) →
    readValue n t depth value = .ok (v, after) →
    ReadsField n s depth acc name value after (insert name v acc)
  | unknown : s.ofField? name = none → skipValue [] n value = .ok after →
    ReadsField n s depth acc name value after acc

/-- **What a reader of fields does in one step.** -/
theorem readFields_eq_ok {n : Nat} {s : Schema} {depth : Nat} {acc : List (String × Json)}
    {text : List Char} {r : Json × List Char} (h : readFields (n + 1) s depth acc text = .ok r) :
    ∃ name value after acc', SpellsName text name value ∧
      ReadsField n s depth acc name value after acc' ∧
      readMore n s depth acc' (skipSpace after) = .ok r := by
  obtain ⟨cs, hq, h⟩ := bind_eq_ok.mp h
  obtain ⟨⟨name, more⟩, hs, h⟩ := bind_eq_ok.mp h
  obtain ⟨value, hc, h⟩ := bind_eq_ok.mp h
  have hname : SpellsName text name value :=
    ⟨cs, more, skipSpace_of_expect hq, hs, skipSpace_of_expect hc⟩
  dsimp only at h
  split at h
  · rename_i t ht
    split at h
    · cases h
    · rename_i hrepeat
      obtain ⟨⟨v, after⟩, hv, h⟩ := bind_eq_ok.mp h
      refine ⟨name, value, after, _, hname, .known ht (fun hs => ?_) hv, h⟩
      rw [hs, Bool.true_and, Bool.not_eq_true, Option.isSome_eq_false_iff] at hrepeat
      exact Option.isNone_iff_eq_none.mp hrepeat
  · rename_i ht
    obtain ⟨after, hv, h⟩ := bind_eq_ok.mp h
    exact ⟨name, value, after, _, hname, .unknown ht hv, h⟩

theorem readMore_eq_ok {n : Nat} {s : Schema} {depth : Nat} {acc : List (String × Json)}
    {cs rest : List Char} {v : Json} (h : readMore n s depth acc cs = .ok (v, rest)) :
    (∃ next, cs = ',' :: next ∧ readFields n s depth acc next = .ok (v, rest)) ∨
      cs = '\x7d' :: rest ∧ v = .obj acc := by
  unfold readMore at h
  split at h
  · exact Or.inl ⟨_, rfl, h⟩
  · obtain ⟨rfl, rfl⟩ := Prod.mk.inj (Except.ok.inj h)
    exact Or.inr ⟨rfl, rfl⟩
  · cases h

theorem keepField_whole (name : String) (v : Json) (acc : List (String × Json)) :
    keepField .whole name v acc = insert name (view .whole v) acc := rfl

mutual

/-- **A reader that looks at everything takes only texts that spell a value.** -/
theorem spells_of_readValue : ∀ (fuel : Nat) {depth : Nat} {text rest : List Char} {v : Json},
    readValue fuel .whole depth text = .ok (v, rest) →
    ∃ t, Spells depth text t rest ∧ v = view .whole t
  | 0, _, _, _, _, h => by cases h
  | fuel + 1, depth, text, rest, v, h => by
    rw [readValue] at h
    split at h
    · cases h
    · -- a string
      rename_i cs ht
      obtain ⟨⟨t, r⟩, hr, heq⟩ := map_eq_ok.mp h
      obtain ⟨rfl, rfl⟩ := Prod.mk.inj heq
      exact ⟨_, .string ht hr, rfl⟩
    · -- a number with a sign
      rename_i cs ht
      obtain ⟨m, -, hm⟩ := readNumber_eq_ok h
      exact ⟨v, .negative ht h, (view_of_value? hm _).symm⟩
    · -- an array
      rename_i cs ht
      cases depth with
      | zero => cases h
      | succ depth =>
        dsimp only at h
        split at h
        · rename_i r hr
          obtain ⟨rfl, rfl⟩ := Prod.mk.inj (Except.ok.inj h)
          exact ⟨_, .emptyArray ht hr, rfl⟩
        · obtain ⟨ts, hs, rfl⟩ := spells_of_readItems fuel h
          exact ⟨_, .array ht hs, rfl⟩
    · -- an object
      rename_i cs ht
      cases depth with
      | zero => cases h
      | succ depth =>
        dsimp only at h
        split at h
        · rename_i r hr
          obtain ⟨rfl, rfl⟩ := Prod.mk.inj (Except.ok.inj h)
          exact ⟨_, .emptyObject ht hr, rfl⟩
        · obtain ⟨fs, hs, rfl⟩ := spells_of_readFields fuel h
          exact ⟨_, .object ht hs, rfl⟩
    · -- a number or a word
      rename_i c cs _ _ _ _ ht
      split at h
      · rename_i hc
        obtain ⟨m, -, hm⟩ := readNumber_eq_ok h
        exact ⟨v, .number ht hc h, (view_of_value? hm _).symm⟩
      · split at h
        · obtain ⟨hw, rfl⟩ := readWord_eq_ok h
          exact ⟨_, .null (ht.trans hw), rfl⟩
        · split at h
          · obtain ⟨hw, rfl⟩ := readWord_eq_ok h
            exact ⟨_, .true (ht.trans hw), rfl⟩
          · split at h
            · obtain ⟨hw, rfl⟩ := readWord_eq_ok h
              exact ⟨_, .false (ht.trans hw), rfl⟩
            · cases h

theorem spells_of_readItems : ∀ (fuel : Nat) {depth : Nat} {acc : List Json}
    {text rest : List Char} {v : Json}, readItems fuel .whole depth acc text = .ok (v, rest) →
    ∃ ts, SpellsItems depth text ts rest ∧ v = .arr (acc.reverse ++ viewItems .whole ts)
  | 0, _, _, _, _, _, h => by cases h
  | fuel + 1, depth, acc, text, rest, v, h => by
    obtain ⟨⟨w, after⟩, hw, h⟩ := bind_eq_ok.mp h
    obtain ⟨t, ht, rfl⟩ := spells_of_readValue fuel hw
    dsimp only at h
    split at h
    · rename_i next hr
      obtain ⟨ts, hs, rfl⟩ := spells_of_readItems fuel h
      refine ⟨t :: ts, .more ht hr hs, ?_⟩
      simp [viewItems, Schema.next]
    · rename_i next hr
      obtain ⟨rfl, rfl⟩ := Prod.mk.inj (Except.ok.inj h)
      refine ⟨[t], .last ht hr, ?_⟩
      simp [viewItems, Schema.next]
    · cases h

theorem spells_of_readFields : ∀ (fuel : Nat) {depth : Nat} {acc : List (String × Json)}
    {text rest : List Char} {v : Json}, readFields fuel .whole depth acc text = .ok (v, rest) →
    ∃ fs, SpellsFields depth text fs rest ∧ v = .obj (viewFields .whole acc fs)
  | 0, _, _, _, _, _, h => by cases h
  | fuel + 1, depth, acc, text, rest, v, h => by
    obtain ⟨name, value, after, acc', hname, hfield, h⟩ := readFields_eq_ok h
    cases hfield with
    | unknown hnone _ => cases hnone
    | known hsome _ hw =>
      obtain rfl := Option.some.inj hsome
      obtain ⟨t, ht, rfl⟩ := spells_of_readValue fuel hw
      rcases readMore_eq_ok h with ⟨next, hr, h⟩ | ⟨hr, rfl⟩
      · obtain ⟨fs, hfs, rfl⟩ := spells_of_readFields fuel h
        refine ⟨(name, t) :: fs, .more hname ht hr hfs, ?_⟩
        rw [viewFields_cons, keepField_whole]
      · refine ⟨[(name, t)], .last hname ht hr, ?_⟩
        rw [viewFields_cons, keepField_whole]
        rfl

end

/-! ### Whole texts -/

theorem readChars_of_spells {s : Schema} {text : String} {v : Json} (h : SpellsText text v)
    (ha : Admits s v) : readChars s text.toList = .ok (view s v) := by
  obtain ⟨rest, hv, hrest⟩ := h
  have hread : readValue (2 * text.toList.length + 2) s maxDepth text.toList =
      .ok (view s v, rest) := readValue_of_spells hv ha (by omega)
  simp only [readChars, hread, bind, Except.bind, hrest]
  rfl

theorem spellsText_of_readChars {text : String} {v : Json}
    (h : readChars .whole text.toList = .ok v) : ∃ t, SpellsText text t ∧ v = view .whole t := by
  obtain ⟨⟨w, rest⟩, hw, h⟩ := bind_eq_ok.mp h
  obtain ⟨t, ht, rfl⟩ := spells_of_readValue _ hw
  dsimp only at h
  split at h
  · rename_i hr
    exact ⟨t, ⟨rest, ht, hr⟩, (Except.ok.inj h).symm⟩
  · cases h

/-- The outcome of a decoder on a text, from its outcome on the value that the text spells. -/
theorem readAs_of_spells {α : Type} {decoder : Decoder α} {text : String} {v : Json}
    (h : SpellsText text v) (ha : Admits decoder.schema v) :
    readAs decoder text =
      (decode decoder (view decoder.schema v)).mapError (.unfit · (.after text.toList)) := by
  simp only [readAs, readCharsAs, readChars_of_spells h ha]
  cases decode decoder (view decoder.schema v) with
  | ok a => rfl
  | error e => rfl

end HostedNode.Json

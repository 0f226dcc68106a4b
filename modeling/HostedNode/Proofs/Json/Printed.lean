import HostedNode.Proofs.Json.Reads
import HostedNode.Proofs.Text.Utf8

/-! # Printed values are spelled

The compact and the pretty text of a value differ in the blanks between its parts only (`Layout`).
Both spell the value, if its integers are in range, it holds no doubles and is not too deep
(`Printable`, `spellsText_compact`, `spellsText_pretty`). -/

namespace HostedNode.Json

/-! ### Layouts -/

/-- The blanks between the parts of a value: before each item, field or closing bracket, by how deep
it stands, and behind each colon. -/
structure Layout where
  lineStart : Nat → List Char
  gap : List Char
  blank_lineStart : ∀ n, ∀ c ∈ lineStart n, isSpace c = true
  blank_gap : ∀ c ∈ gap, isSpace c = true

namespace Layout

/-- No blanks. -/
def dense : Layout where
  lineStart _ := []
  gap := []
  blank_lineStart := by simp
  blank_gap := by simp

/-- A line for every part. -/
def lines : Layout where
  lineStart := lineBreak
  gap := [' ']
  blank_lineStart n c hc := by
    rcases List.mem_cons.mp hc with rfl | hc
    · decide
    · rw [List.eq_of_mem_replicate hc]
      decide
  blank_gap c hc := by
    rw [List.mem_singleton.mp hc]
    decide

variable (l : Layout)

mutual

/-- The text of a value, `n` steps deep. -/
def chars (n : Nat) : Json → List Char
  | null => ['n', 'u', 'l', 'l']
  | bool true => ['t', 'r', 'u', 'e']
  | bool false => ['f', 'a', 'l', 's', 'e']
  | int i => intText i
  | double d => (doubleFormat.write d).toList
  | str s => stringText s
  | arr [] => ['[', ']']
  | arr (v :: vs) => '[' :: (items (n + 1) (v :: vs) ++ (l.lineStart n ++ [']']))
  | obj [] => ['\x7b', '\x7d']
  | obj (f :: fs) => '\x7b' :: (fields (n + 1) (f :: fs) ++ (l.lineStart n ++ ['\x7d']))

/-- The text of items. -/
def items (n : Nat) : List Json → List Char
  | [] => []
  | [v] => l.lineStart n ++ chars n v
  | v :: w :: vs => l.lineStart n ++ (chars n v ++ ',' :: items n (w :: vs))

/-- The text of fields. -/
def fields (n : Nat) : List (String × Json) → List Char
  | [] => []
  | [(k, v)] => l.lineStart n ++ (stringText k ++ ':' :: (l.gap ++ chars n v))
  | (k, v) :: f :: fs =>
    l.lineStart n ++ (stringText k ++ ':' :: (l.gap ++ (chars n v ++ ',' :: fields n (f :: fs))))

end

mutual

theorem chars_dense : ∀ (n : Nat) (v : Json), dense.chars n v = compactChars v
  | _, null | _, bool true | _, bool false | _, int _ | _, double _ | _, str _ => rfl
  | _, arr [] | _, obj [] => rfl
  | n, arr (v :: vs) => by
    rw [chars, compactChars, items_dense (n + 1) (v :: vs)]
    rfl
  | n, obj (f :: fs) => by
    rw [chars, compactChars, fields_dense (n + 1) (f :: fs)]
    rfl

theorem items_dense : ∀ (n : Nat) (vs : List Json), dense.items n vs = compactItems vs
  | _, [] => rfl
  | n, [v] => chars_dense n v
  | n, v :: w :: vs => by
    rw [items, compactItems, chars_dense n v, items_dense n (w :: vs)]
    rfl

theorem fields_dense : ∀ (n : Nat) (fs : List (String × Json)), dense.fields n fs = compactFields fs
  | _, [] => rfl
  | n, [(k, v)] => by
    rw [fields, compactFields, chars_dense n v]
    rfl
  | n, (k, v) :: f :: fs => by
    rw [fields, compactFields, chars_dense n v, fields_dense n (f :: fs)]
    rfl

end

mutual

theorem chars_lines : ∀ (n : Nat) (v : Json), lines.chars n v = prettyChars n v
  | _, null | _, bool true | _, bool false | _, int _ | _, double _ | _, str _ => rfl
  | _, arr [] | _, obj [] => rfl
  | n, arr (v :: vs) => by
    rw [chars, prettyChars, items_lines (n + 1) (v :: vs)]
    rfl
  | n, obj (f :: fs) => by
    rw [chars, prettyChars, fields_lines (n + 1) (f :: fs)]
    rfl

theorem items_lines : ∀ (n : Nat) (vs : List Json), lines.items n vs = prettyItems n vs
  | _, [] => rfl
  | n, [v] => by
    rw [items, prettyItems, chars_lines n v]
    rfl
  | n, v :: w :: vs => by
    rw [items, prettyItems, chars_lines n v, items_lines n (w :: vs)]
    rfl

theorem fields_lines : ∀ (n : Nat) (fs : List (String × Json)),
    lines.fields n fs = prettyFields n fs
  | _, [] => rfl
  | n, [(k, v)] => by
    rw [fields, prettyFields, chars_lines n v]
    rfl
  | n, (k, v) :: f :: fs => by
    rw [fields, prettyFields, chars_lines n v, fields_lines n (f :: fs)]
    rfl

end

end Layout

/-! ### Printable values -/

mutual

/-- Whether the text of the value can be read, `depth` levels deep at most. -/
def Printable : Nat → Json → Prop
  | depth, .arr vs => ∃ d, depth = d + 1 ∧ PrintableItems d vs
  | depth, .obj fs => ∃ d, depth = d + 1 ∧ PrintableFields d fs
  | _, .int i => InRange i
  | _, .double _ => False
  | _, _ => True

/-- Whether the texts of the items can be read. -/
def PrintableItems : Nat → List Json → Prop
  | _, [] => True
  | depth, v :: vs => Printable depth v ∧ PrintableItems depth vs

/-- Whether the texts of the fields can be read. -/
def PrintableFields : Nat → List (String × Json) → Prop
  | _, [] => True
  | depth, (_, v) :: fs => Printable depth v ∧ PrintableFields depth fs

end

/-! ### Scalars -/

section

variable {depth : Nat} {rest : List Char}

theorem skipSpace_stringText (s : String) (rest : List Char) :
    skipSpace (stringText s ++ rest) = '"' :: (s.toList.flatMap escapeChar ++ '"' :: rest) := by
  rw [stringText, List.cons_append, skipSpace_cons (by decide)]
  simp

theorem spells_stringText (s : String) : Spells depth (stringText s ++ rest) (.str s) rest :=
  .string (skipSpace_stringText s rest) (readString_text s rest)

theorem spells_intText {i : Int} (hi : InRange i) (hr : EndsNumber rest) :
    Spells depth (intText i ++ rest) (.int i) rest := by
  cases i with
  | ofNat n =>
    obtain ⟨c, ds, hd⟩ := List.exists_cons_of_ne_nil (Nat.toDigits_ne_nil (n := n) (b := 10))
    have hc : c.isDigit = true := isDigit_toDigits n c (by simp [hd])
    have hnum := readNumber_ofNat hi hr
    rw [hd, List.cons_append] at hnum
    rw [intText, hd, List.cons_append]
    exact .number (skipSpace_cons (isSpace_of_isDigit hc) _) hc hnum
  | negSucc n =>
    rw [intText, List.cons_append]
    exact .negative (skipSpace_cons (by decide) _) (readNumber_negSucc hi hr)

/-- A name with a colon and blanks behind it. -/
theorem spellsName_stringText (name : String) {b : List Char} {after : List Char}
    (hb : ∀ c ∈ b, isSpace c = true) :
    SpellsName (b ++ (stringText name ++ ':' :: after)) name after := by
  refine ⟨_, _, ?_, readString_text name (':' :: after), skipSpace_cons (by decide) after⟩
  rw [skipSpace_append hb, skipSpace_stringText]

/-- Blanks do not go on with a number. -/
theorem endsNumber_blanks {b : List Char} (hb : ∀ c ∈ b, isSpace c = true)
    (hr : EndsNumber rest) : EndsNumber (b ++ rest) := by
  cases b with
  | nil => exact hr
  | cons c b =>
    have hc := hb c (by simp)
    refine endsNumber_cons ⟨?_, ?_, ?_, ?_⟩
    · refine Bool.eq_false_iff.mpr fun hd => ?_
      rw [isSpace_of_isDigit hd] at hc
      cases hc
    all_goals
      rintro rfl
      simp [isSpace] at hc

end

/-! ### Whole values -/

namespace Layout

variable (l : Layout)

mutual

/-- **The text of a value spells the value.** -/
theorem spells_chars : ∀ (v : Json) (depth n : Nat) (rest : List Char), Printable depth v →
    EndsNumber rest → Spells depth (l.chars n v ++ rest) v rest
  | .null, _, _, _, _, _ => .null rfl
  | .bool true, _, _, _, _, _ => .true rfl
  | .bool false, _, _, _, _, _ => .false rfl
  | .int _, _, _, _, h, hr => spells_intText h hr
  | .double _, _, _, _, h, _ => h.elim
  | .str s, _, _, _, _, _ => spells_stringText s
  | .arr [], _, _, _, ⟨_, hd, _⟩, _ => by
    subst hd
    exact .emptyArray rfl rfl
  | .obj [], _, _, _, ⟨_, hd, _⟩, _ => by
    subst hd
    exact .emptyObject rfl rfl
  | .arr (v :: vs), _, n, rest, ⟨d, hd, h⟩, _ => by
    subst hd
    have hitems := spells_items (v :: vs) d n rest (by simp) h
    rw [chars, List.cons_append]
    refine .array (skipSpace_cons (by decide) _) (hitems.congr ?_)
    rw [skipSpace_skipSpace]
    simp
  | .obj (f :: fs), _, n, rest, ⟨d, hd, h⟩, _ => by
    subst hd
    have hfields := spells_fields (f :: fs) d n rest (by simp) h
    rw [chars, List.cons_append]
    refine .object (skipSpace_cons (by decide) _) (hfields.congr ?_)
    rw [skipSpace_skipSpace]
    simp

theorem spells_items : ∀ (vs : List Json) (depth n : Nat) (rest : List Char), vs ≠ [] →
    PrintableItems depth vs →
    SpellsItems depth (l.items (n + 1) vs ++ (l.lineStart n ++ ']' :: rest)) vs rest
  | [], _, _, _, hne, _ => absurd rfl hne
  | [v], depth, n, rest, _, h => by
    have hend : EndsNumber (l.lineStart n ++ ']' :: rest) :=
      endsNumber_blanks (l.blank_lineStart n) (endsNumber_cons (by decide))
    have hv := spells_chars v depth (n + 1) _ h.1 hend
    rw [items, List.append_assoc]
    refine .last (hv.congr (skipSpace_append (l.blank_lineStart _) _)) ?_
    rw [skipSpace_append (l.blank_lineStart n), skipSpace_cons (by decide)]
  | v :: w :: vs, depth, n, rest, _, h => by
    have hv := spells_chars v depth (n + 1)
      (',' :: (l.items (n + 1) (w :: vs) ++ (l.lineStart n ++ ']' :: rest))) h.1
      (endsNumber_cons (by decide))
    have hvs := spells_items (w :: vs) depth n rest (by simp) h.2
    rw [items, List.append_assoc, List.append_assoc, List.cons_append]
    exact .more (hv.congr (skipSpace_append (l.blank_lineStart _) _))
      (skipSpace_cons (by decide) _) hvs

theorem spells_fields : ∀ (fs : List (String × Json)) (depth n : Nat) (rest : List Char),
    fs ≠ [] → PrintableFields depth fs →
    SpellsFields depth (l.fields (n + 1) fs ++ (l.lineStart n ++ '\x7d' :: rest)) fs rest
  | [], _, _, _, hne, _ => absurd rfl hne
  | [(k, v)], depth, n, rest, _, h => by
    have hend : EndsNumber (l.lineStart n ++ '\x7d' :: rest) :=
      endsNumber_blanks (l.blank_lineStart n) (endsNumber_cons (by decide))
    have hv := spells_chars v depth (n + 1) _ h.1 hend
    simp only [fields, List.append_assoc, List.cons_append]
    refine .last (spellsName_stringText k (l.blank_lineStart (n + 1)))
      (hv.congr (skipSpace_append l.blank_gap _)) ?_
    rw [skipSpace_append (l.blank_lineStart n), skipSpace_cons (by decide)]
  | (k, v) :: f :: fs, depth, n, rest, _, h => by
    have hv := spells_chars v depth (n + 1)
      (',' :: (l.fields (n + 1) (f :: fs) ++ (l.lineStart n ++ '\x7d' :: rest))) h.1
      (endsNumber_cons (by decide))
    have hfs := spells_fields (f :: fs) depth n rest (by simp) h.2
    simp only [fields, List.append_assoc, List.cons_append]
    exact .more (spellsName_stringText k (l.blank_lineStart (n + 1)))
      (hv.congr (skipSpace_append l.blank_gap _)) (skipSpace_cons (by decide) _) hfs

end

end Layout

/-- **The compact text of a value spells it.** -/
theorem spellsText_compact {v : Json} (h : Printable maxDepth v) : SpellsText v.compact v := by
  have hv := Layout.dense.spells_chars v maxDepth 0 [] h endsNumber_nil
  rw [List.append_nil, Layout.chars_dense] at hv
  refine ⟨[], ?_, rfl⟩
  rw [compact, String.toList_ofList]
  exact hv

/-- **The pretty text of a value spells it.** -/
theorem spellsText_pretty {v : Json} (h : Printable maxDepth v) : SpellsText v.pretty v := by
  have hv := Layout.lines.spells_chars v maxDepth 0 [] h endsNumber_nil
  rw [List.append_nil, Layout.chars_lines] at hv
  refine ⟨[], ?_, rfl⟩
  rw [pretty, String.toList_ofList]
  exact hv

/-! ### Bytes -/

/-- Where all characters are whole, they are spelled as they are. -/
theorem spelled_map_some : ∀ cs : List Char, spelled (cs.map some) = cs
  | [] => rfl
  | [c] => by simp [spelled]
  | c :: d :: cs => by
    by_cases hc : c = '\\'
    · subst hc
      have ih := spelled_map_some cs
      simp [spelled, ih]
    · have ih := spelled_map_some (d :: cs)
      simpa [spelled, hc] using ih

/-- The bytes of a text are read as the text is. -/
theorem readBytesAs_encode {α : Type} (decoder : Decoder α) (text : String) :
    readBytesAs decoder (Text.Utf8.encode text) = readAs decoder text := by
  rw [readBytesAs, Text.Utf8.pieces_encode, spelled_map_some]
  rfl

end HostedNode.Json

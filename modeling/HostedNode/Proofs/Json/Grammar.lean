import HostedNode.Proofs.Json.Scalar

/-! # The grammar of JSON texts

`Spells` says which value a text begins with, behind blanks, and what is left of the text after it.
Of the values that a text can be read as, it is the one that forgets nothing: objects keep their
fields in the order of the text, and all of those that have one name. What the readers of a text
make of it follows from this value. -/

namespace HostedNode.Json

/-! ### Steps of a reader -/

section

variable {ε α β : Type}

theorem bind_eq_ok {x : Except ε α} {f : α → Except ε β} {b : β} :
    (x >>= f) = .ok b ↔ ∃ a, x = .ok a ∧ f a = .ok b := by
  cases x with
  | error e => simp [bind, Except.bind]
  | ok a => simp [bind, Except.bind]

theorem map_eq_ok {x : Except ε α} {f : α → β} {b : β} :
    x.map f = .ok b ↔ ∃ a, x = .ok a ∧ f a = b := by
  cases x with
  | error e => simp [Except.map]
  | ok a => simp [Except.map]

end

/-! ### Blanks -/

theorem skipSpace_append {b : List Char} (h : ∀ c ∈ b, isSpace c = true) (cs : List Char) :
    skipSpace (b ++ cs) = skipSpace cs := List.dropWhile_append_of_pos h

theorem skipSpace_cons {c : Char} (h : isSpace c = false) (cs : List Char) :
    skipSpace (c :: cs) = c :: cs := by
  simp [skipSpace, h]

theorem ne_of_isDigit {c e : Char} (hc : c.isDigit = true) (he : e.isDigit = false) : c ≠ e := by
  rintro rfl
  rw [hc] at he
  cases he

/-- A digit is no blank. -/
theorem isSpace_of_isDigit {c : Char} (hc : c.isDigit = true) : isSpace c = false := by
  simp [isSpace, ne_of_isDigit hc]

theorem skipSpace_skipSpace (cs : List Char) : skipSpace (skipSpace cs) = skipSpace cs := by
  induction cs with
  | nil => rfl
  | cons c cs ih =>
    by_cases h : isSpace c = true
    · simpa [skipSpace, h] using ih
    · simp [skipSpace, h]

theorem length_skipSpace_le (cs : List Char) : (skipSpace cs).length ≤ cs.length :=
  (List.dropWhile_sublist _).length_le

/-- What stands behind the blanks is no longer than the text. -/
theorem length_lt_of_skipSpace {text cs : List Char} {c : Char} (h : skipSpace text = c :: cs) :
    cs.length < text.length := by
  have hle := length_skipSpace_le text
  rw [h, List.length_cons] at hle
  omega

theorem expect_of_skipSpace {c : Char} {text cs : List Char} (h : skipSpace text = c :: cs) :
    expect c text = .ok cs := by
  simp [expect, h]

theorem skipSpace_of_expect {c : Char} {text cs : List Char} (h : expect c text = .ok cs) :
    skipSpace text = c :: cs := by
  unfold expect at h
  split at h
  · split at h
    · rename_i hc
      rw [← hc, ← Except.ok.inj h]
      assumption
    · cases h
  · cases h

/-! ### Values, items and fields -/

/-- The text begins with the name of a field and a colon. -/
def SpellsName (text : List Char) (name : String) (after : List Char) : Prop :=
  ∃ cs more, skipSpace text = '"' :: cs ∧ readString cs = .ok (name, more) ∧
    skipSpace more = ':' :: after

mutual

/-- The text begins with the value, nested so deep at most; the rest is what is left of it. -/
inductive Spells : Nat → List Char → Json → List Char → Prop where
  | null {depth text rest} : skipSpace text = ['n', 'u', 'l', 'l'] ++ rest →
    Spells depth text .null rest
  | true {depth text rest} : skipSpace text = ['t', 'r', 'u', 'e'] ++ rest →
    Spells depth text (.bool true) rest
  | false {depth text rest} : skipSpace text = ['f', 'a', 'l', 's', 'e'] ++ rest →
    Spells depth text (.bool false) rest
  | string {depth text cs s rest} : skipSpace text = '"' :: cs → readString cs = .ok (s, rest) →
    Spells depth text (.str s) rest
  | negative {depth text cs v rest} : skipSpace text = '-' :: cs →
    readNumber true cs = .ok (v, rest) → Spells depth text v rest
  | number {depth text c cs v rest} : skipSpace text = c :: cs → c.isDigit = true →
    readNumber false (c :: cs) = .ok (v, rest) → Spells depth text v rest
  | emptyArray {depth text cs rest} : skipSpace text = '[' :: cs → skipSpace cs = ']' :: rest →
    Spells (depth + 1) text (.arr []) rest
  | array {depth text cs vs rest} : skipSpace text = '[' :: cs →
    SpellsItems depth (skipSpace cs) vs rest → Spells (depth + 1) text (.arr vs) rest
  | emptyObject {depth text cs rest} : skipSpace text = '\x7b' :: cs →
    skipSpace cs = '\x7d' :: rest → Spells (depth + 1) text (.obj []) rest
  | object {depth text cs fs rest} : skipSpace text = '\x7b' :: cs →
    SpellsFields depth (skipSpace cs) fs rest → Spells (depth + 1) text (.obj fs) rest

/-- The text begins with the last items of an array and its closing bracket. -/
inductive SpellsItems : Nat → List Char → List Json → List Char → Prop where
  | last {depth text v after rest} : Spells depth text v after → skipSpace after = ']' :: rest →
    SpellsItems depth text [v] rest
  | more {depth text v after vs next rest} : Spells depth text v after →
    skipSpace after = ',' :: next → SpellsItems depth next vs rest →
    SpellsItems depth text (v :: vs) rest

/-- The text begins with the last fields of an object and its closing brace. -/
inductive SpellsFields : Nat → List Char → List (String × Json) → List Char → Prop where
  | last {depth text name value v after rest} : SpellsName text name value →
    Spells depth value v after → skipSpace after = '\x7d' :: rest →
    SpellsFields depth text [(name, v)] rest
  | more {depth text name value v after fs next rest} : SpellsName text name value →
    Spells depth value v after → skipSpace after = ',' :: next →
    SpellsFields depth next fs rest → SpellsFields depth text ((name, v) :: fs) rest

end

/-- The whole text is the value. -/
def SpellsText (text : String) (v : Json) : Prop :=
  ∃ rest, Spells maxDepth text.toList v rest ∧ skipSpace rest = []

/-! ### Blanks in front -/

variable {depth : Nat} {cs text rest : List Char}

theorem SpellsName.congr {name : String} (h : skipSpace text = skipSpace cs)
    (hs : SpellsName cs name rest) : SpellsName text name rest := by
  unfold SpellsName
  rw [h]
  exact hs

theorem Spells.congr {v : Json} (h : skipSpace text = skipSpace cs)
    (hs : Spells depth cs v rest) : Spells depth text v rest := by
  cases hs with
  | null ht => exact .null (h.trans ht)
  | true ht => exact .true (h.trans ht)
  | false ht => exact .false (h.trans ht)
  | string ht hs => exact .string (h.trans ht) hs
  | negative ht hn => exact .negative (h.trans ht) hn
  | number ht hc hn => exact .number (h.trans ht) hc hn
  | emptyArray ht hr => exact .emptyArray (h.trans ht) hr
  | array ht hs => exact .array (h.trans ht) hs
  | emptyObject ht hr => exact .emptyObject (h.trans ht) hr
  | object ht hs => exact .object (h.trans ht) hs

theorem SpellsItems.congr {vs : List Json} (h : skipSpace text = skipSpace cs)
    (hs : SpellsItems depth cs vs rest) : SpellsItems depth text vs rest := by
  cases hs with
  | last hv hr => exact .last (hv.congr h) hr
  | more hv hr hs => exact .more (hv.congr h) hr hs

theorem SpellsFields.congr {fs : List (String × Json)} (h : skipSpace text = skipSpace cs)
    (hs : SpellsFields depth cs fs rest) : SpellsFields depth text fs rest := by
  cases hs with
  | last hn hv hr => exact .last (hn.congr h) hv hr
  | more hn hv hr hs => exact .more (hn.congr h) hv hr hs

/-! ### First characters -/

/-- No value begins with a bracket that closes. -/
theorem Spells.skipSpace_ne {depth : Nat} {text rest : List Char} {v : Json}
    (h : Spells depth text v rest) (more : List Char) : skipSpace text ≠ ']' :: more := by
  intro ht
  cases h with
  | number hs hc _ =>
    obtain ⟨rfl, -⟩ := List.cons.inj (hs.symm.trans ht)
    simp at hc
  | _ => simp_all

theorem SpellsItems.skipSpace_ne {depth : Nat} {text rest : List Char} {vs : List Json}
    (h : SpellsItems depth text vs rest) (more : List Char) : skipSpace text ≠ ']' :: more := by
  cases h with
  | last hv _ => exact hv.skipSpace_ne more
  | more hv _ _ => exact hv.skipSpace_ne more

theorem SpellsName.skipSpace_ne {text rest : List Char} {name : String}
    (h : SpellsName text name rest) (more : List Char) : skipSpace text ≠ '\x7d' :: more := by
  obtain ⟨cs, after, hq, -, -⟩ := h
  simp [hq]

theorem SpellsFields.skipSpace_ne {depth : Nat} {text rest : List Char}
    {fs : List (String × Json)} (h : SpellsFields depth text fs rest) (more : List Char) :
    skipSpace text ≠ '\x7d' :: more := by
  cases h with
  | last hn _ _ => exact hn.skipSpace_ne more
  | more hn _ _ _ => exact hn.skipSpace_ne more

end HostedNode.Json

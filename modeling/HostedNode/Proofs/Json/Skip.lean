import HostedNode.Proofs.Json.Grammar

/-! # What can be read can be skipped

Where nothing looks at a value, the reader passes over it without nesting calls: it keeps a list of
what is open and one count of steps. On a text that begins with a value this ends where the value
ends, whatever is open around it, and takes no more steps than the value has characters
(`passes_of_spells`). -/

namespace HostedNode.Json

/-! ### Strings -/

theorem skipString_of_readStringFrom {acc cs out rest : List Char}
    (h : readStringFrom acc cs = .ok (out, rest)) : skipString cs = .ok rest := by
  fun_induction readStringFrom acc cs with
  | case2 acc cs => exact congrArg Except.ok (Prod.mk.inj (Except.ok.inj h)).2
  | case4 acc a b c d n hn _ e f g i rest' m hm _ ih =>
    -- a pair of code units is read in one step and skipped in two
    simp only [skipString, hn, hm]
    exact ih h
  | case9 acc a b c d cs n hn _ _ ih =>
    simp only [skipString, hn]
    exact ih h
  | case10 acc c cs hu e he ih =>
    rw [skipString]
    · simp only [he]
      exact ih h
    · exact hu
  | case14 acc c cs hq hu he hc hlow ih =>
    rw [skipString]
    · rw [if_neg hc, if_neg hlow]
      exact ih h
    · exact hq
    · exact hu
    · exact he
  | _ => cases h

theorem skipString_of_readString {cs rest : List Char} {s : String}
    (h : readString cs = .ok (s, rest)) : skipString cs = .ok rest := by
  obtain ⟨⟨out, after⟩, hr, heq⟩ := map_eq_ok.mp h
  obtain ⟨-, rfl⟩ := Prod.mk.inj heq
  exact skipString_of_readStringFrom hr

theorem length_lt_of_skipString {cs rest : List Char} (h : skipString cs = .ok rest) :
    rest.length < cs.length := by
  fun_induction skipString cs with
  | case2 cs =>
    rw [← Except.ok.inj h]
    simp
  | case4 a b c d cs n hn ih =>
    have := ih h
    simp only [List.length_cons]
    omega
  | case5 c cs hu e he ih =>
    have := ih h
    simp only [List.length_cons]
    omega
  | case9 c cs hq hu he hc hlow ih =>
    have := ih h
    simp only [List.length_cons]
    omega
  | _ => cases h

/-- The name of a field and its colon are not empty. -/
theorem length_lt_of_spellsName {text rest : List Char} {name : String}
    (h : SpellsName text name rest) : rest.length < text.length := by
  obtain ⟨cs, more, hq, hs, hc⟩ := h
  have h1 := length_lt_of_skipSpace hq
  have h2 := length_lt_of_skipString (skipString_of_readString hs)
  have h3 := length_lt_of_skipSpace hc
  omega

/-! ### Numbers -/

theorem length_lt_of_readDigits {cs ds rest : List Char} (h : readDigits cs = .ok (ds, rest)) :
    rest.length < cs.length := by
  unfold readDigits at h
  split at h
  · cases h
  · rename_i ds' hne
    obtain ⟨-, rfl⟩ := Prod.mk.inj (Except.ok.inj h)
    have hsplit := congrArg List.length
      (List.takeWhile_append_dropWhile (p := Char.isDigit) (l := cs))
    have hpos : 0 < (cs.takeWhile Char.isDigit).length := List.length_pos_iff.mpr hne
    rw [List.length_append] at hsplit
    omega

theorem length_le_of_readFraction {cs rest : List Char} {f : Option (List Char)}
    (h : readFraction cs = .ok (f, rest)) : rest.length ≤ cs.length := by
  unfold readFraction at h
  split at h
  · obtain ⟨⟨ds, after⟩, hr, heq⟩ := map_eq_ok.mp h
    obtain ⟨-, rfl⟩ := Prod.mk.inj heq
    have hlt := length_lt_of_readDigits hr
    rw [List.length_cons]
    omega
  · obtain ⟨-, rfl⟩ := Prod.mk.inj (Except.ok.inj h)
    exact Nat.le_refl _

theorem length_readSign_le (cs : List Char) : (readSign cs).2.length ≤ cs.length := by
  unfold readSign
  split <;> simp

theorem length_le_of_readExponent {cs rest : List Char} {e : Option (Bool × List Char)}
    (h : readExponent cs = .ok (e, rest)) : rest.length ≤ cs.length := by
  cases cs with
  | nil =>
    obtain ⟨-, rfl⟩ := Prod.mk.inj (Except.ok.inj h)
    exact Nat.le_refl _
  | cons c cs =>
    rw [readExponent] at h
    split at h
    · obtain ⟨⟨ds, after⟩, hr, heq⟩ := map_eq_ok.mp h
      obtain ⟨-, rfl⟩ := Prod.mk.inj heq
      have hlt : after.length < (readSign cs).2.length := length_lt_of_readDigits hr
      have hle := length_readSign_le cs
      rw [List.length_cons]
      omega
    · obtain ⟨-, rfl⟩ := Prod.mk.inj (Except.ok.inj h)
      exact Nat.le_refl _

theorem length_lt_of_readNumeral {negative : Bool} {cs rest : List Char} {n : Numeral}
    (h : readNumeral negative cs = .ok (n, rest)) : rest.length < cs.length := by
  obtain ⟨⟨ds, r1⟩, hd, h⟩ := bind_eq_ok.mp h
  dsimp only at h
  split at h
  · cases h
  · obtain ⟨⟨f, r2⟩, hf, h⟩ := bind_eq_ok.mp h
    obtain ⟨⟨e, r3⟩, he, h⟩ := bind_eq_ok.mp h
    obtain ⟨-, rfl⟩ := Prod.mk.inj (Except.ok.inj h)
    have h1 := length_lt_of_readDigits hd
    have h2 := length_le_of_readFraction hf
    have h3 := length_le_of_readExponent he
    dsimp only at h2 h3 ⊢
    omega

/-- What is read as a number has the parts of one, and a value. -/
theorem readNumber_eq_ok {negative : Bool} {cs rest : List Char} {v : Json}
    (h : readNumber negative cs = .ok (v, rest)) :
    ∃ n : Numeral, readNumeral negative cs = .ok (n, rest) ∧ n.value? = some v := by
  obtain ⟨⟨n, r⟩, hn, h⟩ := bind_eq_ok.mp h
  dsimp only at h
  split at h
  · rename_i w hw
    obtain ⟨rfl, rfl⟩ := Prod.mk.inj (Except.ok.inj h)
    exact ⟨n, hn, hw⟩
  · cases h

/-! ### One step -/

section

variable {opened : List Bracket} {n : Nat} {text cs rest : List Char}

/-- Blanks before a value are of no account. -/
theorem skipValue_of_skipSpace (h : skipSpace text = cs) :
    skipValue opened (n + 1) text = skipValue opened (n + 1) cs := by
  have hcs : skipSpace cs = cs := by rw [← h, skipSpace_skipSpace]
  rw [skipValue, skipValue, h, hcs]

/-- A digit is no blank and opens neither a string nor a list of parts. -/
theorem skipValue_digit {c : Char} (hc : c.isDigit = true) :
    skipValue opened (n + 1) (c :: cs) = (do
      let (_, rest) ← readNumeral false (c :: cs)
      skipAfter opened n rest) := by
  rw [skipValue, skipSpace_cons (isSpace_of_isDigit hc)]
  split
  · contradiction
  · rename_i heq
    exact absurd (List.cons.inj heq).1 (ne_of_isDigit hc (by decide))
  · rename_i heq
    exact absurd (List.cons.inj heq).1 (ne_of_isDigit hc (by decide))
  · rename_i heq
    exact absurd (List.cons.inj heq).1 (ne_of_isDigit hc (by decide))
  · rename_i heq
    exact absurd (List.cons.inj heq).1 (ne_of_isDigit hc (by decide))
  · rename_i heq
    obtain ⟨rfl, rfl⟩ := List.cons.inj heq
    rw [if_pos hc]

theorem skipValue_array : skipValue opened (n + 1) ('[' :: cs) =
    match skipSpace cs with
    | ']' :: rest => skipAfter opened n rest
    | rest => skipValue (.array :: opened) n rest := rfl

theorem skipValue_object : skipValue opened (n + 1) ('\x7b' :: cs) =
    match skipSpace cs with
    | '\x7d' :: rest => skipAfter opened n rest
    | rest => skipField (.object :: opened) n rest := rfl

theorem skipValue_bracket (h : ∀ rest, skipSpace cs ≠ ']' :: rest) :
    skipValue opened (n + 1) ('[' :: cs) = skipValue (.array :: opened) n (skipSpace cs) := by
  rw [skipValue_array]
  split
  · rename_i heq
    exact absurd heq (h _)
  · rfl

theorem skipValue_brace (h : ∀ rest, skipSpace cs ≠ '\x7d' :: rest) :
    skipValue opened (n + 1) ('\x7b' :: cs) = skipField (.object :: opened) n (skipSpace cs) := by
  rw [skipValue_object]
  split
  · rename_i heq
    exact absurd heq (h _)
  · rfl

theorem skipField_of_spellsName {name : String} (h : SpellsName text name rest) :
    skipField opened (n + 1) text = skipValue opened n rest := by
  obtain ⟨cs, more, hq, hs, hc⟩ := h
  rw [skipField, expect_of_skipSpace hq]
  simp only [bind, Except.bind, skipString_of_readString hs, expect_of_skipSpace hc]

theorem skipAfter_comma_array (h : skipSpace text = ',' :: rest) :
    skipAfter (.array :: opened) (n + 1) text = skipValue (.array :: opened) n rest := by
  simp only [skipAfter, h]

theorem skipAfter_bracket (h : skipSpace text = ']' :: rest) :
    skipAfter (.array :: opened) (n + 1) text = skipAfter opened n rest := by
  simp only [skipAfter, h]

theorem skipAfter_comma_object (h : skipSpace text = ',' :: rest) :
    skipAfter (.object :: opened) (n + 1) text = skipField (.object :: opened) n rest := by
  simp only [skipAfter, h]

theorem skipAfter_brace (h : skipSpace text = '\x7d' :: rest) :
    skipAfter (.object :: opened) (n + 1) text = skipAfter opened n rest := by
  simp only [skipAfter, h]

end

/-! ### Whole values -/

/-- The reader passes from one text to the other in some steps, no more than there are characters
between the two, and closes on the way what it takes for granted as open. -/
def Passes (skip : List Bracket → Nat → List Char → Read (List Char)) (text rest : List Char) :
    Prop :=
  ∃ n, 0 < n ∧ n + rest.length ≤ text.length ∧
    ∀ opened fuel, skip opened (fuel + n) text = skipAfter opened fuel rest

theorem Passes.length_lt {skip : List Bracket → Nat → List Char → Read (List Char)}
    {text rest : List Char} (h : Passes skip text rest) : rest.length < text.length := by
  obtain ⟨n, hpos, hn, -⟩ := h
  omega

/-- An opening bracket is one step, and so is the one that closes after the last part. -/
theorem Passes.ofParts {skip : List Bracket → Nat → List Char → Read (List Char)}
    {text cs rest : List Char} {c : Char} {b : Bracket} (ht : skipSpace text = c :: cs)
    (h : ∀ opened fuel,
      skipValue opened (fuel + 1) (c :: cs) = skip (b :: opened) fuel (skipSpace cs))
    (hp : Passes (fun opened => skip (b :: opened)) (skipSpace cs) rest) :
    Passes skipValue text rest := by
  obtain ⟨n, -, hn, hs⟩ := hp
  have hlt := length_lt_of_skipSpace ht
  have hle := length_skipSpace_le cs
  refine ⟨n + 1, n.succ_pos, by omega, fun opened fuel => ?_⟩
  rw [← Nat.add_assoc, skipValue_of_skipSpace ht, h]
  exact hs opened fuel

/-- A value that is passed over in one step. -/
theorem Passes.ofValue {text cs rest : List Char} {c : Char} (ht : skipSpace text = c :: cs)
    (hl : rest.length ≤ cs.length)
    (h : ∀ opened fuel, skipValue opened (fuel + 1) (c :: cs) = skipAfter opened fuel rest) :
    Passes skipValue text rest := by
  have hlt := length_lt_of_skipSpace ht
  refine ⟨1, Nat.one_pos, by omega, fun opened fuel => ?_⟩
  rw [skipValue_of_skipSpace ht, h]

mutual

/-- **What begins with a value can be passed over up to the end of the value.** -/
theorem passes_of_spells {depth : Nat} {text rest : List Char} {v : Json} :
    Spells depth text v rest → Passes skipValue text rest
  | .null ht => .ofValue ht (Nat.le_add_right _ 3) fun _ _ => rfl
  | .true ht => .ofValue ht (Nat.le_add_right _ 3) fun _ _ => rfl
  | .false ht => .ofValue ht (Nat.le_add_right _ 4) fun _ _ => rfl
  | .string ht hs => by
    have hskip := skipString_of_readString hs
    refine .ofValue ht (Nat.le_of_lt (length_lt_of_skipString hskip)) fun opened fuel => ?_
    show (skipString _ >>= fun rest => skipAfter opened fuel rest) = _
    rw [hskip]
    rfl
  | .negative ht hn => by
    obtain ⟨m, hm, -⟩ := readNumber_eq_ok hn
    refine .ofValue ht (Nat.le_of_lt (length_lt_of_readNumeral hm)) fun opened fuel => ?_
    show (readNumeral Bool.true _ >>= fun r => skipAfter opened fuel r.2) = _
    rw [hm]
    rfl
  | .number ht hc hn => by
    obtain ⟨m, hm, -⟩ := readNumber_eq_ok hn
    have hlt := length_lt_of_readNumeral hm
    refine .ofValue ht (Nat.le_of_lt_succ hlt) fun opened fuel => ?_
    rw [skipValue_digit hc, hm]
    rfl
  | .emptyArray ht hr => by
    refine .ofValue ht (Nat.le_of_lt (length_lt_of_skipSpace hr)) fun opened fuel => ?_
    simp only [skipValue_array, hr]
  | .array ht hs =>
    .ofParts ht (fun _ _ => skipValue_bracket fun more => by
      simpa only [skipSpace_skipSpace] using hs.skipSpace_ne more) (passes_of_spellsItems hs)
  | .emptyObject ht hr => by
    refine .ofValue ht (Nat.le_of_lt (length_lt_of_skipSpace hr)) fun opened fuel => ?_
    simp only [skipValue_object, hr]
  | .object ht hs =>
    .ofParts ht (fun _ _ => skipValue_brace fun more => by
      simpa only [skipSpace_skipSpace] using hs.skipSpace_ne more) (passes_of_spellsFields hs)

theorem passes_of_spellsItems {depth : Nat} {text rest : List Char} {vs : List Json} :
    SpellsItems depth text vs rest →
      Passes (fun opened => skipValue (.array :: opened)) text rest
  | .last hv hr => by
    obtain ⟨n, -, hn, hs⟩ := passes_of_spells hv
    have hlt := length_lt_of_skipSpace hr
    refine ⟨n + 1, by omega, by omega, fun opened fuel => ?_⟩
    show skipValue (.array :: opened) (fuel + (n + 1)) text = _
    rw [Nat.add_comm n, ← Nat.add_assoc, hs, skipAfter_bracket hr]
  | .more hv hr hvs => by
    obtain ⟨n, -, hn, hs⟩ := passes_of_spells hv
    obtain ⟨m, -, hm, hmore⟩ := passes_of_spellsItems hvs
    have hlt := length_lt_of_skipSpace hr
    refine ⟨m + 1 + n, by omega, by omega, fun opened fuel => ?_⟩
    show skipValue (.array :: opened) (fuel + (m + 1 + n)) text = _
    rw [← Nat.add_assoc, hs, ← Nat.add_assoc, skipAfter_comma_array hr]
    exact hmore opened fuel

theorem passes_of_spellsFields {depth : Nat} {text rest : List Char}
    {fs : List (String × Json)} : SpellsFields depth text fs rest →
      Passes (fun opened => skipField (.object :: opened)) text rest
  | .last hn hv hr => by
    obtain ⟨n, -, hl, hs⟩ := passes_of_spells hv
    have hlt := length_lt_of_skipSpace hr
    have hname := length_lt_of_spellsName hn
    refine ⟨n + 1 + 1, by omega, by omega, fun opened fuel => ?_⟩
    show skipField (.object :: opened) (fuel + (n + 1 + 1)) text = _
    rw [← Nat.add_assoc, skipField_of_spellsName hn, Nat.add_comm n, ← Nat.add_assoc, hs,
      skipAfter_brace hr]
  | .more hn hv hr hfs => by
    obtain ⟨n, -, hl, hs⟩ := passes_of_spells hv
    obtain ⟨m, -, hm, hmore⟩ := passes_of_spellsFields hfs
    have hlt := length_lt_of_skipSpace hr
    have hname := length_lt_of_spellsName hn
    refine ⟨m + 1 + n + 1, by omega, by omega, fun opened fuel => ?_⟩
    show skipField (.object :: opened) (fuel + (m + 1 + n + 1)) text = _
    rw [← Nat.add_assoc, skipField_of_spellsName hn, ← Nat.add_assoc, hs, ← Nat.add_assoc,
      skipAfter_comma_object hr]
    exact hmore opened fuel

end

section

variable {depth : Nat} {text rest : List Char} {v : Json}

theorem length_lt_of_spells (h : Spells depth text v rest) : rest.length < text.length :=
  (passes_of_spells h).length_lt

theorem length_lt_of_spellsItems {vs : List Json} (h : SpellsItems depth text vs rest) :
    rest.length < text.length :=
  (passes_of_spellsItems h).length_lt

theorem length_lt_of_spellsFields {fs : List (String × Json)}
    (h : SpellsFields depth text fs rest) : rest.length < text.length :=
  (passes_of_spellsFields h).length_lt

/-- With the length of the value as fuel, the value is skipped. -/
theorem skipValue_of_spells (h : Spells depth text v rest) {fuel : Nat}
    (hf : text.length ≤ fuel + rest.length) : skipValue [] fuel text = .ok rest := by
  obtain ⟨n, -, hn, hs⟩ := passes_of_spells h
  obtain ⟨m, rfl⟩ : ∃ m, fuel = m + n := ⟨fuel - n, by omega⟩
  rw [hs, skipAfter]

end

/-! ### What is left -/

theorem length_lt_of_expect {c : Char} {cs rest : List Char} (h : expect c cs = .ok rest) :
    rest.length < cs.length :=
  length_lt_of_skipSpace (skipSpace_of_expect h)

theorem length_le_of_readWord {word cs rest : List Char} {v w : Json}
    (h : readWord word v cs = .ok (w, rest)) : rest.length ≤ cs.length := by
  unfold readWord at h
  split at h
  · rw [← (Prod.mk.inj (Except.ok.inj h)).2, List.length_drop]
    omega
  · cases h

/-- One step on a value leaves a text that is no longer, for what comes behind the value or for the
first of its parts. -/
theorem skipValue_cases {opened : List Bracket} {fuel : Nat} {cs rest : List Char}
    (h : skipValue opened (fuel + 1) cs = .ok rest) :
    ∃ next, next.length ≤ cs.length ∧
      (skipAfter opened fuel next = .ok rest ∨
        skipValue (.array :: opened) fuel next = .ok rest ∨
        skipField (.object :: opened) fuel next = .ok rest) := by
  rw [skipValue] at h
  split at h
  · cases h
  · -- a string
    rename_i ht
    obtain ⟨next, hs, h⟩ := bind_eq_ok.mp h
    have h1 := length_lt_of_skipSpace ht
    have h2 := length_lt_of_skipString hs
    exact ⟨next, by omega, .inl h⟩
  · -- a number with a sign
    rename_i ht
    obtain ⟨⟨n, next⟩, hn, h⟩ := bind_eq_ok.mp h
    have h1 := length_lt_of_skipSpace ht
    have h2 := length_lt_of_readNumeral hn
    exact ⟨next, by omega, .inl h⟩
  · -- an array
    rename_i more ht
    have h1 := length_lt_of_skipSpace ht
    split at h
    · rename_i next hr
      have h2 := length_lt_of_skipSpace hr
      exact ⟨next, by omega, .inl h⟩
    · have h2 := length_skipSpace_le more
      exact ⟨_, by omega, .inr (.inl h)⟩
  · -- an object
    rename_i more ht
    have h1 := length_lt_of_skipSpace ht
    split at h
    · rename_i next hr
      have h2 := length_lt_of_skipSpace hr
      exact ⟨next, by omega, .inl h⟩
    · have h2 := length_skipSpace_le more
      exact ⟨_, by omega, .inr (.inr h)⟩
  · -- a number or a word
    rename_i c more _ _ _ _ ht
    have h1 := length_skipSpace_le cs
    rw [ht] at h1
    split at h
    · obtain ⟨⟨n, next⟩, hn, h⟩ := bind_eq_ok.mp h
      have h2 := length_lt_of_readNumeral hn
      exact ⟨next, by omega, .inl h⟩
    · have hword : ∀ {word : List Char} {r : Json × List Char},
          readWord word .null (c :: more) = .ok r → r.2.length ≤ cs.length :=
        fun hw => Nat.le_trans (length_le_of_readWord hw) h1
      split at h
      · obtain ⟨r, hw, h⟩ := bind_eq_ok.mp h
        exact ⟨r.2, hword hw, .inl h⟩
      · split at h
        · obtain ⟨r, hw, h⟩ := bind_eq_ok.mp h
          exact ⟨r.2, hword hw, .inl h⟩
        · split at h
          · obtain ⟨r, hw, h⟩ := bind_eq_ok.mp h
            exact ⟨r.2, hword hw, .inl h⟩
          · cases h

mutual

/-- What is left behind a value that was passed over is no longer than the text. -/
theorem length_le_of_skipValue : ∀ (fuel : Nat) {opened : List Bracket} {cs rest : List Char},
    skipValue opened fuel cs = .ok rest → rest.length ≤ cs.length
  | 0, _, _, _, h => by cases h
  | fuel + 1, _, _, _, h => by
    obtain ⟨next, hle, h | h | h⟩ := skipValue_cases h
    · exact Nat.le_trans (length_le_of_skipAfter fuel h) hle
    · exact Nat.le_trans (length_le_of_skipValue fuel h) hle
    · exact Nat.le_trans (length_le_of_skipField fuel h) hle

theorem length_le_of_skipField : ∀ (fuel : Nat) {opened : List Bracket} {cs rest : List Char},
    skipField opened fuel cs = .ok rest → rest.length ≤ cs.length
  | 0, _, _, _, h => by cases h
  | fuel + 1, opened, cs, rest, h => by
    obtain ⟨c1, hq, h⟩ := bind_eq_ok.mp h
    obtain ⟨c2, hs, h⟩ := bind_eq_ok.mp h
    obtain ⟨c3, hc, h⟩ := bind_eq_ok.mp h
    have h1 := length_lt_of_expect hq
    have h2 := length_lt_of_skipString hs
    have h3 := length_lt_of_expect hc
    have h4 := length_le_of_skipValue fuel h
    omega

theorem length_le_of_skipAfter : ∀ (fuel : Nat) {opened : List Bracket} {cs rest : List Char},
    skipAfter opened fuel cs = .ok rest → rest.length ≤ cs.length
  | _, [], cs, rest, h => by
    rw [skipAfter] at h
    exact Nat.le_of_eq (congrArg List.length (Except.ok.inj h).symm)
  | 0, _ :: _, _, _, h => by simp [skipAfter] at h
  | fuel + 1, .array :: opened, cs, rest, h => by
    rw [skipAfter] at h
    split at h
    · rename_i ht
      have h1 := length_lt_of_skipSpace ht
      have h2 := length_le_of_skipValue fuel h
      omega
    · rename_i ht
      have h1 := length_lt_of_skipSpace ht
      have h2 := length_le_of_skipAfter fuel h
      omega
    · cases h
  | fuel + 1, .object :: opened, cs, rest, h => by
    rw [skipAfter] at h
    split at h
    · rename_i ht
      have h1 := length_lt_of_skipSpace ht
      have h2 := length_le_of_skipField fuel h
      omega
    · rename_i ht
      have h1 := length_lt_of_skipSpace ht
      have h2 := length_le_of_skipAfter fuel h
      omega
    · cases h

end

end HostedNode.Json

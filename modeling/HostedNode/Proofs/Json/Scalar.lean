import HostedNode.Json.Reader
import Mathlib.Data.List.Basic

/-! # Strings and integers survive their text

A string is read back from its text with all its escapes (`readString_text`), and an integer in
range from its digits (`readNumber_ofNat`, `readNumber_negSucc`), if what follows does not go on
with the number (`EndsNumber`). -/

namespace HostedNode.Json

/-! ### Strings -/

theorem hexValue?_escapeDigit : ∀ n < 16, hexValue? (escapeDigit n) = some n := by decide

/-- The four digits of the escape of a control character give its number. -/
theorem hexUnit?_escape {n : Nat} (h : n < 0x20) :
    hexUnit? '0' '0' (escapeDigit (n / 16)) (escapeDigit (n % 16)) = some n := by
  have h1 := hexValue?_escapeDigit (n / 16) (by omega)
  have h2 := hexValue?_escapeDigit (n % 16) (by omega)
  have h0 : hexValue? '0' = some 0 := by decide
  simp only [hexUnit?, h0, h1, h2, Option.some.injEq]
  omega

/-- How a character stands in a text: behind a backslash as one letter or as four digits, or as it
is. -/
theorem escapeChar_cases (c : Char) :
    (∃ e, escapeChar c = ['\\', e] ∧ e ≠ 'u' ∧ shortEscape? e = some c) ∨
    (c.toNat < 0x20 ∧ escapeChar c =
      ['\\', 'u', '0', '0', escapeDigit (c.toNat / 16), escapeDigit (c.toNat % 16)]) ∨
    (escapeChar c = [c] ∧ c ≠ '"' ∧ c ≠ '\\' ∧ ¬ c.toNat < 0x20) := by
  by_cases hs : c ∈ ['"', '\\', '\x08', '\x0c', '\n', '\r', '\t']
  · left
    simp only [List.mem_cons, List.not_mem_nil, or_false] at hs
    rcases hs with rfl | rfl | rfl | rfl | rfl | rfl | rfl
    all_goals exact ⟨_, rfl, by decide, by decide⟩
  · right
    simp only [List.mem_cons, List.not_mem_nil, or_false, not_or] at hs
    obtain ⟨h1, h2, h3, h4, h5, h6, h7⟩ := hs
    simp only [escapeChar, if_neg h1, if_neg h2, if_neg h3, if_neg h4, if_neg h5, if_neg h6,
      if_neg h7]
    by_cases hc : c.toNat < 0x20
    · exact Or.inl ⟨hc, if_pos hc⟩
    · exact Or.inr ⟨if_neg hc, h1, h2, hc⟩

/-- Reading on after the text of a character has read the character. -/
theorem readStringFrom_escapeChar (c : Char) (acc rest : List Char) :
    readStringFrom acc (escapeChar c ++ rest) = readStringFrom (c :: acc) rest := by
  rcases escapeChar_cases c with ⟨e, h, hu, he⟩ | ⟨hc, h⟩ | ⟨h, hq, hb, hc⟩
  · rw [h, List.cons_append, List.cons_append, List.nil_append, readStringFrom, he]
    intro _ _ _ _ _ heq
    exact absurd heq hu
  · have hd := hexUnit?_escape hc
    simp only [h, List.cons_append, List.nil_append, readStringFrom, hd]
    rw [if_neg (by omega), if_neg (by omega), Char.ofNat_toNat]
  · rw [h, List.cons_append, List.nil_append, readStringFrom]
    · rw [if_neg hb, if_neg hc]
    all_goals simp_all

theorem readStringFrom_text (cs acc rest : List Char) :
    readStringFrom acc (cs.flatMap escapeChar ++ '"' :: rest) = .ok (acc.reverse ++ cs, rest) := by
  induction cs generalizing acc with
  | nil => simp [readStringFrom]
  | cons c cs ih =>
    rw [List.flatMap_cons, List.append_assoc, readStringFrom_escapeChar, ih]
    simp

/-- **A string is read back from its text.** -/
theorem readString_text (s : String) (rest : List Char) :
    readString (s.toList.flatMap escapeChar ++ '"' :: rest) = .ok (s, rest) := by
  rw [readString, readStringFrom_text]
  simp [Except.map]

/-! ### Integers -/

/-- What comes next does not go on with a number. -/
def EndsNumber (rest : List Char) : Prop :=
  ∀ c ∈ rest.head?, c.isDigit = false ∧ c ≠ '.' ∧ c ≠ 'e' ∧ c ≠ 'E'

theorem endsNumber_nil : EndsNumber [] := by simp [EndsNumber]

theorem endsNumber_cons {c : Char} {rest : List Char}
    (h : c.isDigit = false ∧ c ≠ '.' ∧ c ≠ 'e' ∧ c ≠ 'E') : EndsNumber (c :: rest) := by
  simpa [EndsNumber] using h

theorem natOfDigits_toDigits (n : Nat) : natOfDigits (Nat.toDigits 10 n) = n := by
  have h : (fun sofar (c : Char) => 10 * sofar + (c.toNat - '0'.toNat)) =
      fun sofar c => sofar * 10 + digitValue c := by
    funext sofar c
    rw [Nat.mul_comm]
    rfl
  rw [natOfDigits, ← h, ← Nat.ofDigitChars_eq_foldl, Nat.ofDigitChars_ten_toDigits]

theorem isDigit_toDigits (n : Nat) : ∀ c ∈ Nat.toDigits 10 n, c.isDigit = true := fun _ hc =>
  Nat.isDigit_of_mem_toDigits (by decide) (by decide) hc

/-- The first digit of a positive number is no zero. -/
theorem head?_toDigits (n : Nat) (h : n ≠ 0) : (Nat.toDigits 10 n).head? ≠ some '0' := by
  induction n using Nat.strongRecOn with
  | ind n ih =>
    by_cases hn : n < 10
    · have hdigit : ∀ m < 10, m ≠ 0 → m.digitChar ≠ '0' := by decide
      rw [Nat.toDigits_of_lt_base hn, List.head?_cons]
      exact fun heq => hdigit n hn h (Option.some.inj heq)
    · rw [Nat.toDigits_of_base_le (by decide) (by omega),
        List.head?_append_of_ne_nil _ Nat.toDigits_ne_nil]
      exact ih (n / 10) (by omega) (by omega)

theorem readDigits_append {ds rest : List Char} (hd : ∀ c ∈ ds, c.isDigit = true) (hn : ds ≠ [])
    (hr : EndsNumber rest) : readDigits (ds ++ rest) = .ok (ds, rest) := by
  have hrest : rest.takeWhile Char.isDigit = [] ∧ rest.dropWhile Char.isDigit = rest := by
    cases rest with
    | nil => exact ⟨rfl, rfl⟩
    | cons c rest => simp [(hr c (by simp)).1]
  obtain ⟨d, ds, rfl⟩ := List.exists_cons_of_ne_nil hn
  rw [readDigits, List.takeWhile_append_of_pos hd, List.dropWhile_append_of_pos hd, hrest.1,
    hrest.2, List.append_nil]

theorem readFraction_of_endsNumber {rest : List Char} (h : EndsNumber rest) :
    readFraction rest = .ok (none, rest) := by
  cases rest with
  | nil => rfl
  | cons c rest =>
    rw [readFraction]
    rintro rest' heq
    exact (h c (by simp)).2.1 (List.cons.inj heq).1

theorem readExponent_of_endsNumber {rest : List Char} (h : EndsNumber rest) :
    readExponent rest = .ok (none, rest) := by
  cases rest with
  | nil => rfl
  | cons c rest =>
    have hc := h c (by simp)
    rw [readExponent, if_neg (by simp [hc.2.2.1, hc.2.2.2])]

theorem readNumeral_toDigits (negative : Bool) (n : Nat) {rest : List Char} (h : EndsNumber rest) :
    readNumeral negative (Nat.toDigits 10 n ++ rest) =
      .ok (⟨negative, Nat.toDigits 10 n, none, none⟩, rest) := by
  have hzero : ¬ ((Nat.toDigits 10 n).head? = some '0' ∧ 1 < (Nat.toDigits 10 n).length) := by
    rintro ⟨h0, hl⟩
    by_cases hn : n = 0
    · subst hn
      simp at hl
    · exact head?_toDigits n hn h0
  simp only [readNumeral, readDigits_append (isDigit_toDigits n) Nat.toDigits_ne_nil h, bind,
    Except.bind, if_neg hzero, readFraction_of_endsNumber h, readExponent_of_endsNumber h]
  rfl

/-- Whether an integer lies in the range of integers. -/
def InRange (i : Int) : Prop := -(UInt64.size / 2) ≤ i ∧ i < UInt64.size

theorem value?_ofNat {n : Nat} (h : n < UInt64.size) :
    (⟨false, Nat.toDigits 10 n, none, none⟩ : Numeral).value? = some (.int n) := by
  unfold Numeral.value?
  dsimp only
  have hwhole : (!false && decide (n < UInt64.size)) = true := by
    rw [decide_eq_true h]
    rfl
  rw [natOfDigits_toDigits, if_pos ⟨rfl, rfl⟩, if_pos hwhole]

theorem value?_negSucc {n : Nat} (h : n + 1 ≤ UInt64.size / 2) :
    (⟨true, Nat.toDigits 10 (n + 1), none, none⟩ : Numeral).value? = some (.int (.negSucc n)) := by
  unfold Numeral.value?
  dsimp only
  have hsign : ¬ (!true && decide (n + 1 < UInt64.size)) = true := by
    rw [Bool.not_true, Bool.false_and]
    exact Bool.false_ne_true
  have hwhole : (true && decide (0 < n + 1) && decide (n + 1 ≤ UInt64.size / 2)) = true := by
    rw [decide_eq_true h, decide_eq_true n.succ_pos]
    rfl
  rw [natOfDigits_toDigits, if_pos ⟨rfl, rfl⟩, if_neg hsign, if_pos hwhole]
  rfl

/-- **An integer in range is read back from its digits.** -/
theorem readNumber_ofNat {n : Nat} (hn : InRange n) {rest : List Char} (h : EndsNumber rest) :
    readNumber false (Nat.toDigits 10 n ++ rest) = .ok (.int n, rest) := by
  have hlt : n < UInt64.size := by unfold InRange at hn; omega
  rw [readNumber, readNumeral_toDigits false n h]
  simp only [bind, Except.bind, value?_ofNat hlt]
  rfl

theorem readNumber_negSucc {n : Nat} (hn : InRange (.negSucc n)) {rest : List Char}
    (h : EndsNumber rest) :
    readNumber true (Nat.toDigits 10 (n + 1) ++ rest) = .ok (.int (.negSucc n), rest) := by
  have hle : n + 1 ≤ UInt64.size / 2 := by unfold InRange at hn; omega
  rw [readNumber, readNumeral_toDigits true (n + 1) h]
  simp only [bind, Except.bind, value?_negSucc hle]
  rfl

end HostedNode.Json

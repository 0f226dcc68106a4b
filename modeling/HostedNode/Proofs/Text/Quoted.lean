import HostedNode.Text.Quoted
import Mathlib.Data.List.Basic

/-! # Quoted texts end where they end

A character stands in quotes behind a backslash as one letter, as a code point in braces, or as it
is (`quotedChar_cases`), and whatever stands behind it, it can be told from any other
(`quotedChar_append`). A quote stands in no text without a backslash before it, so that two quoted
texts with anything behind them are equal only if the texts are (`quoted_append`). No line ends
inside of quotes (`oneLine_quoted`). -/

namespace HostedNode.Text

/-! ### Texts on one line -/

/-- No line ends in the text. -/
def OneLine (cs : List Char) : Prop := ∀ c ∈ cs, c ≠ '\n' ∧ c ≠ '\r'

instance (cs : List Char) : Decidable (OneLine cs) :=
  List.decidableBAll (fun c => c ≠ '\n' ∧ c ≠ '\r') cs

theorem OneLine.append {as bs : List Char} (ha : OneLine as) (hb : OneLine bs) :
    OneLine (as ++ bs) := by
  intro c hc
  rcases List.mem_append.mp hc with hc | hc
  · exact ha c hc
  · exact hb c hc

/-! ### Digits -/

/-- Two texts of characters of some kind, with others behind them, can be told apart. -/
theorem span_append {α : Type} {p : α → Bool} {xs ys r s : List α} (hx : ∀ x ∈ xs, p x = true)
    (hy : ∀ y ∈ ys, p y = true) (hr : ∀ c ∈ r.head?, p c = false)
    (hs : ∀ c ∈ s.head?, p c = false) (h : xs ++ r = ys ++ s) : xs = ys ∧ r = s := by
  have hnone : ∀ t : List α, (∀ c ∈ t.head?, p c = false) → t.takeWhile p = [] := by
    intro t ht
    cases t with
    | nil => rfl
    | cons c t => rw [List.takeWhile_cons_of_neg (by rw [ht c rfl]; decide)]
  have htake := congrArg (List.takeWhile p) h
  rw [List.takeWhile_append_of_pos hx, List.takeWhile_append_of_pos hy, hnone r hr, hnone s hs,
    List.append_nil, List.append_nil] at htake
  subst htake
  exact ⟨rfl, List.append_cancel_left h⟩

/-- The digits of a number: those of what is left of it, and the last one. -/
theorem toDigits_eq {b : Nat} (hb : 1 < b) (n : Nat) :
    Nat.toDigits b n =
      (if n < b then [] else Nat.toDigits b (n / b)) ++ [Nat.digitChar (n % b)] := by
  rw [Nat.toDigits_eq_if hb]
  split_ifs with h
  · rw [Nat.mod_eq_of_lt h, List.nil_append]
  · rfl

theorem mem_toDigits {b : Nat} (hb : 1 < b) {n : Nat} {c : Char} (h : c ∈ Nat.toDigits b n) :
    ∃ d < b, c = Nat.digitChar d := by
  induction n using Nat.strongRecOn with
  | ind n ih =>
    rw [toDigits_eq hb] at h
    rcases List.mem_append.mp h with h | h
    · split_ifs at h with hn
      · cases h
      · exact ih (n / b) (Nat.div_lt_self (by omega) hb) h
    · exact ⟨n % b, Nat.mod_lt n (by omega), List.mem_singleton.mp h⟩

theorem digitChar_inj : ∀ d < 16, ∀ e < 16, Nat.digitChar d = Nat.digitChar e → d = e := by decide

/-- **Numbers with the same digits are equal.** -/
theorem toDigits_inj {b : Nat} (hb : 1 < b) (hb' : b ≤ 16) {n m : Nat}
    (h : Nat.toDigits b n = Nat.toDigits b m) : n = m := by
  induction n using Nat.strongRecOn generalizing m with
  | ind n ih =>
    rw [toDigits_eq hb n, toDigits_eq hb m] at h
    obtain ⟨hfront, hlast⟩ := List.append_inj' h rfl
    have hmod : n % b = m % b := by
      have hn := Nat.mod_lt n (by omega : b > 0)
      have hm := Nat.mod_lt m (by omega : b > 0)
      exact digitChar_inj _ (by omega) _ (by omega) (List.cons.inj hlast).1
    have hdiv : n / b = m / b := by
      split_ifs at hfront with hn hm hm
      · rw [Nat.div_eq_of_lt hn, Nat.div_eq_of_lt hm]
      · exact absurd hfront.symm Nat.toDigits_ne_nil
      · exact absurd hfront Nat.toDigits_ne_nil
      · exact ih (n / b) (Nat.div_lt_self (by omega) hb) hfront
    rw [← Nat.div_add_mod n b, ← Nat.div_add_mod m b, hdiv, hmod]

/-- No digit ends a line or closes a brace. -/
theorem hexDigits_spec {n : Nat} {c : Char} (h : c ∈ hexDigits n) :
    (c ≠ '\n' ∧ c ≠ '\r') ∧ c ≠ '\x7d' := by
  have hall : ∀ d < 16, (Nat.digitChar d ≠ '\n' ∧ Nat.digitChar d ≠ '\r') ∧
      Nat.digitChar d ≠ '\x7d' := by decide
  obtain ⟨d, hd, rfl⟩ := mem_toDigits (by decide) h
  exact hall d hd

/-! ### Characters in quotes -/

/-- The characters that have a short form, with the letter behind the backslash. -/
def shortForms : List (Char × Char) :=
  [('"', '"'), ('\\', '\\'), ('\n', 'n'), ('\r', 'r'), ('\t', 't'), ('\x00', '0')]

/-- How a character stands in quotes. -/
theorem quotedChar_cases (c : Char) :
    (∃ e, (c, e) ∈ shortForms ∧ quotedChar c = ['\\', e]) ∨
      quotedChar c = '\\' :: 'u' :: '\x7b' :: (hexDigits c.toNat ++ ['\x7d']) ∨
      (c ≠ '"' ∧ c ≠ '\\' ∧ c ≠ '\n' ∧ c ≠ '\r' ∧ quotedChar c = [c]) := by
  by_cases hs : c ∈ ['"', '\\', '\n', '\r', '\t', '\x00']
  · left
    simp only [List.mem_cons, List.not_mem_nil, or_false] at hs
    rcases hs with rfl | rfl | rfl | rfl | rfl | rfl
    all_goals exact ⟨_, by decide, rfl⟩
  · right
    simp only [List.mem_cons, List.not_mem_nil, or_false, not_or] at hs
    obtain ⟨h1, h2, h3, h4, h5, h6⟩ := hs
    simp only [quotedChar, if_neg h1, if_neg h2, if_neg h3, if_neg h4, if_neg h5, if_neg h6]
    split_ifs with hhidden
    · exact Or.inl rfl
    · exact Or.inr ⟨h1, h2, h3, h4, rfl⟩

theorem oneLine_quotedChar (c : Char) : OneLine (quotedChar c) := by
  rcases quotedChar_cases c with ⟨e, he, hc⟩ | hc | ⟨-, -, hn, hr, hc⟩
  · have hall : ∀ f ∈ shortForms, OneLine ['\\', f.2] := by decide
    rw [hc]
    exact hall (c, e) he
  · have hopen : OneLine ['\\', 'u', '\x7b'] := by decide
    have hclose : OneLine ['\x7d'] := by decide
    have hdigits : OneLine (hexDigits c.toNat) := fun d hd => (hexDigits_spec hd).1
    rw [hc]
    exact hopen.append (hdigits.append hclose)
  · rw [hc]
    intro d hd
    rw [List.mem_singleton.mp hd]
    exact ⟨hn, hr⟩

/-- What a character looks like in quotes does not begin with a quote. -/
theorem quotedChar_ne_quote {c : Char} {r s : List Char} : quotedChar c ++ r ≠ '"' :: s := by
  intro h
  rcases quotedChar_cases c with ⟨e, -, hc⟩ | hc | ⟨hq, -, -, -, hc⟩
  all_goals rw [hc] at h
  · exact absurd (List.cons.inj h).1 (by decide)
  · exact absurd (List.cons.inj h).1 (by decide)
  · exact hq (List.cons.inj h).1

/-- **Two characters in quotes can be told apart, whatever stands behind them.** -/
theorem quotedChar_append {c d : Char} {r s : List Char}
    (h : quotedChar c ++ r = quotedChar d ++ s) : c = d ∧ r = s := by
  have hletters : ∀ f ∈ shortForms, f.2 ≠ 'u' ∧ ∀ g ∈ shortForms, f.2 = g.2 → f.1 = g.1 := by decide
  rcases quotedChar_cases c with ⟨e, he, hc⟩ | hc | ⟨-, hbackc, -, -, hc⟩
  all_goals rcases quotedChar_cases d with ⟨f, hf, hd⟩ | hd | ⟨-, hbackd, -, -, hd⟩
  all_goals rw [hc, hd] at h
  · obtain ⟨-, h⟩ := List.cons.inj h
    obtain ⟨hef, hrs⟩ := List.cons.inj h
    exact ⟨(hletters _ he).2 _ hf hef, hrs⟩
  · obtain ⟨-, h⟩ := List.cons.inj h
    exact absurd (List.cons.inj h).1 (hletters _ he).1
  · exact absurd (List.cons.inj h).1.symm hbackd
  · obtain ⟨-, h⟩ := List.cons.inj h
    exact absurd (List.cons.inj h).1.symm (hletters _ hf).1
  · -- the braces say where the digits end
    have hdigits : hexDigits c.toNat ++ '\x7d' :: r = hexDigits d.toNat ++ '\x7d' :: s := by
      simpa using h
    obtain ⟨hsame, hrest⟩ := span_append (p := (· ≠ '\x7d'))
      (fun x hx => by simpa using (hexDigits_spec hx).2)
      (fun x hx => by simpa using (hexDigits_spec hx).2) (by simp) (by simp) hdigits
    have hcode : c.toNat = d.toNat := toDigits_inj (by decide) (by decide) hsame
    have hchar : c = d := by rw [← Char.ofNat_toNat c, hcode, Char.ofNat_toNat]
    exact ⟨hchar, (List.cons.inj hrest).2⟩
  · exact absurd (List.cons.inj h).1.symm hbackd
  · exact absurd (List.cons.inj h).1 hbackc
  · exact absurd (List.cons.inj h).1 hbackc
  · exact List.cons.inj h

/-! ### Quoted texts -/

theorem quotedBody_append {as bs r s : List Char}
    (h : quotedBody as ++ '"' :: r = quotedBody bs ++ '"' :: s) : as = bs ∧ r = s := by
  induction as generalizing bs with
  | nil =>
    cases bs with
    | nil => exact ⟨rfl, (List.cons.inj h).2⟩
    | cons d bs =>
      rw [quotedBody, quotedBody, List.flatMap_cons, List.append_assoc] at h
      exact absurd h.symm quotedChar_ne_quote
  | cons c as ih =>
    cases bs with
    | nil =>
      rw [quotedBody, quotedBody, List.flatMap_cons, List.append_assoc] at h
      exact absurd h quotedChar_ne_quote
    | cons d bs =>
      rw [quotedBody, quotedBody, List.flatMap_cons, List.flatMap_cons, List.append_assoc,
        List.append_assoc] at h
      obtain ⟨rfl, htail⟩ := quotedChar_append h
      obtain ⟨rfl, hrest⟩ := ih htail
      exact ⟨rfl, hrest⟩

theorem toList_quoted (s : String) : (quoted s).toList = '"' :: (quotedBody s.toList ++ ['"']) := by
  rw [quoted, String.toList_ofList, List.cons_append]

/-- **Two quoted texts can be told apart, whatever stands behind them.** -/
theorem quoted_append {a b : String} {r s : List Char}
    (h : (quoted a).toList ++ r = (quoted b).toList ++ s) : a = b ∧ r = s := by
  rw [toList_quoted, toList_quoted] at h
  have hbody : quotedBody a.toList ++ '"' :: r = quotedBody b.toList ++ '"' :: s := by simpa using h
  obtain ⟨hchars, hrest⟩ := quotedBody_append hbody
  exact ⟨String.toList_inj.mp hchars, hrest⟩

theorem oneLine_quoted (s : String) : OneLine (quoted s).toList := by
  have hquote : OneLine ['"'] := by decide
  have hbody : OneLine (quotedBody s.toList) := by
    intro d hd
    obtain ⟨c, -, hdc⟩ := List.mem_flatMap.mp hd
    exact oneLine_quotedChar c d hdc
  rw [toList_quoted]
  exact hquote.append (hbody.append hquote)

end HostedNode.Text

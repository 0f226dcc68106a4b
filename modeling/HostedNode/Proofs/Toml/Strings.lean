import HostedNode.Toml.Strings
import Mathlib.Data.List.Basic

/-! # Strings survive their text in TOML

A string is read back from what is written for it, in whichever of the four kinds
(`readString_writeString`). The reader counts the marks in a row before the place where it is; so
does the writer, and what carries the proofs is that the two counts agree (`Carries`). -/

namespace HostedNode.Toml

open Text

/-! ### Escapes -/

/-- The four digits of a control character, each by its value. -/
theorem digitValue?_fourDigits : ∀ n < 128,
    (fourDigits n).map Hex.digitValue? = [some 0, some 0, some (n / 16), some (n % 16)] := by
  decide

theorem toNat_lt_of_isControl {c : Char} (h : isControl c = true) : c.toNat < 128 := by
  unfold isControl at h
  simp only [Bool.or_eq_true, Bool.and_eq_true, decide_eq_true_eq] at h
  omega

/-- What an escape is: a letter that stands for the character, or its digits. -/
theorem escapeFor_eq_some {multiline : Bool} {quotes : Nat} {c : Char} {e : List Char}
    (h : escapeFor multiline quotes c = some e) :
    (∃ d, e = ['\\', d] ∧ shortEscape? d = some c) ∨
      isControl c = true ∧ e = '\\' :: 'u' :: fourDigits c.toNat := by
  unfold escapeFor at h
  split at h
  · rename_i hc
    split at h
    · exact Or.inl ⟨'"', (Option.some.inj h).symm, by rw [hc]; rfl⟩
    · cases h
  · split at h
    · cases h
    · split at h
      · rename_i d hd
        refine Or.inl ⟨d, (Option.some.inj h).symm, ?_⟩
        obtain ⟨before, after, hsplit, -⟩ := List.lookup_eq_some_iff.mp hd
        have hmem : (c, d) ∈ [('\x08', 'b'), ('\t', 't'), ('\n', 'n'), ('\x0c', 'f'), ('\r', 'r'),
            ('\\', '\\')] := hsplit ▸ by simp
        simp only [List.mem_cons, Prod.mk.injEq, List.not_mem_nil, or_false] at hmem
        rcases hmem with ⟨rfl, rfl⟩ | ⟨rfl, rfl⟩ | ⟨rfl, rfl⟩ | ⟨rfl, rfl⟩ | ⟨rfl, rfl⟩ | ⟨rfl, rfl⟩
        all_goals rfl
      · split at h
        · rename_i hc
          exact Or.inr ⟨hc, (Option.some.inj h).symm⟩
        · cases h

namespace Quoting

/-- A character that stands for itself in a string of this kind. -/
structure Holds (q : Quoting) (c : Char) : Prop where
  ne_mark : c ≠ q.mark
  backslash : c = '\\' → q.escapes = false
  newline : c = '\n' → q.multiline = true
  special : isSpecial c = false

/-- What is not escaped is a quote, of which there are not too many, or stands for itself. -/
theorem of_escapeFor_eq_none {q : Quoting} {quotes : Nat} {c : Char} (hq : q.mark = '"')
    (h : escapeFor q.multiline quotes c = none) :
    c = '"' ∧ q.multiline = true ∧ quotes < 2 ∨ c ≠ '"' ∧ q.Holds c := by
  unfold escapeFor at h
  split at h
  · rename_i hc
    split at h
    · cases h
    · rename_i hm
      simp only [Bool.or_eq_true, Bool.not_eq_true', decide_eq_true_eq, not_or,
        Bool.not_eq_false, Nat.not_le] at hm
      exact Or.inl ⟨hc, hm.1, hm.2⟩
  · rename_i hc
    refine Or.inr ⟨hc, by rwa [hq], ?_, ?_, ?_⟩
    · rintro rfl
      cases q.multiline <;> cases h
    · rintro rfl
      cases hm : q.multiline with
      | false =>
        rw [hm] at h
        cases h
      | true => rfl
    · split at h
      · rename_i hn
        rw [hn.1]
        rfl
      · split at h
        · cases h
        · split at h
          · cases h
          · rename_i hctl
            rw [isSpecial, Bool.eq_false_iff.mpr hctl, Bool.false_and]

/-! ### Steps of the reader -/

variable {q : Quoting} {m : Nat} {acc cs rest : List Char} {c : Char}

theorem readFrom_text : q.readFrom (.text m) acc (c :: cs) =
    if m = 0 ∧ c = q.mark ∧ !q.multiline then some (acc.reverse, cs)
    else match q.textStep m c with
      | some (mode, out) => q.readFrom mode (out ++ acc) cs
      | none => none := by
  have hstart : (Mode.text m = .text 0 ∧ c = q.mark ∧ !q.multiline) ↔
      m = 0 ∧ c = q.mark ∧ !q.multiline := by
    rw [Mode.text.injEq]
  by_cases hend : m = 0 ∧ c = q.mark ∧ !q.multiline
  · rw [if_pos hend, readFrom]
    · exact if_pos (hstart.mpr hend)
    · exact fun marks h => by cases h
  · rw [if_neg hend, readFrom]
    · exact if_neg (mt hstart.mp hend)
    · exact fun marks h => by cases h

/-- A step inside of an escape. -/
theorem readFrom_step {mode mode' : Mode} {out : List Char} (hc : ∀ k, mode ≠ .closing k)
    (ht : mode ≠ .text 0) (h : q.step mode c = some (mode', out)) :
    q.readFrom mode acc (c :: cs) = q.readFrom mode' (out ++ acc) cs := by
  rw [readFrom]
  · rw [if_neg (fun hend => ht hend.1), h]
  · exact hc

theorem readFrom_holds (h : q.Holds c) :
    q.readFrom (.text m) acc (c :: cs) = q.readFrom (.text 0) (c :: acc) cs := by
  have hcontrol : c ≠ '\n' → isControl c = false := by
    intro hn
    have hs := h.special
    simpa [isSpecial, hn] using hs
  have hstep : q.textStep m c = some (.text 0, [c]) := by
    unfold textStep
    rw [if_neg h.ne_mark, if_neg]
    · by_cases hn : c = '\n'
      · rw [if_pos hn, if_pos (h.newline hn)]
      · have hr : c ≠ '\r' := by
          rintro rfl
          cases hcontrol (by decide)
        rw [if_neg hn, if_neg hr, if_neg (by simp [hcontrol hn])]
    · rintro ⟨hb, he⟩
      rw [h.backslash hb] at he
      cases he
  rw [readFrom_text, if_neg (fun hend => h.ne_mark hend.2.1), hstep]
  rfl

theorem readFrom_mark (hq : q.multiline = true) (hm : m < 2) :
    q.readFrom (.text m) acc (q.mark :: cs) = q.readFrom (.text (m + 1)) (q.mark :: acc) cs := by
  have hstep : q.textStep m q.mark = some (.text (m + 1), [q.mark]) := by
    rw [textStep, if_pos rfl, if_pos hm]
  rw [readFrom_text, if_neg (by simp [hq]), hstep]
  rfl

theorem readFrom_third (hq : q.multiline = true) :
    q.readFrom (.text 2) acc (q.mark :: cs) = q.readFrom (.closing 0) (q.mark :: acc) cs := by
  have hstep : q.textStep 2 q.mark = some (.closing 0, [q.mark]) := by
    rw [textStep, if_pos rfl, if_neg (by decide)]
  rw [readFrom_text, if_neg (by simp [hq]), hstep]
  rfl

theorem readFrom_closing (hm : m < 2) :
    q.readFrom (.closing m) acc (q.mark :: cs) =
      q.readFrom (.closing (m + 1)) (q.mark :: acc) cs := by
  rw [readFrom, if_pos ⟨rfl, hm⟩]

theorem readFrom_closed (h : rest.head? ≠ some q.mark) :
    q.readFrom (.closing m) acc rest = some ((acc.drop 3).reverse, rest) := by
  cases rest with
  | nil => rw [readFrom]
  | cons c rest =>
    have hc : c ≠ q.mark := fun hc => h (by rw [hc]; rfl)
    rw [readFrom, if_neg (fun hmark => hc hmark.1)]

/-- **The marks behind a string end it**, however many of its own stand before them. -/
theorem readFrom_marks (hm : if q.multiline then m ≤ 2 else m = 0)
    (h : rest.head? ≠ some q.mark) :
    q.readFrom (.text m) acc (q.marks ++ rest) = some (acc.reverse, rest) := by
  unfold marks
  cases hq : q.multiline with
  | false =>
    rw [hq] at hm
    obtain rfl : m = 0 := hm
    show q.readFrom (.text 0) acc (q.mark :: rest) = _
    rw [readFrom_text, if_pos ⟨rfl, rfl, by simp [hq]⟩]
  | true =>
    rw [hq] at hm
    show q.readFrom (.text m) acc (q.mark :: q.mark :: q.mark :: rest) = _
    match m, hm with
    | 0, _ =>
      rw [readFrom_mark hq (by decide), readFrom_mark hq (by decide), readFrom_third hq,
        readFrom_closed h]
      rfl
    | 1, _ =>
      rw [readFrom_mark hq (by decide), readFrom_third hq, readFrom_closing (by decide),
        readFrom_closed h]
      rfl
    | 2, _ =>
      rw [readFrom_third hq, readFrom_closing (by decide), readFrom_closing (by decide),
        readFrom_closed h]
      rfl
    | m + 3, hm => simp at hm

/-- The digits of a code point. -/
theorem readFrom_code {n : Nat} (hn : n < 128) :
    q.readFrom (.code 4 0) acc (fourDigits n ++ cs) =
      q.readFrom (.text 0) (Char.ofNat n :: acc) cs := by
  have hdigits := digitValue?_fourDigits n hn
  obtain ⟨a, b, d, e, hfour⟩ : ∃ a b d e, fourDigits n = [a, b, d, e] := by
    have hlen := congrArg List.length hdigits
    simp only [List.length_map, List.length_cons, List.length_nil] at hlen
    match fourDigits n, hlen with
    | [a, b, d, e], _ => exact ⟨a, b, d, e, rfl⟩
  rw [hfour] at hdigits ⊢
  simp only [List.map_cons, List.map_nil, List.cons.injEq, and_true] at hdigits
  obtain ⟨ha, hb, hd, he⟩ := hdigits
  have hsum : n / 16 * 16 + n % 16 = n := by omega
  have hvalid : n.isValidChar := Or.inl (by omega)
  have h1 : q.step (.code 4 0) a = some (.code 3 0, []) := by simp [step, codeStep, ha]
  have h2 : q.step (.code 3 0) b = some (.code 2 0, []) := by simp [step, codeStep, hb]
  have h3 : q.step (.code 2 0) d = some (.code 1 (n / 16), []) := by simp [step, codeStep, hd]
  have h4 : q.step (.code 1 (n / 16)) e = some (.text 0, [Char.ofNat n]) := by
    simp [step, codeStep, he, hsum, hvalid]
  rw [List.cons_append, List.cons_append, List.cons_append, List.cons_append, List.nil_append,
    readFrom_step (by simp) (by simp) h1, readFrom_step (by simp) (by simp) h2,
    readFrom_step (by simp) (by simp) h3, readFrom_step (by simp) (by simp) h4]
  rfl

theorem readFrom_escape (he : q.escapes = true) (hq : q.mark = '"') {quotes : Nat} {e : List Char}
    (h : escapeFor q.multiline quotes c = some e) :
    q.readFrom (.text m) acc (e ++ cs) = q.readFrom (.text 0) (c :: acc) cs := by
  have hback : ∀ tail, q.readFrom (.text m) acc ('\\' :: tail) = q.readFrom .escape acc tail := by
    intro tail
    have hstep : q.textStep m '\\' = some (.escape, []) := by
      rw [textStep, if_neg (by rw [hq]; decide), if_pos ⟨rfl, he⟩]
    rw [readFrom_text, if_neg (by rw [hq]; simp), hstep]
    rfl
  rcases escapeFor_eq_some h with ⟨d, rfl, hd⟩ | ⟨hc, rfl⟩
  · have hletter : q.step .escape d = some (.text 0, [c]) := by simp [step, escapeStep, hd]
    rw [List.cons_append, List.cons_append, List.nil_append, hback,
      readFrom_step (by simp) (by simp) hletter]
    rfl
  · have hdigits : q.step .escape 'u' = some (.code 4 0, []) := by
      simp only [step, escapeStep, show shortEscape? 'u' = none from rfl,
        show codeDigits? 'u' = some 4 from rfl]
    rw [List.cons_append, List.cons_append, hback, readFrom_step (by simp) (by simp) hdigits,
      List.nil_append, readFrom_code (toNat_lt_of_isControl hc), Char.ofNat_toNat]

/-! ### Whole strings -/

/-- The text carries the characters: a reader behind `m` marks has read them behind the text, and
is behind `k` marks then. -/
def Carries (q : Quoting) (m : Nat) (text cs : List Char) (k : Nat) : Prop :=
  ∀ acc rest,
    q.readFrom (.text m) acc (text ++ rest) = q.readFrom (.text k) (cs.reverse ++ acc) rest

theorem Carries.cons {m k l : Nat} {text cs : List Char} {c : Char} (piece : List Char)
    (hc : ∀ acc rest,
      q.readFrom (.text m) acc (piece ++ rest) = q.readFrom (.text k) (c :: acc) rest)
    (h : q.Carries k text cs l) : q.Carries m (piece ++ text) (c :: cs) l := by
  intro acc rest
  rw [List.append_assoc, hc, h (c :: acc) rest, List.reverse_cons, List.append_assoc]
  rfl

/-- The number of marks that may stand before a place in a string. -/
def Fits (q : Quoting) (m : Nat) : Prop := if q.multiline then m ≤ 2 else m = 0

theorem fits_zero (q : Quoting) : q.Fits 0 := by
  unfold Fits
  split <;> omega

/-- With escapes, every text can be carried. -/
theorem carries_escapedFrom (he : q.escapes = true) (hq : q.mark = '"') (cs : List Char) {m : Nat}
    (hm : q.Fits m) : ∃ k, q.Fits k ∧ q.Carries m (escapedFrom q.multiline m cs) cs k := by
  induction cs generalizing m with
  | nil => exact ⟨m, hm, fun _ _ => rfl⟩
  | cons c cs ih =>
    rw [escapedFrom]
    cases h : escapeFor q.multiline m c with
    | some e =>
      obtain ⟨k, hk, hcs⟩ := ih q.fits_zero
      exact ⟨k, hk, .cons e (fun _ _ => readFrom_escape he hq h) hcs⟩
    | none =>
      rcases of_escapeFor_eq_none hq h with ⟨rfl, hmulti, hlt⟩ | ⟨hne, hholds⟩
      · have hfits : q.Fits (m + 1) := by
          rw [Fits, hmulti]
          exact hlt
        obtain ⟨k, hk, hcs⟩ := ih hfits
        refine ⟨k, hk, ?_⟩
        have hmark : ∀ acc rest, q.readFrom (.text m) acc (q.mark :: rest) =
            q.readFrom (.text (m + 1)) (q.mark :: acc) rest := fun _ _ => readFrom_mark hmulti hlt
        rw [hq] at hmark
        exact .cons ['"'] hmark hcs
      · obtain ⟨k, hk, hcs⟩ := ih q.fits_zero
        refine ⟨k, hk, ?_⟩
        simp only [if_neg hne]
        exact .cons [c] (fun _ _ => readFrom_holds hholds) hcs

/-- Without escapes, a text can be carried that has nothing special and not too many marks. -/
theorem carries_self (he : q.escapes = false) (cs : List Char) {m : Nat} (hm : q.Fits m)
    (hs : ∀ c ∈ cs, isSpecial c = false)
    (hone : q.multiline = false → q.mark ∉ cs ∧ '\n' ∉ cs)
    (hthree : q.multiline = true → hasThree q.mark m cs = false) :
    ∃ k, q.Fits k ∧ q.Carries m cs cs k := by
  induction cs generalizing m with
  | nil => exact ⟨m, hm, fun _ _ => rfl⟩
  | cons c cs ih =>
    have hs' : ∀ d ∈ cs, isSpecial d = false := fun d hd => hs d (by simp [hd])
    have hone' : q.multiline = false → q.mark ∉ cs ∧ '\n' ∉ cs := by
      intro hq
      obtain ⟨h1, h2⟩ := hone hq
      exact ⟨fun h => h1 (by simp [h]), fun h => h2 (by simp [h])⟩
    by_cases hc : c = q.mark
    · subst hc
      cases hq : q.multiline with
      | false => exact absurd (by simp) (hone hq).1
      | true =>
        have hthree := hthree hq
        rw [hasThree, if_pos rfl, Bool.or_eq_false_iff] at hthree
        have hlt : m < 2 := by
          have hm2 : m ≤ 2 := by simpa [Fits, hq] using hm
          have hne : m ≠ 2 := by simpa using hthree.1
          omega
        have hfits : q.Fits (m + 1) := by
          rw [Fits, hq]
          exact hlt
        obtain ⟨k, hk, hcs⟩ := ih hfits hs' hone' fun _ => hthree.2
        exact ⟨k, hk, .cons [q.mark] (fun _ _ => readFrom_mark hq hlt) hcs⟩
    · have hholds : q.Holds c := by
        refine ⟨hc, fun _ => he, ?_, hs c (by simp)⟩
        rintro rfl
        by_contra hq
        exact (hone (Bool.eq_false_iff.mpr hq)).2 (by simp)
      obtain ⟨k, hk, hcs⟩ := ih q.fits_zero hs' hone' fun hq => by
        have hthree := hthree hq
        rwa [hasThree, if_neg hc] at hthree
      exact ⟨k, hk, .cons [c] (fun _ _ => readFrom_holds hholds) hcs⟩

/-- **A reader ends with the marks behind a text that carries the string.** -/
theorem read_of_carries {k : Nat} {text : List Char} (h : q.Carries 0 text cs k) (hk : q.Fits k)
    (hrest : rest.head? ≠ some q.mark) :
    q.read (text ++ (q.marks ++ rest)) = some (String.ofList cs, rest) := by
  rw [read, h [] (q.marks ++ rest), readFrom_marks hk hrest]
  simp

/-- What stands between the marks. -/
def body (q : Quoting) (cs : List Char) : List Char :=
  if q.escapes then escapedFrom q.multiline 0 cs else cs

/-- The first character between the marks, unless it is a backslash. -/
theorem head?_escapedFrom {multiline : Bool} {m : Nat} {cs : List Char} {d : Char}
    (h : (escapedFrom multiline m cs).head? = some d) :
    d = '\\' ∨ d ∈ cs ∧ escapeFor multiline m d = none := by
  cases cs with
  | nil => cases h
  | cons c cs =>
    rw [escapedFrom] at h
    cases he : escapeFor multiline m c with
    | some e =>
      rw [he] at h
      refine Or.inl ?_
      rcases escapeFor_eq_some he with ⟨l, rfl, -⟩ | ⟨-, rfl⟩
      · exact (Option.some.inj h).symm
      · exact (Option.some.inj h).symm
    | none =>
      rw [he] at h
      obtain rfl : c = d := Option.some.inj h
      exact Or.inr ⟨by simp, he⟩

end Quoting

/-! ### Strings of any kind -/

/-- The chosen kind, with what makes it fit the text. -/
inductive Suits (cs : List Char) : Quoting → Prop where
  | basic : Suits cs .basic
  | multilineBasic : Suits cs .multilineBasic
  | literal : (∀ c ∈ cs, isSpecial c = false) → '\'' ∉ cs → '\n' ∉ cs → Suits cs .literal
  | multilineLiteral : (∀ c ∈ cs, isSpecial c = false) → hasThree '\'' 0 cs = false →
    Suits cs .multilineLiteral

theorem suits_quotingFor (cs : List Char) : Suits cs (quotingFor cs) := by
  have hspecial : (!cs.any isSpecial) = true → ∀ c ∈ cs, isSpecial c = false := by
    intro h c hc
    simp only [Bool.not_eq_true', List.any_eq_false, Bool.not_eq_true] at h
    exact h c hc
  unfold quotingFor
  dsimp only
  split
  · exact .basic
  · split
    · rename_i h
      simp only [Bool.and_eq_true] at h
      exact .literal (hspecial h.1.1) (by simpa using h.2) (by simpa using h.1.2)
    · split
      · exact .multilineBasic
      · split
        · rename_i h
          simp only [Bool.and_eq_true] at h
          exact .multilineLiteral (hspecial h.1) (by simpa using h.2)
        · split
          · exact .multilineBasic
          · exact .basic

/-- A kind that suits a text carries it. -/
theorem Suits.carries {cs : List Char} {q : Quoting} (h : Suits cs q) :
    ∃ k, q.Fits k ∧ q.Carries 0 (q.body cs) cs k := by
  cases h with
  | basic => exact Quoting.carries_escapedFrom rfl rfl cs (Quoting.fits_zero _)
  | multilineBasic => exact Quoting.carries_escapedFrom rfl rfl cs (Quoting.fits_zero _)
  | literal hs hmark hline =>
    exact Quoting.carries_self rfl cs (Quoting.fits_zero _) hs (fun _ => ⟨hmark, hline⟩)
      fun h => nomatch h
  | multilineLiteral hs hthree =>
    exact Quoting.carries_self rfl cs (Quoting.fits_zero _) hs (fun h => nomatch h)
      fun _ => hthree

theorem skipNewline_of_head? {cs : List Char} (hn : cs.head? ≠ some '\n')
    (hr : cs.head? ≠ some '\r') : skipNewline cs = cs := by
  unfold skipNewline
  split
  · exact absurd rfl hn
  · exact absurd rfl hr
  · rfl

/-- One mark that no two others follow begins a string on one line. -/
theorem readString_of_lineString {cs : List Char} {c : Char} (h : ∀ rest, cs ≠ c :: c :: rest) :
    readString (c :: cs) = readLineString (c :: cs) := by
  unfold readString
  split
  · rename_i heq
    obtain ⟨rfl, rfl⟩ := List.cons.inj heq
    exact absurd rfl (h _)
  · rename_i heq
    obtain ⟨rfl, rfl⟩ := List.cons.inj heq
    exact absurd rfl (h _)
  · rfl

/-- The first character between the marks of a kind over lines is no break, if the string has no
newline. -/
theorem Suits.head?_body {cs : List Char} {q : Quoting} {d : Char} (h : Suits cs q)
    (hq : q.multiline = true) (hn : '\n' ∉ cs) (hd : (q.body cs).head? = some d) :
    d ≠ '\n' ∧ d ≠ '\r' := by
  cases h with
  | basic => cases hq
  | literal => cases hq
  | multilineLiteral hs _ =>
    have hmem : d ∈ cs := List.mem_of_mem_head? hd
    have hspecial := hs d hmem
    constructor
    · rintro rfl
      exact hn hmem
    · rintro rfl
      cases hspecial
  | multilineBasic =>
    rcases Quoting.head?_escapedFrom hd with rfl | ⟨hmem, hnone⟩
    · decide
    · constructor
      · rintro rfl
        exact hn hmem
      · rintro rfl
        cases hnone

/-- Between the marks of a kind over lines no newline is lost. -/
theorem Suits.skipNewline {cs rest : List Char} {q : Quoting} (h : Suits cs q)
    (hq : q.multiline = true) (hrest : rest.head? = some q.mark) :
    skipNewline ((if q.multiline ∧ cs.contains '\n' then ['\n'] else []) ++ (q.body cs ++ rest)) =
      q.body cs ++ rest := by
  by_cases hn : cs.contains '\n' = true
  · rw [if_pos ⟨hq, hn⟩]
    rfl
  · rw [if_neg (fun hboth => hn hboth.2), List.nil_append]
    have hnot : '\n' ∉ cs := by simpa using hn
    have hmark : q.mark ≠ '\n' ∧ q.mark ≠ '\r' := by
      cases h <;> decide
    have hall : ∀ d, (q.body cs ++ rest).head? = some d → d ≠ '\n' ∧ d ≠ '\r' := by
      intro d hd
      cases hb : q.body cs with
      | nil =>
        rw [hb, List.nil_append, hrest] at hd
        rwa [← Option.some.inj hd]
      | cons e b =>
        rw [hb] at hd
        exact h.head?_body hq hnot (by rw [hb]; exact hd)
    exact skipNewline_of_head? (fun hd => (hall _ hd).1 rfl) fun hd => (hall _ hd).2 rfl

/-- A string on one line does not begin with another mark. -/
theorem Suits.head?_ne {cs : List Char} {q : Quoting} (h : Suits cs q) (hq : q.multiline = false) :
    (q.body cs).head? ≠ some q.mark := by
  intro hd
  cases h with
  | multilineBasic => cases hq
  | multilineLiteral => cases hq
  | literal _ hmark _ => exact hmark (List.mem_of_mem_head? hd)
  | basic =>
    rcases Quoting.head?_escapedFrom hd with heq | ⟨-, hnone⟩
    · cases heq
    · cases hnone

/-- One mark begins a string of a kind on one line. -/
theorem Suits.readString_line {cs rest : List Char} {q : Quoting} (h : Suits cs q)
    (hq : q.multiline = false) (hrest : rest.head? ≠ some q.mark) :
    readString (q.mark :: (q.body cs ++ (q.mark :: rest))) =
      q.read (q.body cs ++ (q.mark :: rest)) := by
  have hne : ∀ more, q.body cs ++ (q.mark :: rest) ≠ q.mark :: q.mark :: more := by
    intro more heq
    cases hbody : q.body cs with
    | nil =>
      rw [hbody, List.nil_append, List.cons.injEq] at heq
      exact hrest (by rw [heq.2]; rfl)
    | cons d b =>
      rw [hbody, List.cons_append, List.cons.injEq] at heq
      refine h.head?_ne hq ?_
      rw [hbody, ← heq.1]
      rfl
  rw [readString_of_lineString hne]
  cases h with
  | multilineBasic => cases hq
  | multilineLiteral => cases hq
  | _ => rfl

/-- Three marks begin a string of a kind over lines, behind a first newline. -/
theorem Suits.readString_marks {cs : List Char} {q : Quoting} (h : Suits cs q)
    (hq : q.multiline = true) (text : List Char) :
    readString (q.marks ++ text) = q.read (Toml.skipNewline text) := by
  cases h with
  | basic => cases hq
  | literal => cases hq
  | _ => rfl

/-- **A string is read back from what is written for it**, if no more marks follow. -/
theorem readString_writeString (s : String) {rest : List Char} (hb : rest.head? ≠ some '"')
    (hl : rest.head? ≠ some '\'') : readString (writeString s ++ rest) = some (s, rest) := by
  have h := suits_quotingFor s.toList
  unfold writeString
  generalize quotingFor s.toList = q at h ⊢
  obtain ⟨k, hk, hcs⟩ := h.carries
  have hrest : rest.head? ≠ some q.mark := by
    cases h <;> assumption
  have hread : q.read (q.body s.toList ++ (q.marks ++ rest)) = some (s, rest) := by
    rw [Quoting.read_of_carries hcs hk hrest, String.ofList_toList]
  have hwrite : q.write s.toList ++ rest = q.marks ++
      ((if q.multiline ∧ s.toList.contains '\n' then ['\n'] else []) ++
        (q.body s.toList ++ (q.marks ++ rest))) := by
    simp only [Quoting.write, Quoting.body, List.append_assoc]
  rw [hwrite]
  cases hq : q.multiline with
  | false =>
    have hmarks : q.marks = [q.mark] := by
      rw [Quoting.marks, hq]
      rfl
    rw [hmarks] at hread ⊢
    rw [if_neg (by simp), List.nil_append]
    exact (h.readString_line hq hrest).trans hread
  | true =>
    have hmarks : (q.marks ++ rest).head? = some q.mark := by
      rw [Quoting.marks, hq]
      rfl
    have hskip := h.skipNewline hq hmarks
    rw [hq] at hskip
    rw [h.readString_marks hq, hskip, hread]

/-- What is written for a string begins with a quote of either kind. -/
theorem exists_quote (s : String) :
    ∃ (q : Char) (cs : List Char), (q = '"' ∨ q = '\'') ∧ writeString s = q :: cs := by
  have h := suits_quotingFor s.toList
  unfold writeString
  generalize quotingFor s.toList = q at h ⊢
  cases h with
  | basic => exact ⟨'"', _, Or.inl rfl, rfl⟩
  | multilineBasic => exact ⟨'"', _, Or.inl rfl, rfl⟩
  | literal => exact ⟨'\'', _, Or.inr rfl, rfl⟩
  | multilineLiteral => exact ⟨'\'', _, Or.inr rfl, rfl⟩

end HostedNode.Toml

import HostedNode.Text.Blank
import Mathlib.Data.List.TakeWhile

/-! # Words of a text

Blank characters at either end of a text are no part of its words, so that a text and the trimmed
text have the same words (`words_trim`). Words put behind each other with a space between two of
them are read back as they were (`words_intercalate`), and such a text has nothing to trim
(`trim_intercalate`). In general, the words of a text are the ones that the text sets apart by
blanks, however many and of whatever kind (`words_eq_iff`). -/

namespace HostedNode.Text

/-! ### The steps of the cut -/

theorem wordsFrom_end {word : List Char} (hword : word ≠ []) :
    wordsFrom word [] = [word.reverse] := by
  rw [wordsFrom, if_neg (by simpa using hword)]

/-- A blank ends the word that is being read. -/
theorem wordsFrom_blank {b : Char} (hb : isBlank b = true) (word cs : List Char) :
    wordsFrom word (b :: cs) = wordsFrom word [] ++ wordsFrom [] cs := by
  have hstep : wordsFrom word (b :: cs) =
      if word.isEmpty then wordsFrom [] cs else word.reverse :: wordsFrom [] cs := if_pos hb
  rw [hstep]
  cases word with
  | nil => rfl
  | cons c word => rfl

/-- Any other character is one more of the word. -/
theorem wordsFrom_letter {c : Char} (hc : isBlank c = false) (word cs : List Char) :
    wordsFrom word (c :: cs) = wordsFrom (c :: word) cs := by
  rw [wordsFrom, hc, if_neg (by decide)]

/-! ### Blanks at the ends -/

theorem wordsFrom_dropWhile (cs : List Char) :
    wordsFrom [] (cs.dropWhile isBlank) = wordsFrom [] cs := by
  induction cs with
  | nil => rfl
  | cons c cs ih =>
    by_cases hc : isBlank c = true
    · rw [List.dropWhile_cons_of_pos hc, ih, wordsFrom_blank hc]
      rfl
    · rw [List.dropWhile_cons_of_neg hc]

theorem wordsFrom_blanks {bs : List Char} (hbs : ∀ c ∈ bs, isBlank c = true) (word : List Char) :
    wordsFrom word bs = wordsFrom word [] := by
  induction bs generalizing word with
  | nil => rfl
  | cons b bs ih =>
    have hb : isBlank b = true := hbs b List.mem_cons_self
    have hrest : wordsFrom [] bs = [] := ih (fun c hc => hbs c (List.mem_cons_of_mem _ hc)) []
    rw [wordsFrom_blank hb, hrest, List.append_nil]

/-- Blanks behind a text are no words. -/
theorem wordsFrom_append_blanks {bs : List Char} (hbs : ∀ c ∈ bs, isBlank c = true)
    (word cs : List Char) : wordsFrom word (cs ++ bs) = wordsFrom word cs := by
  induction cs generalizing word with
  | nil => exact wordsFrom_blanks hbs word
  | cons c cs ih => rw [List.cons_append, wordsFrom, wordsFrom, ih, ih]

theorem wordsFrom_trimChars (cs : List Char) : wordsFrom [] (trimChars cs) = wordsFrom [] cs := by
  have hsplit : cs.dropWhile isBlank =
      trimChars cs ++ ((cs.dropWhile isBlank).reverse.takeWhile isBlank).reverse := by
    rw [trimChars, ← List.reverse_append, List.takeWhile_append_dropWhile, List.reverse_reverse]
  have hblanks : ∀ c ∈ ((cs.dropWhile isBlank).reverse.takeWhile isBlank).reverse,
      isBlank c = true := fun c hc => List.mem_takeWhile_imp (List.mem_reverse.mp hc)
  rw [← wordsFrom_dropWhile cs, hsplit, wordsFrom_append_blanks hblanks]

/-- **The words of a text are those of the trimmed text.** -/
theorem words_trim (s : String) : words (trim s) = words s := by
  rw [words, words, trim, String.toList_ofList, wordsFrom_trimChars]

/-! ### Words with spaces between them -/

/-- A text that is one word. -/
structure IsWord (w : String) : Prop where
  nonempty : w.toList ≠ []
  noBlank : ∀ c ∈ w.toList, isBlank c = false

theorem isBlank_space : isBlank ' ' = true := by decide

/-- A word is read up to a blank. -/
theorem wordsFrom_append_blank {b : Char} (hb : isBlank b = true) {cs : List Char}
    (hcs : ∀ c ∈ cs, isBlank c = false) {word : List Char} (hne : word ++ cs ≠ [])
    (rest : List Char) :
    wordsFrom word (cs ++ b :: rest) = (word.reverse ++ cs) :: wordsFrom [] rest := by
  induction cs generalizing word with
  | nil =>
    have hword : word ≠ [] := by simpa using hne
    rw [List.nil_append, wordsFrom_blank hb, wordsFrom_end hword, List.append_nil]
    rfl
  | cons c cs ih =>
    have hc : isBlank c = false := hcs c List.mem_cons_self
    rw [List.cons_append, wordsFrom_letter hc,
      ih (fun d hd => hcs d (List.mem_cons_of_mem _ hd)) (by simp)]
    simp

theorem wordsFrom_word {cs : List Char} (hcs : ∀ c ∈ cs, isBlank c = false) {word : List Char}
    (hne : word ++ cs ≠ []) : wordsFrom word cs = [word.reverse ++ cs] := by
  have hspace := wordsFrom_append_blank isBlank_space hcs hne []
  have hblank : wordsFrom word (cs ++ [' ']) = wordsFrom word cs :=
    wordsFrom_append_blanks (fun c hc => by rw [List.mem_singleton.mp hc, isBlank_space]) word cs
  rw [← hblank, hspace]
  rfl

theorem toList_intercalate_cons (w : String) {ws : List String} (hws : ws ≠ []) :
    (" ".intercalate (w :: ws)).toList = w.toList ++ ' ' :: (" ".intercalate ws).toList := by
  rw [String.intercalate_cons_of_ne_nil hws, String.toList_append, String.toList_append,
    List.append_assoc]
  rfl

/-- **Words with spaces between them are read back.** -/
theorem words_intercalate {ws : List String} (hws : ∀ w ∈ ws, IsWord w) :
    words (" ".intercalate ws) = ws := by
  induction ws with
  | nil =>
    rw [String.intercalate_nil]
    rfl
  | cons w ws ih =>
    have hw : IsWord w := hws w List.mem_cons_self
    have hne : [] ++ w.toList ≠ [] := hw.nonempty
    have hrest := ih fun v hv => hws v (List.mem_cons_of_mem _ hv)
    by_cases hnil : ws = []
    · rw [hnil, String.intercalate_singleton, words, wordsFrom_word hw.noBlank hne]
      simp
    · rw [words] at hrest
      rw [words, toList_intercalate_cons w hnil,
        wordsFrom_append_blank isBlank_space hw.noBlank hne, List.map_cons, hrest]
      simp

/-- There is no blank at either end. -/
structure Tight (cs : List Char) : Prop where
  first : ∀ c, cs.head? = some c → isBlank c = false
  last : ∀ c, cs.getLast? = some c → isBlank c = false

theorem dropWhile_of_head {cs : List Char} (h : ∀ c, cs.head? = some c → isBlank c = false) :
    cs.dropWhile isBlank = cs := by
  cases cs with
  | nil => rfl
  | cons c cs => exact List.dropWhile_cons_of_neg (by simp [h c rfl])

theorem trimChars_of_tight {cs : List Char} (h : Tight cs) : trimChars cs = cs := by
  have hlast : ∀ c, cs.reverse.head? = some c → isBlank c = false := by
    intro c hc
    rw [List.head?_reverse] at hc
    exact h.last c hc
  rw [trimChars, dropWhile_of_head h.first, dropWhile_of_head hlast, List.reverse_reverse]

theorem IsWord.tight {w : String} (h : IsWord w) : Tight w.toList where
  first c hc := h.noBlank c (List.mem_of_head? hc)
  last c hc := h.noBlank c (List.mem_of_getLast? hc)

theorem Tight.append {as bs : List Char} (ha : Tight as) (hb : Tight bs) (has : as ≠ [])
    (hbs : bs ≠ []) (mid : List Char) : Tight (as ++ (mid ++ bs)) := by
  constructor
  · intro c hc
    rw [List.head?_append, Option.or_of_isSome (by simpa using has)] at hc
    exact ha.first c hc
  · intro c hc
    rw [List.getLast?_append, List.getLast?_append, Option.or_assoc,
      Option.or_of_isSome (by simpa using hbs)] at hc
    exact hb.last c hc

theorem tight_intercalate {ws : List String} (hws : ∀ w ∈ ws, IsWord w) :
    Tight (" ".intercalate ws).toList := by
  induction ws with
  | nil =>
    rw [String.intercalate_nil]
    exact ⟨by simp, by simp⟩
  | cons w ws ih =>
    have hw : IsWord w := hws w List.mem_cons_self
    have hrest : ∀ v ∈ ws, IsWord v := fun v hv => hws v (List.mem_cons_of_mem _ hv)
    by_cases hnil : ws = []
    · rw [hnil, String.intercalate_singleton]
      exact hw.tight
    · have hne : (" ".intercalate ws).toList ≠ [] := by
        intro hempty
        have hwords := words_intercalate hrest
        rw [words, hempty] at hwords
        exact hnil hwords.symm
      rw [toList_intercalate_cons w hnil]
      exact hw.tight.append (ih hrest) hw.nonempty hne [' ']

/-- **Such a text has nothing to trim.** -/
theorem trim_intercalate {ws : List String} (hws : ∀ w ∈ ws, IsWord w) :
    trim (" ".intercalate ws) = " ".intercalate ws := by
  rw [trim, trimChars_of_tight (tight_intercalate hws), String.ofList_toList]

/-! ### Words set apart by blanks -/

/-- The characters are the words in their order, with blanks before the first one, between any two
of them and behind the last one. -/
inductive SetApart : List String → List Char → Prop where
  | nil {bs : List Char} (hbs : ∀ c ∈ bs, isBlank c = true) : SetApart [] bs
  | cons {w : String} {ws : List String} {bs cs : List Char} (hbs : ∀ c ∈ bs, isBlank c = true)
      (hw : IsWord w) (hgap : ∀ c ∈ cs.head?, isBlank c = true) (hrest : SetApart ws cs) :
      SetApart (w :: ws) (bs ++ (w.toList ++ cs))

namespace SetApart

theorem blank {ws : List String} {cs : List Char} (h : SetApart ws cs) {b : Char}
    (hb : isBlank b = true) : SetApart ws (b :: cs) := by
  have hmore : ∀ {bs : List Char}, (∀ c ∈ bs, isBlank c = true) →
      ∀ c ∈ b :: bs, isBlank c = true := by
    intro bs hbs c hc
    rcases List.mem_cons.mp hc with rfl | hc
    · exact hb
    · exact hbs c hc
  cases h with
  | nil hbs => exact .nil (hmore hbs)
  | cons hbs hw hgap hrest => exact .cons (hmore hbs) hw hgap hrest

/-- Words that are set apart are what is cut out. -/
theorem wordsFrom {ws : List String} {cs : List Char} (h : SetApart ws cs) :
    wordsFrom [] cs = ws.map String.toList := by
  induction h with
  | nil hbs => exact wordsFrom_blanks hbs []
  | @cons w ws bs cs hbs hw hgap hrest ih =>
    have hblanks : ∀ (bs cs : List Char), (∀ c ∈ bs, isBlank c = true) →
        Text.wordsFrom [] (bs ++ cs) = Text.wordsFrom [] cs := by
      intro bs cs hbs
      rw [← wordsFrom_dropWhile, List.dropWhile_append_of_pos hbs, wordsFrom_dropWhile]
    have hne : [] ++ w.toList ≠ [] := hw.nonempty
    rw [hblanks bs _ hbs, List.map_cons, ← ih]
    cases cs with
    | nil =>
      rw [List.append_nil, wordsFrom_word hw.noBlank hne]
      rfl
    | cons b cs =>
      have hb : isBlank b = true := hgap b rfl
      rw [wordsFrom_append_blank hb hw.noBlank hne]
      exact congrArg (w.toList :: ·) (hblanks [b] cs (by simpa using hb)).symm

end SetApart

/-- The word that is being read, up to the next blank, and what is cut out behind it. -/
def CutsWord (word cs : List Char) : Prop :=
  ∃ (rest : List (List Char)) (pre post : List Char), cs = pre ++ post ∧
    (∀ c ∈ pre, isBlank c = false) ∧ (∀ c ∈ post.head?, isBlank c = true) ∧
    wordsFrom word cs = (word.reverse ++ pre) :: rest ∧ SetApart (rest.map String.ofList) post

namespace CutsWord

/-- The word is complete at a blank and at the end of the text. -/
theorem stop {word cs : List Char} (hword : word ≠ []) (hgap : ∀ c ∈ cs.head?, isBlank c = true)
    (hrest : SetApart ((wordsFrom [] cs).map String.ofList) cs) : CutsWord word cs := by
  have hcut : wordsFrom word cs = wordsFrom word [] ++ wordsFrom [] cs := by
    cases cs with
    | nil => exact (List.append_nil _).symm
    | cons b cs =>
      have hb : isBlank b = true := hgap b rfl
      rw [wordsFrom_blank hb, wordsFrom_blank hb []]
      rfl
  refine ⟨wordsFrom [] cs, [], cs, rfl, by simp, hgap, ?_, hrest⟩
  rw [hcut, wordsFrom_end hword, List.append_nil]
  rfl

theorem letter {c : Char} (hc : isBlank c = false) {word cs : List Char}
    (h : CutsWord (c :: word) cs) : CutsWord word (c :: cs) := by
  obtain ⟨rest, pre, post, rfl, hpre, hgap, hcut, hrest⟩ := h
  refine ⟨rest, c :: pre, post, rfl, ?_, hgap, ?_, hrest⟩
  · intro d hd
    rcases List.mem_cons.mp hd with rfl | hd
    · exact hc
    · exact hpre d hd
  · rw [wordsFrom_letter hc, hcut, List.reverse_cons, List.append_assoc]
    rfl

/-- A word that begins here is the first of the words that are set apart. -/
theorem setApart {c : Char} (hc : isBlank c = false) {cs : List Char}
    (h : CutsWord [] (c :: cs)) :
    SetApart ((wordsFrom [] (c :: cs)).map String.ofList) (c :: cs) := by
  obtain ⟨rest, pre, post, hsplit, hpre, hgap, hcut, hrest⟩ := h
  have hpiece : pre ≠ [] := by
    rintro rfl
    rw [List.nil_append] at hsplit
    have hblank := hgap c (by rw [← hsplit]; rfl)
    rw [hc] at hblank
    cases hblank
  have hword : IsWord (String.ofList pre) := by
    constructor
    · rwa [String.toList_ofList]
    · rwa [String.toList_ofList]
  have hapart : SetApart (String.ofList pre :: rest.map String.ofList)
      ([] ++ ((String.ofList pre).toList ++ post)) := .cons (by simp) hword hgap hrest
  rw [hcut, hsplit]
  rw [String.toList_ofList] at hapart
  exact hapart

end CutsWord

/-- What is cut out is set apart, both from a blank on and in the middle of a word. -/
theorem setApart_and_cutsWord (cs : List Char) :
    SetApart ((wordsFrom [] cs).map String.ofList) cs ∧
      ∀ word : List Char, word ≠ [] → CutsWord word cs := by
  induction cs with
  | nil =>
    have hapart : SetApart ((wordsFrom [] []).map String.ofList) [] := .nil (by simp)
    exact ⟨hapart, fun word hword => .stop hword (by simp) hapart⟩
  | cons c cs ih =>
    obtain ⟨hrest, hcuts⟩ := ih
    cases hc : isBlank c with
    | true =>
      have hapart : SetApart ((wordsFrom [] (c :: cs)).map String.ofList) (c :: cs) := by
        rw [wordsFrom_blank hc]
        exact hrest.blank hc
      exact ⟨hapart, fun word hword => .stop hword (by simpa using hc) hapart⟩
    | false =>
      have hcut : ∀ word : List Char, CutsWord word (c :: cs) :=
        fun word => .letter hc (hcuts (c :: word) (List.cons_ne_nil _ _))
      exact ⟨(hcut []).setApart hc, fun word _ => hcut word⟩

/-- **The words of a text are the words that are set apart in it.** -/
theorem words_eq_iff {s : String} {ws : List String} : words s = ws ↔ SetApart ws s.toList := by
  constructor
  · rintro rfl
    exact (setApart_and_cutsWord s.toList).1
  · intro h
    rw [words, h.wordsFrom, List.map_map]
    simp

end HostedNode.Text

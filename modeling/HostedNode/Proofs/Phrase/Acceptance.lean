import HostedNode.Proofs.Phrase.Encoding
import HostedNode.Services.Error

/-! # Which texts are phrases

Words `Encodes` an entropy if the bits of their places in the list are those of the entropy and of
the checksum. For every entropy in one of the five sizes these are the words of `ofEntropy`, and no
others (`encodes_iff`). Reading words finds exactly these (`toEntropy_eq_ok_iff`), and what it says
of all others is determined by the words: it is the first one of the three faults that they have
(`toEntropy_eq_error_iff`). So a text is accepted if and only if its words, in whatever way blanks
set them apart, encode an entropy (`phrases_accepted`). -/

namespace HostedNode.Phrase

open Hash Text

/-! ### Words that encode an entropy -/

/-- The words encode these bytes: the numbers of eleven bits that are the places of the words in the
list are, behind each other, the bits of the bytes, and then the leading bits of their digest, one
for every four bytes. -/
structure Encodes (entropy : Bytes) (ws : List String) : Prop where
  size : entropy.length ∈ [16, 20, 24, 28, 32]
  bits : ∃ ps : List Nat, ps.map (fun p => wordList[p]?) = ws.map some ∧
    ps.flatMap (Bits.ofNat 11) =
      Bits.ofBytes entropy ++ (Bits.ofBytes (sha256 entropy)).take (entropy.length / 4)

/-- The places of words are places in the list. -/
theorem places_of_map {ps : List Nat} {ws : List String}
    (h : ps.map (fun p => wordList[p]?) = ws.map some) :
    (∀ p ∈ ps, p < 2048) ∧ ps.map wordAt = ws := by
  induction ps generalizing ws with
  | nil =>
    obtain rfl : ws = [] := by simpa using h
    exact ⟨by simp, rfl⟩
  | cons p ps ih =>
    cases ws with
    | nil => cases h
    | cons w ws =>
      obtain ⟨hp, hps⟩ := List.cons.inj h
      obtain ⟨hlt, hword⟩ := List.getElem?_eq_some_iff.mp hp
      obtain ⟨hall, hmap⟩ := ih hps
      refine ⟨?_, by rw [List.map_cons, hmap, wordAt_eq hlt, hword]⟩
      intro q hq
      rcases List.mem_cons.mp hq with rfl | hq
      · rwa [length_wordList] at hlt
      · exact hall q hq

theorem map_wordAt {ps : List Nat} (h : ∀ p ∈ ps, p < 2048) :
    ps.map (fun p => wordList[p]?) = (ps.map wordAt).map some := by
  rw [List.map_map]
  refine List.map_congr_left fun p hp => ?_
  have hlt : p < wordList.length := by rw [length_wordList]; exact h p hp
  rw [Function.comp_apply, wordAt_eq hlt, List.getElem?_eq_getElem hlt]

theorem exists_sized_iff {entropy : Bytes} :
    (∃ k, Sized k entropy) ↔ entropy.length ∈ [16, 20, 24, 28, 32] := by
  constructor
  · rintro ⟨k, hlength, hleast, hmost⟩
    have hk : k = 4 ∨ k = 5 ∨ k = 6 ∨ k = 7 ∨ k = 8 := by omega
    rcases hk with rfl | rfl | rfl | rfl | rfl <;> simp [hlength]
  · intro h
    have hcases : entropy.length = 16 ∨ entropy.length = 20 ∨ entropy.length = 24 ∨
        entropy.length = 28 ∨ entropy.length = 32 := by simpa using h
    exact ⟨entropy.length / 4, by omega, by omega, by omega⟩

theorem length_bits_of_places (ps : List Nat) :
    (ps.flatMap (Bits.ofNat 11)).length = 11 * ps.length := by
  induction ps with
  | nil => rfl
  | cons p ps ih =>
    rw [List.flatMap_cons, List.length_append, Bits.length_ofNat, ih, List.length_cons]
    omega

/-- Numbers of eleven bits are read back from their bits. -/
theorem places_of_bits {ps : List Nat} (h : ∀ p ∈ ps, p < 2048) :
    (chunks 10 (ps.flatMap (Bits.ofNat 11))).map Bits.toNat = ps := by
  have hpieces : chunks 10 (ps.flatMap (Bits.ofNat 11) ++ []) = ps.map (Bits.ofNat 11) :=
    chunks_flatMap (fun p => Bits.length_ofNat 11 p) ps (Nat.zero_le 10)
  rw [List.append_nil] at hpieces
  rw [hpieces, List.map_map]
  conv_rhs => rw [← List.map_id ps]
  refine List.map_congr_left fun p hp => ?_
  rw [Function.comp_apply, Bits.toNat_ofNat, id]
  exact Nat.mod_eq_of_lt (h p hp)

/-- **An entropy in one of the sizes is encoded by one list of words.** -/
theorem encodes_iff {entropy : Bytes} {ws : List String} :
    Encodes entropy ws ↔ entropy.length ∈ [16, 20, 24, 28, 32] ∧ ws = ofEntropy entropy := by
  constructor
  · rintro ⟨hsize, ps, hmap, hbits⟩
    obtain ⟨hall, hwords⟩ := places_of_map hmap
    have hplaces : places entropy = ps := by
      rw [places, checksum, ← hbits, places_of_bits hall]
    refine ⟨hsize, ?_⟩
    rw [← hwords, ← hplaces]
    rfl
  · rintro ⟨hsize, rfl⟩
    obtain ⟨k, hk⟩ := exists_sized_iff.mpr hsize
    exact ⟨hsize, places entropy, map_wordAt hk.places_lt, hk.flatMap_places⟩

theorem Encodes.sized {entropy : Bytes} {ws : List String} (h : Encodes entropy ws) :
    ∃ k, Sized k entropy ∧ ws = ofEntropy entropy := by
  obtain ⟨hsize, hws⟩ := encodes_iff.mp h
  obtain ⟨k, hk⟩ := exists_sized_iff.mpr hsize
  exact ⟨k, hk, hws⟩

/-- Words that encode an entropy have a right number, and all are in the list. -/
theorem Encodes.known {entropy : Bytes} {ws : List String} (h : Encodes entropy ws) :
    ws.length ∈ wordCounts ∧ ∀ w ∈ ws, w ∈ wordList := by
  obtain ⟨k, hk, rfl⟩ := h.sized
  refine ⟨by rw [hk.length_ofEntropy]; exact hk.count_mem, fun w hw => ?_⟩
  obtain ⟨p, hp, rfl⟩ := List.mem_map.mp hw
  exact wordAt_mem (hk.places_lt p hp)

/-! ### What is found -/

/-- The word with this number is the first one that is not in the list. -/
structure FirstUnknown (ws : List String) (i : Nat) : Prop where
  unknown : ∃ w, ws[i]? = some w ∧ w ∉ wordList
  known : ∀ j < i, ∀ w, ws[j]? = some w → w ∈ wordList

theorem idxOf?_eq_some_iff {w : String} {p : Nat} :
    wordList.idxOf? w = some p ↔ wordList[p]? = some w := by
  constructor
  · intro h
    obtain ⟨hp, hword, -⟩ := List.idxOf?_eq_some_iff.mp h
    rw [List.getElem?_eq_getElem hp, hword]
  · intro h
    obtain ⟨hp, rfl⟩ := List.getElem?_eq_some_iff.mp h
    have hfound := idxOf?_wordAt (i := p) (by rwa [length_wordList] at hp)
    rwa [wordAt_eq hp] at hfound

/-- Reading a word that is in the list, and the words behind it. -/
theorem findWords_cons {w : String} {p : Nat} (hp : wordList.idxOf? w = some p) (i : Nat)
    (ws : List String) : findWords i (w :: ws) = (findWords (i + 1) ws).map (p :: ·) := by
  rw [findWords, hp]

theorem FirstUnknown.cons {w : String} {ws : List String} {j : Nat} (hw : w ∈ wordList)
    (h : FirstUnknown ws j) : FirstUnknown (w :: ws) (j + 1) := by
  refine ⟨by simpa using h.unknown, fun i hi v hv => ?_⟩
  cases i with
  | zero =>
    obtain rfl : w = v := by simpa using hv
    exact hw
  | succ i => exact h.known i (by omega) v (by simpa using hv)

/-- The words are found, all at their places, or there is a first one that is not. -/
theorem findWords_cases (i : Nat) (ws : List String) :
    (∃ ps, findWords i ws = .ok ps ∧ ps.map (fun p => wordList[p]?) = ws.map some) ∨
      ∃ j, findWords i ws = .error (.unknownWord (i + j)) ∧ FirstUnknown ws j := by
  induction ws generalizing i with
  | nil => exact .inl ⟨[], rfl, rfl⟩
  | cons w ws ih =>
    cases hp : wordList.idxOf? w with
    | none =>
      have hnot : w ∉ wordList := List.idxOf?_eq_none_iff.mp hp
      refine .inr ⟨0, by rw [findWords, hp]; rfl, ⟨w, rfl, hnot⟩, ?_⟩
      intro j hj
      omega
    | some p =>
      have hword := idxOf?_eq_some_iff.mp hp
      rcases ih (i + 1) with ⟨ps, hfound, hps⟩ | ⟨j, hfound, hfirst⟩
      · refine .inl ⟨p :: ps, ?_, by rw [List.map_cons, List.map_cons, hword, hps]⟩
        rw [findWords_cons hp, hfound]
        rfl
      · refine .inr ⟨j + 1, ?_, hfirst.cons (List.mem_of_getElem? hword)⟩
        rw [findWords_cons hp, hfound, Nat.add_right_comm, Nat.add_assoc]
        rfl

/-! ### What is wrong with words -/

/-- What can be wrong with words: their number is none of the five; or it is, and a word, this one
being the first, is not in the list; or all of them are, and they encode nothing. -/
def Faulty (ws : List String) : Error → Prop
  | .wordCount n => n = ws.length ∧ ws.length ∉ wordCounts
  | .unknownWord i => ws.length ∈ wordCounts ∧ FirstUnknown ws i
  | .checksum =>
    ws.length ∈ wordCounts ∧ (∀ w ∈ ws, w ∈ wordList) ∧ ∀ entropy, ¬ Encodes entropy ws

theorem FirstUnknown.not_all {ws : List String} {i : Nat} (h : FirstUnknown ws i) :
    ¬ ∀ w ∈ ws, w ∈ wordList := by
  obtain ⟨w, hw, hnot⟩ := h.unknown
  exact fun hall => hnot (hall w (List.mem_of_getElem? hw))

theorem FirstUnknown.le {ws : List String} {i j : Nat} (hi : FirstUnknown ws i)
    (hj : FirstUnknown ws j) : i ≤ j := by
  obtain ⟨w, hw, hnot⟩ := hj.unknown
  exact Nat.le_of_not_lt fun hlt => hnot (hi.known j hlt w hw)

/-- No two things are wrong with the same words. -/
theorem Faulty.unique {ws : List String} {e e' : Error} (h : Faulty ws e) (h' : Faulty ws e') :
    e = e' := by
  cases e <;> cases e'
  case wordCount.wordCount => rw [h.1, h'.1]
  case unknownWord.unknownWord => rw [Nat.le_antisymm (h.2.le h'.2) (h'.2.le h.2)]
  case checksum.checksum => rfl
  case unknownWord.checksum => exact absurd h'.2.1 h.2.not_all
  case checksum.unknownWord => exact absurd h.2.1 h'.2.not_all
  case wordCount.unknownWord => exact absurd h'.1 h.2
  case wordCount.checksum => exact absurd h'.1 h.2
  case unknownWord.wordCount => exact absurd h.1 h'.2
  case checksum.wordCount => exact absurd h.1 h'.2

theorem Encodes.not_faulty {entropy : Bytes} {ws : List String} (h : Encodes entropy ws)
    (e : Error) : ¬ Faulty ws e := by
  intro hfault
  obtain ⟨hcount, hall⟩ := h.known
  cases e with
  | wordCount n => exact hfault.2 hcount
  | unknownWord i => exact hfault.2.not_all hall
  | checksum => exact hfault.2.2 entropy h

/-! ### Reading words -/

/-- What is left of reading words that were found. -/
theorem toEntropy_of_found {ws : List String} (hcount : ws.length ∈ wordCounts)
    {ps : List Nat} (hfound : findWords 0 ws = .ok ps) :
    toEntropy ws =
      let all := ps.flatMap (Bits.ofNat 11)
      let entropy := Bits.toBytes (all.take (ws.length / 3 * 32))
      if all.drop (ws.length / 3 * 32) = checksum entropy then .ok entropy
      else .error .checksum := by
  rw [toEntropy, if_pos (List.contains_iff_mem.mpr hcount), hfound]
  rfl

/-- Bits that are those of words in the right number, with the right ones at the end, are those of
the bytes in front. -/
theorem encodes_of_drop {ws : List String} (hcount : ws.length ∈ wordCounts)
    {ps : List Nat} (hps : ps.map (fun p => wordList[p]?) = ws.map some)
    (hdrop : (ps.flatMap (Bits.ofNat 11)).drop (ws.length / 3 * 32) =
      checksum (Bits.toBytes ((ps.flatMap (Bits.ofNat 11)).take (ws.length / 3 * 32)))) :
    Encodes (Bits.toBytes ((ps.flatMap (Bits.ofNat 11)).take (ws.length / 3 * 32))) ws := by
  have hlength : ps.length = ws.length := by simpa using congrArg List.length hps
  have hbits := length_bits_of_places ps
  have hcases := mem_wordCounts.mp hcount
  have htake : ((ps.flatMap (Bits.ofNat 11)).take (ws.length / 3 * 32)).length =
      8 * (ws.length / 3 * 4) := by
    rw [List.length_take]
    omega
  obtain ⟨hsize, hback⟩ := Bits.ofBytes_toBytes (ws.length / 3 * 4) htake
  refine ⟨?_, ps, hps, ?_⟩
  · rw [hsize]
    rcases hcases with h | h | h | h | h <;> rw [h] <;> decide
  · rw [hback, ← checksum, ← hdrop, List.take_append_drop]

/-- Words encode an entropy, which is what reading them finds, or one thing is wrong with them, and
this is what reading them says. -/
theorem toEntropy_cases (ws : List String) :
    (∃ entropy, Encodes entropy ws ∧ toEntropy ws = .ok entropy) ∨
      ∃ e, Faulty ws e ∧ toEntropy ws = .error e := by
  by_cases hcount : ws.length ∈ wordCounts
  · rcases findWords_cases 0 ws with ⟨ps, hfound, hps⟩ | ⟨j, hfound, hfirst⟩
    · have hread := toEntropy_of_found hcount hfound
      simp only at hread
      split at hread
      · next hdrop => exact .inl ⟨_, encodes_of_drop hcount hps hdrop, hread⟩
      · next hdrop =>
        obtain ⟨hall, hwords⟩ := places_of_map hps
        refine .inr ⟨.checksum, ⟨hcount, ?_, fun entropy hencodes => ?_⟩, hread⟩
        · rw [← hwords]
          intro w hw
          obtain ⟨p, hp, rfl⟩ := List.mem_map.mp hw
          exact wordAt_mem (hall p hp)
        · obtain ⟨k, hk, hws⟩ := hencodes.sized
          rw [hws, toEntropy_ofEntropy hk] at hread
          cases hread
    · refine .inr ⟨.unknownWord j, ⟨hcount, hfirst⟩, ?_⟩
      rw [toEntropy, if_pos (List.contains_iff_mem.mpr hcount), hfound, Nat.zero_add]
      rfl
  · refine .inr ⟨.wordCount ws.length, ⟨rfl, hcount⟩, ?_⟩
    rw [toEntropy, if_neg (mt List.contains_iff_mem.mp hcount)]

/-- **Reading words finds what they encode.** -/
theorem toEntropy_eq_ok_iff {ws : List String} {entropy : Bytes} :
    toEntropy ws = .ok entropy ↔ Encodes entropy ws := by
  constructor
  · intro h
    rcases toEntropy_cases ws with ⟨found, hfound, hread⟩ | ⟨e, -, hread⟩
    · rw [h] at hread
      rwa [Except.ok.inj hread]
    · rw [h] at hread
      cases hread
  · intro h
    obtain ⟨k, hk, rfl⟩ := h.sized
    exact toEntropy_ofEntropy hk

/-- **Reading words says what is wrong with them.** -/
theorem toEntropy_eq_error_iff {ws : List String} {e : Error} :
    toEntropy ws = .error e ↔ Faulty ws e := by
  rcases toEntropy_cases ws with ⟨entropy, hencodes, hread⟩ | ⟨e', hfault, hread⟩
  · rw [hread]
    exact ⟨fun h => (by cases h), fun h => absurd h (hencodes.not_faulty e)⟩
  · rw [hread]
    constructor
    · rintro ⟨⟩
      exact hfault
    · intro h
      rw [h.unique hfault]

theorem Encodes.unique {entropy entropy' : Bytes} {ws : List String} (h : Encodes entropy ws)
    (h' : Encodes entropy' ws) : entropy = entropy' := by
  rw [← toEntropy_eq_ok_iff] at h h'
  exact Except.ok.inj (h.symm.trans h')

/-! ### Seeds -/

theorem length_seedOfWords (ws : List String) : (seedOfWords ws).length = 64 :=
  length_stretch length_sha512 _ _ _

theorem toSeed_eq_ok_iff {s : String} {seed : Bytes} :
    toSeed s = .ok seed ↔
      (∃ entropy, Encodes entropy (words s)) ∧ seed = seedOfWords (words s) := by
  simp only [toSeed, ← toEntropy_eq_ok_iff]
  cases toEntropy (words s) with
  | ok entropy => simp only [Except.map, Except.ok.injEq, exists_eq', true_and, eq_comm]
  | error e => simp [Except.map]

theorem toSeed_eq_error_iff {s : String} {e : Error} :
    toSeed s = .error e ↔ Faulty (words s) e := by
  rw [toSeed, ← toEntropy_eq_error_iff]
  cases toEntropy (words s) <;> simp [Except.map]

/-- **A phrase that is made encodes the bytes at the front.** -/
theorem generate_append {entropy : Bytes} {ws : List String} (h : Encodes entropy ws)
    (more : Bytes) : generate ws.length (entropy ++ more) = .ok (text ws) := by
  have hcount := List.contains_iff_mem.mpr h.known.1
  obtain ⟨k, hk, rfl⟩ := h.sized
  have hfront : (ofEntropy entropy).length / 3 * 4 = entropy.length := by
    rw [hk.length_ofEntropy, hk.length_eq]
    omega
  rw [generate, if_pos hcount, hfront, List.take_left]

/-- If there are bytes enough, those at the front are encoded by this number of words. -/
theorem exists_encodes {count : Nat} (hcount : count ∈ wordCounts) {random : Bytes}
    (hrandom : count / 3 * 4 ≤ random.length) :
    ∃ entropy more ws, random = entropy ++ more ∧ Encodes entropy ws ∧ ws.length = count := by
  obtain ⟨hsized, hthree⟩ := Sized.take hcount hrandom
  refine ⟨random.take (count / 3 * 4), random.drop (count / 3 * 4), _,
    (List.take_append_drop _ _).symm, encodes_iff.mpr ⟨exists_sized_iff.mp ⟨_, hsized⟩, rfl⟩, ?_⟩
  rw [hsized.length_ofEntropy, hthree]

theorem toSeed_text {entropy : Bytes} {ws : List String} (h : Encodes entropy ws) :
    toSeed (text ws) = .ok (seedOfWords ws) := by
  have hwords : words (text ws) = ws := by
    obtain ⟨k, hk, rfl⟩ := h.sized
    exact words_text hk
  rw [toSeed, hwords, toEntropy_eq_ok_iff.mpr h]
  rfl

/-! ### Texts -/

/-- **A text is accepted if and only if its words encode an entropy.** This entropy is the only one,
and the seed, which has 64 bytes, is made from the words; in what way blanks set them apart does not
matter. What is said of another text is the first thing that is wrong: the number of the words, then
a word that is not in the list, then the checksum. Each entropy is encoded, by words that are
accepted, and the phrases that are made for the five numbers of words are these. -/
theorem phrases_accepted :
    (∀ s : String,
      (∀ seed, (toSeed s).mapError ServiceError.invalidMnemonic = .ok seed ↔
        (∃ entropy, Encodes entropy (words s)) ∧ seed = seedOfWords (words s)) ∧
      (∀ entropy entropy', Encodes entropy (words s) → Encodes entropy' (words s) →
        entropy = entropy') ∧
      (∀ e, (toSeed s).mapError ServiceError.invalidMnemonic = .error e ↔
        ∃ cause, e = .invalidMnemonic cause ∧ Faulty (words s) cause) ∧
      (seedOfWords (words s)).length = 64 ∧
      SetApart (words s) s.toList ∧
      ∀ t : String, SetApart (words s) t.toList → toSeed t = toSeed s) ∧
    (∀ entropy : Bytes, entropy.length ∈ [16, 20, 24, 28, 32] →
      Encodes entropy (ofEntropy entropy) ∧
      toSeed (text (ofEntropy entropy)) = .ok (seedOfWords (ofEntropy entropy)) ∧
      ∀ more, generate (entropy.length / 4 * 3) (entropy ++ more) =
        .ok (text (ofEntropy entropy))) ∧
    ∀ count ∈ [12, 15, 18, 21, 24], ∀ random : Bytes, count / 3 * 4 ≤ random.length →
      ∃ entropy more ws, random = entropy ++ more ∧ Encodes entropy ws ∧ ws.length = count ∧
        generate count random = .ok (text ws) := by
  refine ⟨fun s => ⟨fun seed => ?_, fun entropy entropy' => Encodes.unique, fun e => ?_,
    length_seedOfWords _, words_eq_iff.mp rfl, fun t ht => ?_⟩, fun entropy hsize => ?_,
    fun count hcount random hrandom => ?_⟩
  · rw [← toSeed_eq_ok_iff]
    cases toSeed s <;> simp [Except.mapError]
  · have hcause : (∃ cause, e = .invalidMnemonic cause ∧ Faulty (words s) cause) ↔
        ∃ cause, e = .invalidMnemonic cause ∧ toSeed s = .error cause := by
      simp only [toSeed_eq_error_iff]
    rw [hcause]
    cases toSeed s <;> simp [Except.mapError, eq_comm]
  · rw [toSeed, toSeed, words_eq_iff.mpr ht]
  · have hencodes : Encodes entropy (ofEntropy entropy) := encodes_iff.mpr ⟨hsize, rfl⟩
    obtain ⟨k, hk⟩ := exists_sized_iff.mpr hsize
    have hcount : (ofEntropy entropy).length = entropy.length / 4 * 3 := by
      rw [hk.length_ofEntropy, hk.length_eq]
      omega
    refine ⟨hencodes, toSeed_text hencodes, fun more => ?_⟩
    rw [← hcount, generate_append hencodes more]
  · obtain ⟨entropy, more, ws, rfl, hencodes, rfl⟩ := exists_encodes hcount hrandom
    exact ⟨entropy, more, ws, rfl, hencodes, rfl, generate_append hencodes more⟩

/-- The phrase for sixteen zeros is made of them, and accepted with other blanks as well. -/
theorem phrases_accepted_zeros :
    let zeros : Bytes := List.replicate 16 0
    let phrase := "abandon abandon abandon abandon abandon abandon " ++
      "abandon abandon abandon abandon abandon about"
    zeros.length ∈ [16, 20, 24, 28, 32] ∧ generate 12 zeros = .ok phrase ∧
      (toSeed ("\t" ++ phrase ++ " \n")).mapError ServiceError.invalidMnemonic =
        .ok (seedOfWords (words phrase)) := by
  intro zeros phrase
  have hsize : zeros.length ∈ [16, 20, 24, 28, 32] := by decide
  have htext : text (ofEntropy zeros) = phrase := by decide +kernel
  have hphrase : words phrase = ofEntropy zeros := by
    rw [← htext]
    exact words_text ⟨(rfl : _ = 4 * 4), by decide, by decide⟩
  have hbefore : ∀ c ∈ "\t".toList, isBlank c = true := List.all_eq_true.mp (by decide)
  have hbehind : ∀ c ∈ " \n".toList, isBlank c = true := List.all_eq_true.mp (by decide)
  have hwords : words ("\t" ++ phrase ++ " \n") = words phrase := by
    rw [words, words, String.toList_append, String.toList_append,
      wordsFrom_append_blanks hbehind, ← wordsFrom_dropWhile,
      List.dropWhile_append_of_pos hbefore, wordsFrom_dropWhile]
  obtain ⟨hencodes, -, hmade⟩ := phrases_accepted.2.1 zeros hsize
  obtain ⟨hseed, -⟩ := phrases_accepted.1 ("\t" ++ phrase ++ " \n")
  have hcount : zeros.length / 4 * 3 = 12 := by decide
  have hmade := hmade []
  rw [List.append_nil, htext, hcount] at hmade
  rw [hwords, hphrase] at hseed
  exact ⟨hsize, hmade, (hseed _).mpr ⟨⟨zeros, hencodes⟩, by rw [hphrase]⟩⟩

end HostedNode.Phrase

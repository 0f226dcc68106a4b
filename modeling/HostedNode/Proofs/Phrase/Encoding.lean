import HostedNode.Phrase.Seed
import HostedNode.Proofs.Bits
import HostedNode.Proofs.Hash.Sha2
import HostedNode.Proofs.Phrase.WordList

/-! # Phrases are read back

The words for an entropy are read back as this entropy (`toEntropy_ofEntropy`), and from the text of
the words they are cut out again, so that a phrase that was made is one that gives a seed
(`isPhrase_generate`). A seed does not depend on the blanks around a phrase (`toSeed_trim`). -/

namespace HostedNode.Phrase

open Hash Text

theorem mem_wordCounts {n : Nat} :
    n ∈ wordCounts ↔ n = 12 ∨ n = 15 ∨ n = 18 ∨ n = 21 ∨ n = 24 := by simp [wordCounts]

/-- An entropy of `k` groups of four bytes, in one of the sizes that a phrase can have. -/
structure Sized (k : Nat) (entropy : Bytes) : Prop where
  length_eq : entropy.length = 4 * k
  least : 4 ≤ k
  most : k ≤ 8

namespace Sized

/-- The bytes at the front, if there are enough of them, that a number of words is made from. -/
theorem take {count : Nat} {random : Bytes} (hcount : count ∈ wordCounts)
    (hrandom : count / 3 * 4 ≤ random.length) :
    Sized (count / 3) (random.take (count / 3 * 4)) ∧ 3 * (count / 3) = count := by
  have hcases := mem_wordCounts.mp hcount
  have hlen : (random.take (count / 3 * 4)).length = 4 * (count / 3) := by
    rw [List.length_take]
    omega
  exact ⟨⟨hlen, by omega, by omega⟩, by omega⟩

variable {k : Nat} {entropy : Bytes}

theorem count_mem (h : Sized k entropy) : 3 * k ∈ wordCounts := by
  obtain ⟨-, hleast, hmost⟩ := h
  rw [mem_wordCounts]
  omega

theorem length_checksum (h : Sized k entropy) : (checksum entropy).length = k := by
  have hlen := h.length_eq
  have hmost := h.most
  rw [checksum, List.length_take, Bits.length_ofBytes, length_sha256]
  omega

/-- Every four bytes make three words. -/
theorem length_bits (h : Sized k entropy) :
    (Bits.ofBytes entropy ++ checksum entropy).length = 3 * k * (10 + 1) := by
  have hlen := h.length_eq
  rw [List.length_append, Bits.length_ofBytes, h.length_checksum]
  omega

theorem length_places (h : Sized k entropy) : (places entropy).length = 3 * k := by
  rw [places, List.length_map]
  exact (chunks_of_length (3 * k) h.length_bits).1

theorem places_lt (h : Sized k entropy) : ∀ i ∈ places entropy, i < 2048 := by
  intro i hi
  rw [places] at hi
  obtain ⟨piece, hpiece, rfl⟩ := List.mem_map.mp hi
  have hlen := (chunks_of_length (3 * k) h.length_bits).2.2 piece hpiece
  have hlt := Bits.toNat_lt piece
  rwa [hlen] at hlt

/-- The bits of the places are those that the places were made of. -/
theorem flatMap_places (h : Sized k entropy) :
    (places entropy).flatMap (Bits.ofNat 11) = Bits.ofBytes entropy ++ checksum entropy := by
  obtain ⟨-, hflat, hsize⟩ := chunks_of_length (3 * k) h.length_bits
  have hback : ∀ piece ∈ chunks 10 (Bits.ofBytes entropy ++ checksum entropy),
      Bits.ofNat 11 (Bits.toNat piece) = piece := by
    intro piece hpiece
    have hpiece := hsize piece hpiece
    have hbits := Bits.ofNat_toNat piece
    rwa [hpiece] at hbits
  rw [places, List.flatMap_map, List.flatMap_def, List.map_congr_left hback, List.map_id', hflat]

theorem length_ofEntropy (h : Sized k entropy) : (ofEntropy entropy).length = 3 * k := by
  rw [ofEntropy, List.length_map, h.length_places]

theorem isWord (h : Sized k entropy) : ∀ w ∈ ofEntropy entropy, IsWord w := by
  intro w hw
  rw [ofEntropy] at hw
  obtain ⟨i, hi, rfl⟩ := List.mem_map.mp hw
  exact isWord_of_mem (wordAt_mem (h.places_lt i hi))

end Sized

/-! ### Reading words -/

theorem findWords_wordAt {ps : List Nat} (h : ∀ p ∈ ps, p < 2048) (i : Nat) :
    findWords i (ps.map wordAt) = .ok ps := by
  induction ps generalizing i with
  | nil => rfl
  | cons p ps ih =>
    have hp := idxOf?_wordAt (h p List.mem_cons_self)
    have hps := ih (fun q hq => h q (List.mem_cons_of_mem _ hq)) (i + 1)
    rw [List.map_cons, findWords, hp]
    simp only [hps]
    rfl

/-- **The words for an entropy stand for this entropy.** -/
theorem toEntropy_ofEntropy {k : Nat} {entropy : Bytes} (h : Sized k entropy) :
    toEntropy (ofEntropy entropy) = .ok entropy := by
  have hfound : findWords 0 (ofEntropy entropy) = .ok (places entropy) :=
    findWords_wordAt h.places_lt 0
  have hcount : wordCounts.contains (3 * k) = true := List.contains_iff_mem.mpr h.count_mem
  have hlen : (Bits.ofBytes entropy).length = 3 * k / 3 * 32 := by
    rw [Bits.length_ofBytes, h.length_eq]
    omega
  unfold toEntropy
  rw [h.length_ofEntropy, if_pos hcount, hfound]
  simp only [bind, Except.bind, h.flatMap_places]
  rw [← hlen, List.take_left, List.drop_left, Bits.toBytes_ofBytes, if_pos rfl]
  rfl

/-! ### Texts of phrases -/

theorem words_text {k : Nat} {entropy : Bytes} (h : Sized k entropy) :
    words (text (ofEntropy entropy)) = ofEntropy entropy :=
  words_intercalate h.isWord

/-- **Blanks around a phrase do not change its seed.** -/
theorem toSeed_trim (s : String) : toSeed (trim s) = toSeed s := by
  rw [toSeed, toSeed, words_trim]

/-- The text is a phrase of some number of words: it is accepted, and has nothing to trim. -/
structure IsPhrase (count : Nat) (phrase : String) : Prop where
  count_eq : (words phrase).length = count
  accepted : ∃ seed, toSeed phrase = .ok seed
  trimmed : trim phrase = phrase

theorem isPhrase_text {k : Nat} {entropy : Bytes} (h : Sized k entropy) :
    IsPhrase (3 * k) (text (ofEntropy entropy)) where
  count_eq := by rw [words_text h, h.length_ofEntropy]
  accepted := by
    refine ⟨seedOfWords (ofEntropy entropy), ?_⟩
    rw [toSeed, words_text h, toEntropy_ofEntropy h]
    rfl
  trimmed := trim_intercalate h.isWord

/-- **A phrase that is made is a phrase**, if there are random bytes enough. -/
theorem isPhrase_generate {count : Nat} {random : Bytes} (hcount : wordCounts.contains count = true)
    (hrandom : count / 3 * 4 ≤ random.length) :
    ∃ phrase, generate count random = .ok phrase ∧ IsPhrase count phrase := by
  obtain ⟨hsized, hthree⟩ := Sized.take (List.contains_iff_mem.mp hcount) hrandom
  have hphrase := isPhrase_text hsized
  rw [hthree] at hphrase
  exact ⟨_, if_pos hcount, hphrase⟩

end HostedNode.Phrase

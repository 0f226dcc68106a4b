import HostedNode.Phrase.WordList
import HostedNode.Proofs.Text.Blank
import Mathlib.Data.List.Nodup

/-! # The list of words

There are 2048 words. None is empty and no two are alike, since they stand in alphabetical order,
and each is of small letters only. So a place in the list and the word there stand for each other
(`idxOf?_wordAt`). The list is looked through twice, by its bytes; all else follows. -/

namespace HostedNode.Phrase

open Text

set_option maxRecDepth 10000 in
theorem length_wordList : wordList.length = 2048 := rfl

/-- The bytes of a word. -/
def bytesOf (w : String) : List UInt8 := w.toByteArray.data.toList

/-- Whether a byte is a small letter. -/
def isLetter (b : UInt8) : Bool := 97 ≤ b && b ≤ 122

set_option maxRecDepth 10000 in
theorem wordList_ordered : ([] :: wordList.map bytesOf).IsChain (· < ·) := by decide +kernel

theorem wordList_letters : (wordList.all fun w => (bytesOf w).all isLetter) = true := by
  decide +kernel

theorem nodup_bytes : ([] :: wordList.map bytesOf).Nodup := by
  have hpairs := List.isChain_iff_pairwise.mp wordList_ordered
  refine hpairs.imp fun {v w} hlt heq => ?_
  rw [heq] at hlt
  exact List.lt_irrefl w hlt

theorem nodup_wordList : wordList.Nodup := (List.nodup_cons.mp nodup_bytes).2.of_map bytesOf

theorem bytesOf_eq (w : String) : bytesOf w = w.toList.flatMap String.utf8EncodeChar := by
  rw [bytesOf, ← String.utf8Encode_toList, List.utf8Encode]
  simp

/-- No character all of whose bytes are small letters is blank. -/
theorem isBlank_of_letters {c : Char} (h : (String.utf8EncodeChar c).all isLetter = true) :
    isBlank c = false := by
  have hblanks : ∀ n ∈ blankCodes, (String.utf8EncodeChar (Char.ofNat n)).all isLetter = false := by
    decide
  by_contra hc
  rw [Bool.not_eq_false, isBlank, List.contains_iff_mem] at hc
  have hnot := hblanks _ hc
  rw [Char.ofNat_toNat, h] at hnot
  cases hnot

theorem isWord_of_mem {w : String} (h : w ∈ wordList) : IsWord w where
  nonempty hempty := by
    have hbytes : bytesOf w = [] := by rw [bytesOf_eq, hempty, List.flatMap_nil]
    have hmem : bytesOf w ∈ wordList.map bytesOf := List.mem_map_of_mem h
    rw [hbytes] at hmem
    exact (List.nodup_cons.mp nodup_bytes).1 hmem
  noBlank c hc := by
    have hw := List.all_eq_true.mp wordList_letters w h
    rw [bytesOf_eq, List.all_flatMap] at hw
    exact isBlank_of_letters (List.all_eq_true.mp hw c hc)

/-! ### Places -/

/-- The word at a place. -/
def wordAt (i : Nat) : String := wordList.getD i ""

theorem wordAt_eq {i : Nat} (h : i < wordList.length) : wordAt i = wordList[i] := by
  rw [wordAt, List.getD_eq_getElem?_getD, List.getElem?_eq_getElem h]
  rfl

theorem wordAt_mem {i : Nat} (h : i < 2048) : wordAt i ∈ wordList := by
  have hi : i < wordList.length := by rwa [length_wordList]
  rw [wordAt_eq hi]
  exact List.getElem_mem hi

/-- **The word at a place is found at this place.** -/
theorem idxOf?_wordAt {i : Nat} (h : i < 2048) : wordList.idxOf? (wordAt i) = some i := by
  have hi : i < wordList.length := by rwa [length_wordList]
  rw [wordAt_eq hi, List.idxOf?_eq_some_iff]
  refine ⟨hi, rfl, fun j hj hji => ?_⟩
  have hsame : j = i := (nodup_wordList.getElem_inj_iff).mp hji
  omega

end HostedNode.Phrase

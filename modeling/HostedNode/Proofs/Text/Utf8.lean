import HostedNode.Text.Utf8
import Mathlib.Tactic.SplitIfs

/-! # Texts survive their bytes

The bytes that `encode` makes of a text are taken apart by `pieces` into the characters of the text
(`pieces_encode`). A character has one to four bytes; the cases `step_one` to `step_four` say that
`step` reads each of them back, and that the second byte lies within the bounds that the first one
sets, which leave out overlong forms and surrogates (`tailOf_three`, `tailOf_four`). -/

namespace HostedNode.Text.Utf8

/-! ### Bytes -/

theorem toNat_ofNat {n : Nat} (h : n < 256) : (UInt8.ofNat n).toNat = n :=
  UInt8.toNat_ofNat_of_lt' h

theorem ofNat_le {m n : Nat} (h : m ≤ n) (hn : n < 256) : UInt8.ofNat m ≤ UInt8.ofNat n := by
  rw [UInt8.le_iff_toNat_le, toNat_ofNat hn, toNat_ofNat (by omega)]
  exact h

theorem not_lt_of_ofNat {n : Nat} (h : 0x80 ≤ n) (h' : n < 256) : ¬ UInt8.ofNat n < 0x80 := by
  rw [UInt8.lt_iff_toNat_lt, toNat_ofNat h', show (0x80 : UInt8).toNat = 128 from rfl]
  omega

theorem isContinuation_ofNat : ∀ n < 64, isContinuation (UInt8.ofNat (n + 0x80)) = true := by
  decide

/-- The bounds that a first byte sets, by its number. -/
theorem tailOf_ofNat : ∀ n < 256, tailOf (UInt8.ofNat n) =
    if 0xC2 ≤ n ∧ n ≤ 0xDF then some (1, 0x80, 0xBF)
    else if n = 0xE0 then some (2, 0xA0, 0xBF)
    else if n = 0xED then some (2, 0x80, 0x9F)
    else if 0xE1 ≤ n ∧ n ≤ 0xEF then some (2, 0x80, 0xBF)
    else if n = 0xF0 then some (3, 0x90, 0xBF)
    else if 0xF1 ≤ n ∧ n ≤ 0xF3 then some (3, 0x80, 0xBF)
    else if n = 0xF4 then some (3, 0x80, 0x8F)
    else none := by
  decide +kernel

/-! ### Sequences of several bytes -/

/-- Continuation bytes are taken as far as asked for. -/
theorem takeTail_append : ∀ cs : Bytes, (∀ c ∈ cs, isContinuation c = true) → ∀ rest : Bytes,
    takeTail cs.length (cs ++ rest) = cs
  | [], _, _ => by simp [takeTail]
  | c :: cs, h, rest => by
    have hc := h c (by simp)
    have ih := takeTail_append cs (fun d hd => h d (by simp [hd])) rest
    simp only [List.length_cons, List.cons_append, takeTail, hc, if_true, ih]

/-- A first byte with all the bytes that it asks for is one character. -/
theorem step_of_tailOf {b c lo hi : UInt8} {m : Nat} (cs : Bytes)
    (hm : Nat.pow 2 (6 - (cs.length + 1)) = m) (hb : ¬ b < 0x80)
    (ht : tailOf b = some (cs.length + 1, lo, hi)) (hc : lo ≤ c ∧ c ≤ hi)
    (hcs : ∀ d ∈ cs, isContinuation d = true) (rest : Bytes) :
    step b (c :: (cs ++ rest)) =
      (some (Char.ofNat ((c :: cs).foldl (fun v d => v * 64 + d.toNat % 64)
        (b.toNat % m))), cs.length + 2) := by
  simp only [step, if_neg hb, ht, if_pos hc, Nat.add_sub_cancel, takeTail_append cs hcs, if_true,
    hm]

/-- The second byte of a character of three bytes is within the bounds that the first one sets:
overlong forms and surrogates lie outside of them. -/
theorem tailOf_three {v : Nat} (h1 : 0x7ff < v) (h2 : v ≤ 0xffff)
    (hv : v < 0xD800 ∨ 0xDFFF < v) :
    ∃ lo hi, tailOf (UInt8.ofNat (v / 4096 % 0x10 + 0xe0)) = some (2, lo, hi) ∧
      lo ≤ UInt8.ofNat (v / 64 % 0x40 + 0x80) ∧ UInt8.ofNat (v / 64 % 0x40 + 0x80) ≤ hi := by
  rw [tailOf_ofNat _ (by omega), if_neg (by omega)]
  split_ifs with h3 h4 h5
  · exact ⟨_, _, rfl, ofNat_le (m := 0xA0) (by omega) (by omega),
      ofNat_le (n := 0xBF) (by omega) (by omega)⟩
  · exact ⟨_, _, rfl, ofNat_le (m := 0x80) (by omega) (by omega),
      ofNat_le (n := 0x9F) (by omega) (by omega)⟩
  · exact ⟨_, _, rfl, ofNat_le (m := 0x80) (by omega) (by omega),
      ofNat_le (n := 0xBF) (by omega) (by omega)⟩
  all_goals omega

/-- The second byte of a character of four bytes is within the bounds that the first one sets. -/
theorem tailOf_four {v : Nat} (h1 : 0xffff < v) (h2 : v < 0x110000) :
    ∃ lo hi, tailOf (UInt8.ofNat (v / 262144 % 0x08 + 0xf0)) = some (3, lo, hi) ∧
      lo ≤ UInt8.ofNat (v / 4096 % 0x40 + 0x80) ∧ UInt8.ofNat (v / 4096 % 0x40 + 0x80) ≤ hi := by
  rw [tailOf_ofNat _ (by omega), if_neg (by omega), if_neg (by omega), if_neg (by omega),
    if_neg (by omega)]
  split_ifs with h3 h4 h5
  · exact ⟨_, _, rfl, ofNat_le (m := 0x90) (by omega) (by omega),
      ofNat_le (n := 0xBF) (by omega) (by omega)⟩
  · exact ⟨_, _, rfl, ofNat_le (m := 0x80) (by omega) (by omega),
      ofNat_le (n := 0xBF) (by omega) (by omega)⟩
  · exact ⟨_, _, rfl, ofNat_le (m := 0x80) (by omega) (by omega),
      ofNat_le (n := 0x8F) (by omega) (by omega)⟩
  all_goals omega

/-! ### The bytes of one character -/

theorem step_one {v : Nat} (h : v ≤ 0x7f) (rest : Bytes) :
    step (UInt8.ofNat v) rest = (some (Char.ofNat v), 1) := by
  have hb : UInt8.ofNat v < 0x80 := by
    rw [UInt8.lt_iff_toNat_lt, toNat_ofNat (by omega)]
    show v < 128
    omega
  rw [step, if_pos hb, toNat_ofNat (by omega)]

theorem step_two {v : Nat} (h1 : 0x7f < v) (h2 : v ≤ 0x7ff) (rest : Bytes) :
    step (UInt8.ofNat (v / 64 % 0x20 + 0xc0)) (UInt8.ofNat (v % 0x40 + 0x80) :: rest) =
      (some (Char.ofNat v), 2) := by
  have ht : tailOf (UInt8.ofNat (v / 64 % 0x20 + 0xc0)) = some (1, 0x80, 0xBF) := by
    rw [tailOf_ofNat _ (by omega), if_pos (by omega)]
  have h := step_of_tailOf (m := 0x20) [] rfl (not_lt_of_ofNat (by omega) (by omega)) ht
    ⟨ofNat_le (m := 0x80) (n := v % 0x40 + 0x80) (by omega) (by omega),
      ofNat_le (n := 0xBF) (by omega) (by omega)⟩ (by simp) rest
  simp only [List.foldl_cons, List.foldl_nil, List.length_nil, List.nil_append,
    toNat_ofNat (show v / 64 % 0x20 + 0xc0 < 256 by omega),
    toNat_ofNat (show v % 0x40 + 0x80 < 256 by omega)] at h
  have hjoined : (v / 64 % 0x20 + 0xc0) % 0x20 * 64 + (v % 0x40 + 0x80) % 64 = v := by omega
  rw [h, hjoined]

theorem step_three {v : Nat} (h1 : 0x7ff < v) (h2 : v ≤ 0xffff) (hv : v < 0xD800 ∨ 0xDFFF < v)
    (rest : Bytes) :
    step (UInt8.ofNat (v / 4096 % 0x10 + 0xe0))
      (UInt8.ofNat (v / 64 % 0x40 + 0x80) :: UInt8.ofNat (v % 0x40 + 0x80) :: rest) =
      (some (Char.ofNat v), 3) := by
  obtain ⟨lo, hi, ht, hc⟩ := tailOf_three h1 h2 hv
  have h := step_of_tailOf (m := 0x10) [UInt8.ofNat (v % 0x40 + 0x80)] rfl
    (not_lt_of_ofNat (by omega) (by omega)) ht hc
    (by simpa using isContinuation_ofNat (v % 0x40) (by omega)) rest
  simp only [List.foldl_cons, List.foldl_nil, List.length_cons, List.length_nil, List.cons_append,
    List.nil_append, toNat_ofNat (show v / 4096 % 0x10 + 0xe0 < 256 by omega),
    toNat_ofNat (show v / 64 % 0x40 + 0x80 < 256 by omega),
    toNat_ofNat (show v % 0x40 + 0x80 < 256 by omega)] at h
  have hjoined : ((v / 4096 % 0x10 + 0xe0) % 0x10 * 64 + (v / 64 % 0x40 + 0x80) % 64) * 64 +
      (v % 0x40 + 0x80) % 64 = v := by omega
  rw [h, hjoined]

theorem step_four {v : Nat} (h1 : 0xffff < v) (h2 : v < 0x110000) (rest : Bytes) :
    step (UInt8.ofNat (v / 262144 % 0x08 + 0xf0))
      (UInt8.ofNat (v / 4096 % 0x40 + 0x80) :: UInt8.ofNat (v / 64 % 0x40 + 0x80) ::
        UInt8.ofNat (v % 0x40 + 0x80) :: rest) =
      (some (Char.ofNat v), 4) := by
  obtain ⟨lo, hi, ht, hc⟩ := tailOf_four h1 h2
  have htail : ∀ d ∈ [UInt8.ofNat (v / 64 % 0x40 + 0x80), UInt8.ofNat (v % 0x40 + 0x80)],
      isContinuation d = true := by
    intro d hd
    simp only [List.mem_cons, List.not_mem_nil, or_false] at hd
    rcases hd with rfl | rfl
    · exact isContinuation_ofNat _ (by omega)
    · exact isContinuation_ofNat _ (by omega)
  have h := step_of_tailOf (m := 0x08)
    [UInt8.ofNat (v / 64 % 0x40 + 0x80), UInt8.ofNat (v % 0x40 + 0x80)] rfl
    (not_lt_of_ofNat (by omega) (by omega)) ht hc htail rest
  simp only [List.foldl_cons, List.foldl_nil, List.length_cons, List.length_nil, List.cons_append,
    List.nil_append, toNat_ofNat (show v / 262144 % 0x08 + 0xf0 < 256 by omega),
    toNat_ofNat (show v / 4096 % 0x40 + 0x80 < 256 by omega),
    toNat_ofNat (show v / 64 % 0x40 + 0x80 < 256 by omega),
    toNat_ofNat (show v % 0x40 + 0x80 < 256 by omega)] at h
  have hjoined : (((v / 262144 % 0x08 + 0xf0) % 0x08 * 64 + (v / 4096 % 0x40 + 0x80) % 64) * 64 +
      (v / 64 % 0x40 + 0x80) % 64) * 64 + (v % 0x40 + 0x80) % 64 = v := by omega
  rw [h, hjoined]

/-- The bytes of a character are read as the character. -/
theorem step_encodeChar (c : Char) : ∃ b bs, String.utf8EncodeChar c = b :: bs ∧
    ∀ rest, step b (bs ++ rest) = (some c, bs.length + 1) := by
  have hv : c.toNat < 0xD800 ∨ (0xDFFF < c.toNat ∧ c.toNat < 0x110000) := c.valid
  have hc : c.val.toNat = c.toNat := rfl
  have hcn : Char.ofNat c.toNat = c := Char.ofNat_toNat c
  simp only [String.utf8EncodeChar, hc]
  split_ifs with h1 h2 h3
  · exact ⟨_, [], rfl, fun rest => by simpa [hcn] using step_one h1 rest⟩
  · exact ⟨_, [_], rfl, fun rest => by simpa [hcn] using step_two (by omega) h2 rest⟩
  · exact ⟨_, [_, _], rfl, fun rest => by
      simpa [hcn] using step_three (by omega) h3 (by omega) rest⟩
  · exact ⟨_, [_, _, _], rfl, fun rest => by
      simpa [hcn] using step_four (v := c.toNat) (by omega) (by omega) rest⟩

/-! ### Texts -/

theorem firstPieces_encode : ∀ (cs : List Char) (n : Nat), cs.length ≤ n →
    firstPieces n (cs.flatMap String.utf8EncodeChar) = cs.map some
  | [], n, _ => by cases n <;> rfl
  | c :: cs, n, h => by
    obtain ⟨n, rfl⟩ : ∃ m, n = m + 1 := ⟨n - 1, by simp at h; omega⟩
    obtain ⟨b, bs, hb, hstep⟩ := step_encodeChar c
    have ih := firstPieces_encode cs n (by simpa using h)
    rw [List.flatMap_cons, hb, List.cons_append, firstPieces, hstep]
    simp [ih]

theorem length_le_encode : ∀ cs : List Char,
    cs.length ≤ (cs.flatMap String.utf8EncodeChar).length
  | [] => by simp
  | c :: cs => by
    have ih := length_le_encode cs
    have hc := c.utf8Size_pos
    simp only [List.flatMap_cons, List.length_append, String.length_utf8EncodeChar,
      List.length_cons]
    omega

theorem toList_loop (bs : ByteArray) (i : Nat) (acc : Bytes) :
    ByteArray.toList.loop bs i acc = acc.reverse ++ bs.data.toList.drop i := by
  fun_induction ByteArray.toList.loop bs i acc with
  | case1 i acc h ih =>
    have hi : i < bs.data.toList.length := by simpa using h
    have hget : bs.get! i = bs.data.toList[i] := by
      rw [Array.getElem_toList]
      exact getElem!_pos bs.data i h
    rw [ih, List.drop_eq_getElem_cons hi, hget]
    simp
  | case2 i acc h =>
    rw [List.drop_eq_nil_of_le (by simpa using h), List.append_nil]

/-- The bytes of a text are valid UTF-8, and of this text. -/
theorem decode?_encode (s : String) : decode? (encode s) = some s := by
  have hbytes : (⟨s.toUTF8.toList.toArray⟩ : ByteArray) = s.toUTF8 := by
    rw [ByteArray.toList, toList_loop]
    simp
  rw [decode?, encode, hbytes, String.fromUTF8?]
  exact dif_pos s.isValidUTF8

/-- **Bytes that are valid UTF-8 are those of their text.** -/
theorem decode?_eq_some_iff {bs : Bytes} {s : String} : decode? bs = some s ↔ bs = encode s := by
  constructor
  · intro h
    rw [decode?, String.fromUTF8?] at h
    split at h
    · obtain rfl := Option.some.inj h
      rw [encode, ByteArray.toList, toList_loop]
      simp [String.toUTF8, String.fromUTF8]
    · cases h
  · rintro rfl
    exact decode?_encode s

theorem encode_eq (s : String) : encode s = s.toList.flatMap String.utf8EncodeChar := by
  rw [encode, String.toUTF8_eq_toByteArray, ← String.utf8Encode_toList, List.utf8Encode,
    ByteArray.toList, toList_loop]
  simp

/-- **Taking apart the bytes of a text gives its characters.** -/
theorem pieces_encode (s : String) : pieces (encode s) = s.toList.map some := by
  rw [encode_eq]
  exact firstPieces_encode s.toList _ (length_le_encode s.toList)

/-- Nothing is lost of bytes that are a text. -/
theorem decodeLossy_encode (s : String) : decodeLossy (encode s) = s := by
  rw [decodeLossy, pieces_encode, List.map_map]
  show String.ofList (s.toList.map id) = s
  rw [List.map_id, String.ofList_toList]

end HostedNode.Text.Utf8

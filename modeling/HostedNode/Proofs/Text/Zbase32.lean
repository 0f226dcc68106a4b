import HostedNode.Proofs.Bits
import HostedNode.Text.Zbase32

/-! # Bytes in a base of 32, read back

Five bits make a digit, and a digit gives its five bits back (`bitsOfDigits?_digit`). So the digits
of bits are read as these bits again, with some more bits behind them that fill the last digit up
(`bitsOfDigits?_digits`), and bytes are read back from their digits (`decode?_encode`). A text can
be read just if all its characters are in the alphabet (`isSome_decode?_iff`). -/

namespace HostedNode.Text.Zbase32

/-! ### Single digits -/

/-- The digit of a number. -/
def digit (n : Nat) : Char := alphabet.getD n 'y'

theorem idxOf?_digit : ∀ n < 32, alphabet.idxOf? (digit n) = some n := by decide

/-- Five bits are read back from their digit. -/
theorem bitsOfDigits?_digit {five : List Bool} (h : five.length = 5) (cs : List Char) :
    bitsOfDigits? (digit (Bits.toNat five) :: cs) = (bitsOfDigits? cs).map (five ++ ·) := by
  have hlt : Bits.toNat five < 32 := by
    have hlt := Bits.toNat_lt five
    rwa [h] at hlt
  have hback : Bits.ofNat 5 (Bits.toNat five) = five := by
    have hback := Bits.ofNat_toNat five
    rwa [h] at hback
  rw [bitsOfDigits?, idxOf?_digit _ hlt]
  cases bitsOfDigits? cs with
  | none => rfl
  | some rest =>
    show some (Bits.ofNat 5 (Bits.toNat five) ++ rest) = _
    rw [hback]
    rfl

/-! ### Digits of bits -/

theorem length_lt_five {bs : List Bool}
    (h : ∀ a b c d e rest, bs = a :: b :: c :: d :: e :: rest → False) : bs.length < 5 := by
  match bs, h with
  | [], _ | [_], _ | [_, _], _ | [_, _, _], _ | [_, _, _, _], _ => simp
  | a :: b :: c :: d :: e :: rest, h => exact (h a b c d e rest rfl).elim

/-- Fewer than five bits make one digit, filled up with zeros. -/
theorem digits_short {bs : List Bool} (hne : bs ≠ []) (hlt : bs.length < 5) :
    digits bs = [digit (Bits.toNat (bs ++ List.replicate (5 - bs.length) false))] := by
  match bs, hne, hlt with
  | [_], _, _ | [_, _], _, _ | [_, _, _], _, _ | [_, _, _, _], _, _ => rfl

theorem length_digits (bs : List Bool) : (digits bs).length = (bs.length + 4) / 5 := by
  induction bs using digits.induct with
  | case1 a b c d e rest ih =>
    rw [digits, List.length_cons, ih]
    simp only [List.length_cons]
    omega
  | case2 => rfl
  | case3 bs hfive hnil =>
    have hlt := length_lt_five hfive
    have hpos : 0 < bs.length := List.length_pos_iff.mpr hnil
    rw [digits_short hnil hlt, List.length_singleton]
    omega

/-- **Bits are read back from their digits**, and behind them what fills the last digit up. -/
theorem bitsOfDigits?_digits (bs : List Bool) :
    ∃ tail : List Bool, tail.length < 5 ∧ bitsOfDigits? (digits bs) = some (bs ++ tail) := by
  induction bs using digits.induct with
  | case1 a b c d e rest ih =>
    obtain ⟨tail, htail, hrest⟩ := ih
    have hfive : [a, b, c, d, e].length = 5 := rfl
    have hread := bitsOfDigits?_digit hfive (digits rest)
    rw [hrest] at hread
    exact ⟨tail, htail, hread⟩
  | case2 => exact ⟨[], Nat.zero_lt_succ 4, rfl⟩
  | case3 bs hfive hnil =>
    have hlt := length_lt_five hfive
    have hpos : 0 < bs.length := List.length_pos_iff.mpr hnil
    refine ⟨List.replicate (5 - bs.length) false, ?_, ?_⟩
    · rw [List.length_replicate]
      omega
    · have hfilled : (bs ++ List.replicate (5 - bs.length) false).length = 5 := by
        rw [List.length_append, List.length_replicate]
        omega
      rw [digits_short hnil hlt, bitsOfDigits?_digit hfilled []]
      simp [bitsOfDigits?]

/-! ### Texts -/

theorem isSome_bitsOfDigits?_iff {cs : List Char} :
    (bitsOfDigits? cs).isSome ↔ ∀ c ∈ cs, c ∈ alphabet := by
  induction cs with
  | nil => simp [bitsOfDigits?]
  | cons c cs ih =>
    rw [List.forall_mem_cons, ← ih, ← List.isSome_idxOf?, bitsOfDigits?]
    cases alphabet.idxOf? c with
    | none => simp
    | some n =>
      cases bitsOfDigits? cs with
      | none => simp
      | some rest => simp

/-- **A text can be read just if all its characters are in the alphabet.** -/
theorem isSome_decode?_iff {s : String} : (decode? s).isSome ↔ ∀ c ∈ s.toList, c ∈ alphabet := by
  rw [decode?, Option.isSome_map, isSome_bitsOfDigits?_iff]

/-- **Bytes are read back from their digits.** -/
theorem decode?_encode (bs : Bytes) : decode? (encode bs) = some bs := by
  obtain ⟨tail, htail, hread⟩ := bitsOfDigits?_digits (Bits.ofBytes bs)
  rw [decode?, encode, String.toList_ofList, hread, Option.map_some,
    Bits.toBytes_append bs (by omega)]

theorem length_encode (bs : Bytes) : (encode bs).toList.length = (8 * bs.length + 4) / 5 := by
  rw [encode, String.toList_ofList, length_digits, Bits.length_ofBytes]

end HostedNode.Text.Zbase32

import HostedNode.Bits
import Mathlib.Algebra.Group.Nat.Defs
import Mathlib.Data.List.Basic

/-! # Bits and pieces

A list whose length is a whole number of pieces is cut into pieces that make it up again
(`chunks_of_length`), and pieces of one size put behind each other are what they are cut into
(`chunks_flatMap`). The bits of a number give the number back (`toNat_ofNat`), the number of bits
gives the bits back (`ofNat_toNat`), bytes are read back from their bits (`toBytes_append`), and
bits in groups of eight from their bytes (`ofBytes_toBytes`). -/

namespace HostedNode

namespace Hash

/-! ### Pieces of a list -/

variable {α β : Type} {n : Nat}

theorem chunks_of_length_le {xs : List α} (h : xs.length ≤ n) : chunks n xs = [] := by
  rw [chunks]
  split
  · rfl
  · next hdrop =>
    rw [List.drop_eq_nil_of_le h] at hdrop
    cases hdrop

theorem chunks_append {xs : List α} (h : xs.length = n + 1) (ys : List α) :
    chunks n (xs ++ ys) = xs :: chunks n ys := by
  have hlast : ∃ a, xs.drop n = [a] := List.length_eq_one_iff.mp (by rw [List.length_drop]; omega)
  obtain ⟨a, hlast⟩ := hlast
  have hdrop : (xs ++ ys).drop n = a :: ys := by
    rw [List.drop_append_of_le_length (by omega), hlast]
    rfl
  rw [chunks]
  split
  · next hnil =>
    rw [hdrop] at hnil
    cases hnil
  · next hcons =>
    rw [hdrop] at hcons
    obtain ⟨-, rfl⟩ := List.cons.inj hcons
    rw [← h, List.take_left]

/-- Pieces of the right size, put behind each other, are what they are cut into again; what is too
short for a piece behind them is dropped. -/
theorem chunks_flatMap {f : β → List α} (hf : ∀ b, (f b).length = n + 1) (bs : List β)
    {tail : List α} (htail : tail.length ≤ n) :
    chunks n (bs.flatMap f ++ tail) = bs.map f := by
  induction bs with
  | nil => exact chunks_of_length_le htail
  | cons b bs ih =>
    rw [List.flatMap_cons, List.append_assoc, chunks_append (hf b), ih, List.map_cons]

/-- A whole number of pieces is a list of as many lists of their size, and they make it up. -/
theorem chunks_of_length (k : Nat) {xs : List α} (h : xs.length = k * (n + 1)) :
    (chunks n xs).length = k ∧ (chunks n xs).flatten = xs ∧
      ∀ piece ∈ chunks n xs, piece.length = n + 1 := by
  induction k generalizing xs with
  | zero =>
    obtain rfl : xs = [] := List.length_eq_zero_iff.mp (by omega)
    rw [chunks_of_length_le (Nat.zero_le n)]
    simp
  | succ k ih =>
    have hlen : xs.length = k * (n + 1) + (n + 1) := by rw [h, Nat.succ_mul]
    have htake : (xs.take (n + 1)).length = n + 1 := by rw [List.length_take]; omega
    have hdrop : (xs.drop (n + 1)).length = k * (n + 1) := by rw [List.length_drop]; omega
    obtain ⟨hcount, hflat, hsize⟩ := ih hdrop
    rw [← List.take_append_drop (n + 1) xs, chunks_append htake]
    refine ⟨by rw [List.length_cons, hcount], by rw [List.flatten_cons, hflat], ?_⟩
    intro piece hpiece
    rcases List.mem_cons.mp hpiece with rfl | hpiece
    · exact htake
    · exact hsize piece hpiece

end Hash

namespace Bits

open Hash

/-! ### Numbers -/

theorem length_ofNat (width n : Nat) : (ofNat width n).length = width := by simp [ofNat]

theorem ofNat_succ (width n : Nat) :
    ofNat (width + 1) n = n.testBit width :: ofNat width n := by
  simp [ofNat, List.range_succ]

theorem foldl_bits (bs : List Bool) (a : Nat) :
    bs.foldl (fun n b => 2 * n + b.toNat) a = 2 ^ bs.length * a + toNat bs := by
  induction bs generalizing a with
  | nil => simp [toNat]
  | cons b bs ih =>
    have hb : toNat (b :: bs) = 2 ^ bs.length * (2 * 0 + b.toNat) + toNat bs := ih _
    rw [List.foldl_cons, ih, hb, List.length_cons, Nat.pow_succ]
    simp only [Nat.mul_add, Nat.mul_assoc, Nat.mul_zero, Nat.zero_add, Nat.add_assoc]

theorem toNat_cons (b : Bool) (bs : List Bool) :
    toNat (b :: bs) = 2 ^ bs.length * b.toNat + toNat bs := by
  rw [toNat, List.foldl_cons, foldl_bits, Nat.mul_zero, Nat.zero_add]

theorem toNat_lt (bs : List Bool) : toNat bs < 2 ^ bs.length := by
  induction bs with
  | nil => simp [toNat]
  | cons b bs ih =>
    have hle : 2 ^ bs.length * b.toNat ≤ 2 ^ bs.length * 1 :=
      Nat.mul_le_mul_left _ (Bool.toNat_le b)
    rw [toNat_cons, List.length_cons, Nat.pow_succ]
    omega

/-- **The bits of a number give the number back**, as far as they go. -/
theorem toNat_ofNat (width n : Nat) : toNat (ofNat width n) = n % 2 ^ width := by
  induction width with
  | zero => simp [ofNat, toNat, Nat.mod_one]
  | succ width ih =>
    have hbit : (n.testBit width).toNat = n / 2 ^ width % 2 := by
      rw [Nat.testBit_eq_decide_div_mod_eq]
      rcases Nat.mod_two_eq_zero_or_one (n / 2 ^ width) with h | h
      · rw [h]
        rfl
      · rw [h]
        rfl
    rw [ofNat_succ, toNat_cons, ih, length_ofNat, hbit, Nat.mod_pow_succ, Nat.add_comm]

/-- **The number of bits gives the bits back.** -/
theorem ofNat_toNat (bs : List Bool) : ofNat bs.length (toNat bs) = bs := by
  induction bs with
  | nil => rfl
  | cons b bs ih =>
    have hlt := toNat_lt bs
    have htop : (2 ^ bs.length * b.toNat + toNat bs).testBit bs.length = b := by
      rw [Nat.testBit_two_pow_mul_add _ hlt, if_neg (Nat.lt_irrefl _), Nat.sub_self]
      cases b <;> rfl
    have hrest : ofNat bs.length (2 ^ bs.length * b.toNat + toNat bs) =
        ofNat bs.length (toNat bs) := by
      refine List.map_congr_left fun i hi => ?_
      have hi : i < bs.length := List.mem_range.mp (List.mem_reverse.mp hi)
      rw [Nat.testBit_two_pow_mul_add _ hlt, if_pos hi]
    rw [List.length_cons, ofNat_succ, toNat_cons, htop, hrest, ih]

/-! ### Bytes -/

theorem length_ofBytes (bs : Bytes) : (ofBytes bs).length = 8 * bs.length := by
  induction bs with
  | nil => rfl
  | cons b bs ih =>
    rw [ofBytes, List.flatMap_cons, List.length_append, length_ofNat, List.length_cons]
    rw [ofBytes] at ih
    omega

/-- **Bytes are read back from their bits**, with up to seven more bits behind them. -/
theorem toBytes_append (bs : Bytes) {tail : List Bool} (htail : tail.length ≤ 7) :
    toBytes (ofBytes bs ++ tail) = bs := by
  have hbyte : ∀ b : UInt8, UInt8.ofNat (toNat (ofNat 8 b.toNat)) = b := by
    intro b
    rw [toNat_ofNat, Nat.mod_eq_of_lt b.toNat_lt, UInt8.ofNat_toNat]
  have hsize : ∀ b : UInt8, (ofNat 8 b.toNat).length = 7 + 1 := fun b => length_ofNat 8 _
  have hpieces : chunks 7 (ofBytes bs ++ tail) = bs.map fun b => ofNat 8 b.toNat :=
    chunks_flatMap hsize bs htail
  rw [toBytes, hpieces, List.map_map]
  conv_rhs => rw [← List.map_id bs]
  refine List.map_congr_left fun b _ => ?_
  rw [Function.comp_apply, hbyte, id]

theorem toBytes_ofBytes (bs : Bytes) : toBytes (ofBytes bs) = bs := by
  have hnone : ([] : List Bool).length ≤ 7 := Nat.zero_le 7
  rw [← List.append_nil (ofBytes bs), toBytes_append bs hnone]

/-- **Bits in groups of eight are those of their bytes.** -/
theorem ofBytes_toBytes (m : Nat) {bs : List Bool} (h : bs.length = 8 * m) :
    (toBytes bs).length = m ∧ ofBytes (toBytes bs) = bs := by
  obtain ⟨hcount, hflat, hsize⟩ :=
    chunks_of_length (n := 7) m (by rw [h, Nat.mul_comm] : bs.length = m * (7 + 1))
  refine ⟨by rw [toBytes, List.length_map, hcount], ?_⟩
  have hback : ∀ piece ∈ chunks 7 bs, ofNat 8 (UInt8.ofNat (toNat piece)).toNat = piece := by
    intro piece hpiece
    have hlen := hsize piece hpiece
    have hlt : toNat piece < 2 ^ 8 := by
      have hlt := toNat_lt piece
      rwa [hlen] at hlt
    have hbits := ofNat_toNat piece
    rw [hlen] at hbits
    rw [UInt8.toNat_ofNat', Nat.mod_eq_of_lt hlt, hbits]
  rw [ofBytes, toBytes, List.flatMap_map, List.flatMap_def, List.map_congr_left hback, List.map_id',
    hflat]

end Bits

end HostedNode

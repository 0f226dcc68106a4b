import HostedNode.Hash.Hmac
import Mathlib.Algebra.Group.Nat.Defs
import Mathlib.Data.List.Induction

/-! # Numbers as bytes, and lengths of digests

A number is read back from its bytes (`bigEndian_bigEndianBytes`), and bytes are those of the number
that they make (`bigEndianBytes_bigEndian`). A digest has eight words, whatever the message: 32
bytes for SHA-256 and 64 bytes for SHA-512. A password that is stretched gets as long as a digest
(`length_stretch`). -/

namespace HostedNode.Hash

theorem length_pushBytes (width n : Nat) (bs : Bytes) :
    (pushBytes width n bs).length = width + bs.length := by
  induction width generalizing n bs with
  | zero => rw [pushBytes, Nat.zero_add]
  | succ width ih =>
    rw [pushBytes, ih, List.length_cons]
    omega

theorem length_bigEndianBytes (width n : Nat) : (bigEndianBytes width n).length = width :=
  length_pushBytes width n []

theorem pushBytes_append (width n : Nat) (bs : Bytes) :
    pushBytes width n bs = bigEndianBytes width n ++ bs := by
  induction width generalizing n bs with
  | zero => rfl
  | succ width ih =>
    rw [bigEndianBytes, pushBytes, pushBytes, ih, ih (n / 256) [UInt8.ofNat n], List.append_assoc,
      List.singleton_append]

theorem bigEndianBytes_succ (width n : Nat) :
    bigEndianBytes (width + 1) n = bigEndianBytes width (n / 256) ++ [UInt8.ofNat n] := by
  rw [bigEndianBytes, pushBytes, pushBytes_append]

theorem bigEndian_concat (bs : Bytes) (b : UInt8) :
    bigEndian (bs ++ [b]) = bigEndian bs * 256 + b.toNat := by
  rw [bigEndian, List.foldl_append]
  rfl

/-- **A number is read back from its bytes**, as far as they go. -/
theorem bigEndian_bigEndianBytes (width n : Nat) :
    bigEndian (bigEndianBytes width n) = n % 256 ^ width := by
  induction width generalizing n with
  | zero => rw [Nat.pow_zero, Nat.mod_one]; rfl
  | succ width ih =>
    have hmod : n % 256 ^ (width + 1) = n % 256 + 256 * (n / 256 % 256 ^ width) := by
      rw [Nat.pow_succ', Nat.mod_mul]
    rw [bigEndianBytes_succ, bigEndian_concat, ih, UInt8.toNat_ofNat', hmod]
    omega

/-- **Bytes are those of the number that they make.** -/
theorem bigEndianBytes_bigEndian (bs : Bytes) : bigEndianBytes bs.length (bigEndian bs) = bs := by
  induction bs using List.reverseRecOn with
  | nil => rfl
  | append_singleton bs b ih =>
    have hb := b.toNat_lt
    have hdiv : (bigEndian bs * 256 + b.toNat) / 256 = bigEndian bs := by omega
    have hbyte : UInt8.ofNat (bigEndian bs * 256 + b.toNat) = b := by
      rw [← UInt8.toNat_inj, UInt8.toNat_ofNat']
      omega
    rw [List.length_append, List.length_singleton, bigEndianBytes_succ, bigEndian_concat, hdiv,
      ih, hbyte]

theorem Family.length_digest {ω : Type} [Word ω] (fam : Family ω) (message : Bytes) :
    (fam.digest message).length = 8 * Word.bytes ω := by
  simp only [Family.digest, List.flatMap_cons, List.flatMap_nil, List.length_append,
    length_bigEndianBytes, List.length_nil]
  omega

@[simp] theorem length_sha256 (message : Bytes) : (sha256 message).length = 32 :=
  family256.length_digest message

@[simp] theorem length_sha512 (message : Bytes) : (sha512 message).length = 64 :=
  family512.length_digest message

/-! ### Stretched passwords -/

section Stretched

variable {h : HashFunction} {size : Nat} (hsize : ∀ message, (h.digest message).length = size)
include hsize

theorem length_stretchFrom (key : Bytes) (n : Nat) (last : Bytes) {sum : Bytes}
    (hsum : sum.length = size) : (stretchFrom h key n last sum).length = size := by
  induction n generalizing last sum with
  | zero => exact hsum
  | succ n ih =>
    have hnext : (xorBytes sum (hmac h key last)).length = size := by
      rw [xorBytes, List.length_zipWith, hsum, hmac, hsize, Nat.min_self]
    exact ih (hmac h key last) hnext

theorem length_stretch (password salt : Bytes) (n : Nat) :
    (stretch h password salt n).length = size :=
  length_stretchFrom hsize password n _ (hsize _)

end Stretched

end HostedNode.Hash

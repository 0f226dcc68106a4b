import HostedNode.Curve.Ecdsa
import HostedNode.Proofs.Curve.Ladder
import HostedNode.Proofs.Curve.Written

/-! # Keys are recovered from signatures

A signature comes from a secret number that was drawn for it (`sign_cases`). Its halves are in range
and its recovery number is below four (`sign_valid`). The recovery number tells the point that the
secret number stands for; of the multiples of the generator only the remainder by the number of
points counts (`nsmul_base_congr`), so what is recovered is a sum of remainders, and it comes out as
the secret key (`recovered_congr`). Hence a signature gives back the public key of the key that made
it (`recover_sign`). -/

namespace HostedNode.Curve

open Hash Point

/-! ### Multiples of the generator -/

theorem nsmul_base_congr {a b : Nat} (h : (a : ZMod order) = b) : a • base = b • base := by
  rw [nsmul_eq_nsmul_iff_modEq, addOrderOf_base]
  exact (ZMod.natCast_eq_natCast_iff a b order).mp h

theorem nsmul_base_ne_zero {n : Nat} (hpos : 0 < n) (hlt : n < order) : n • base ≠ 0 := by
  intro h
  have hdvd := addOrderOf_dvd_of_nsmul_eq_zero h
  rw [addOrderOf_base] at hdvd
  exact Nat.not_dvd_of_pos_of_lt hpos hlt hdvd

/-- **Public keys are on the curve.** -/
theorem publicKey_onCurve {key : Nat} (hpos : 0 < key) (hlt : key < order) :
    (publicKey key).OnCurve := by
  refine onCurve_iff.mpr ⟨key • base, nsmul_base_ne_zero hpos hlt, ?_⟩
  rw [publicKey, ← of_base, times_of]

/-! ### Signatures -/

/-- The halves are below the number of points, and the recovery number is below four. -/
structure Signature.Valid (g : Signature) : Prop where
  r_lt : g.r < order
  s_lt : g.s < order
  recovery_lt : g.recovery < 4

theorem Signature.ofCompact?_compact {g : Signature} (h : g.Valid) :
    ofCompact? g.compact g.recovery = some g := by
  have hfits : order < 256 ^ 32 := by decide
  have htake : g.compact.take 32 = bigEndianBytes 32 g.r :=
    List.take_left' (length_bigEndianBytes ..)
  have hdrop : g.compact.drop 32 = bigEndianBytes 32 g.s :=
    List.drop_left' (length_bigEndianBytes ..)
  have hlength : g.compact.length = 64 := by
    rw [compact, List.length_append, length_bigEndianBytes, length_bigEndianBytes]
  rw [ofCompact?, htake, hdrop, bigEndian_bigEndianBytes, bigEndian_bigEndianBytes,
    Nat.mod_eq_of_lt (h.r_lt.trans hfits), Nat.mod_eq_of_lt (h.s_lt.trans hfits)]
  exact if_pos ⟨hlength, h.r_lt, h.s_lt, h.recovery_lt⟩

/-! ### Signing -/

/-- The signature of a number `z` by a key with the secret number `k`: it tells the point of the
secret number, and its second half solves the equation that ties them. -/
structure Made (key z k : Nat) (g : Signature) : Prop where
  pos : 0 < k
  lt : k < order
  point : ∃ x y, of (k • base) = affine x y ∧ g.r = x % order ∧
    g.recovery = y % 2 + if order ≤ x then 2 else 0
  s_lt : g.s < order
  equation : (g.s : ZMod order) * k = z + g.r * key

theorem Made.valid {key z k : Nat} {g : Signature} (h : Made key z k g) : g.Valid := by
  obtain ⟨x, y, -, hr, hrecovery⟩ := h.point
  refine ⟨?_, h.s_lt, ?_⟩
  · rw [hr]
    exact Nat.mod_lt _ prime_order.pos
  · rw [hrecovery]
    split <;> omega

/-- The point of a secret number. -/
theorem exists_coordinates {k : Nat} (hpos : 0 < k) (hlt : k < order) :
    ∃ x y, of (k • base) = affine x y ∧ (affine x y).OnCurve := by
  have hon := publicKey_onCurve hpos hlt
  rw [publicKey, ← of_base, times_of] at hon
  cases hP : of (k • base) with
  | zero => rw [hP] at hon; exact hon.elim
  | affine x y => rw [hP] at hon; exact ⟨x, y, rfl, hon⟩

/-- The multiple that makes up for another one is the same point reflected. -/
theorem of_nsmul_reflect {k x y : Nat} (hlt : k < order) (h : of (k • base) = affine x y)
    (hon : (affine x y).OnCurve) : of ((order - k) • base) = affine x (prime - y) := by
  have hneg : (order - k) • base = -(k • base) := by
    rw [eq_neg_iff_add_eq_zero, ← add_nsmul, Nat.sub_add_cancel hlt.le, ← addOrderOf_base,
      addOrderOf_nsmul_eq_zero]
  rw [hneg]
  cases hP : k • base with
  | zero => rw [hP] at h; cases h
  | some a b hab =>
    rw [hP] at h
    obtain ⟨rfl, rfl⟩ := affine.inj h
    have hb : b ≠ 0 := fun hzero => hon.pos.ne' ((ZMod.val_eq_zero b).mpr hzero)
    rw [WeierstrassCurve.Affine.Point.neg_some, of, negY_eq, ZMod.neg_val, if_neg hb]

theorem made_signWith (key : Nat) (digest : Bytes) {nonce : Nat} (hpos : 0 < nonce)
    (hlt : nonce < order) : ∃ k, Made key (bigEndian digest) k (signWith key digest nonce) := by
  obtain ⟨x, y, hpoint, hon⟩ := exists_coordinates hpos hlt
  have hy : y < prime := hon.2.1
  have hypos := hon.pos
  have hnonce : (nonce : ZMod order) ≠ 0 := fun h =>
    Nat.not_dvd_of_pos_of_lt hpos hlt ((ZMod.natCast_eq_zero_iff nonce order).mp h)
  have hodd : prime % 2 = 1 := by decide
  rw [signWith, ← of_base, times_of, hpoint]
  dsimp only
  -- The second half as it is computed first solves the equation for the number that was drawn.
  have hequation : ((inverse order nonce * (bigEndian digest + x % order * key) % order : Nat) :
      ZMod order) * nonce = bigEndian digest + (x % order : Nat) * key := by
    rw [ZMod.natCast_mod, Nat.cast_mul, cast_inverse, Nat.cast_add, Nat.cast_mul]
    field_simp
  have hs := Nat.mod_lt (inverse order nonce * (bigEndian digest + x % order * key)) prime_order.pos
  generalize inverse order nonce * (bigEndian digest + x % order * key) % order = s at *
  by_cases hhigh : order / 2 < s
  · rw [if_pos hhigh]
    refine ⟨order - nonce, ⟨by omega, by omega, ⟨x, prime - y, of_nsmul_reflect hlt hpoint hon, rfl,
      ?_⟩, by dsimp only; omega, ?_⟩⟩
    · have hflip : (prime - y) % 2 = 1 - y % 2 := by omega
      rw [hflip]
      dsimp only
      rcases Nat.mod_two_eq_zero_or_one y with h | h
      · rw [h]; split <;> rfl
      · rw [h]; split <;> rfl
    · dsimp only
      rw [Nat.cast_sub hs.le, Nat.cast_sub hlt.le, ZMod.natCast_self, zero_sub, zero_sub,
        neg_mul_neg, hequation]
  · rw [if_neg hhigh]
    exact ⟨nonce, hpos, hlt, ⟨x, y, hpoint, rfl, rfl⟩, hs, hequation⟩

/-- **A signature is made with a secret number, unless no candidate for one will do.** -/
theorem sign_cases (key : Nat) (digest : Bytes) :
    sign key digest = ⟨0, 0, 0⟩ ∨ (0 < (sign key digest).r ∧ 0 < (sign key digest).s ∧
      ∃ k, Made key (bigEndian digest) k (sign key digest)) := by
  rw [sign]
  generalize Source.ofKey key digest = source
  generalize attempts = n
  induction n generalizing source with
  | zero => exact .inl rfl
  | succ n ih =>
    rw [signFrom]
    split
    · next h =>
      obtain ⟨hpos, hlt, hr, hs⟩ := h
      exact .inr ⟨hr, hs, made_signWith key digest hpos hlt⟩
    · exact ih _

theorem sign_valid (key : Nat) (digest : Bytes) : (sign key digest).Valid := by
  rcases sign_cases key digest with hnone | ⟨-, -, k, hmade⟩
  · rw [hnone]
    exact ⟨prime_order.pos, prime_order.pos, by decide⟩
  · exact hmade.valid

/-- A signature is made if already the first candidate for its secret number will do. -/
theorem sign_done {key nonce x y : Nat} {digest : Bytes}
    (hnonce : bigEndian (Source.ofKey key digest).next.value = nonce) (hpos : 0 < nonce)
    (hlt : nonce < order) (hpoint : generator.times nonce = affine x y) (hr : 0 < x % order)
    (hs : 0 < inverse order nonce * (bigEndian digest + x % order * key) % order) :
    0 < (sign key digest).s := by
  have hhalves : 0 < (signWith key digest nonce).r ∧ 0 < (signWith key digest nonce).s := by
    have hslt := Nat.mod_lt (inverse order nonce * (bigEndian digest + x % order * key))
      prime_order.pos
    rw [signWith, hpoint]
    dsimp only
    split
    · exact ⟨hr, Nat.sub_pos_of_lt hslt⟩
    · exact ⟨hr, hs⟩
  have hfirst : sign key digest = signWith key digest nonce := by
    rw [sign, attempts, signFrom, hnonce]
    exact if_pos ⟨hpos, hlt, hhalves.1, hhalves.2⟩
  rw [hfirst]
  exact hhalves.2

/-! ### Recovering -/

/-- The remainders that are recovered make up the secret key. -/
theorem recovered_congr {key z k : Nat} {g : Signature} (h : Made key z k g) (hr : 0 < g.r) :
    ((minus order 0 (inverse order g.r * z) % order +
      inverse order g.r * g.s % order * k : Nat) : ZMod order) = key := by
  have hrne : (g.r : ZMod order) ≠ 0 := fun hzero =>
    Nat.not_dvd_of_pos_of_lt hr h.valid.r_lt ((ZMod.natCast_eq_zero_iff g.r order).mp hzero)
  have hequation := h.equation
  rw [Nat.cast_add, ZMod.natCast_mod, cast_minus prime_order.pos, Nat.cast_mul, Nat.cast_mul,
    ZMod.natCast_mod, Nat.cast_mul, cast_inverse, Nat.cast_zero]
  field_simp
  linear_combination hequation

theorem recover_of_made {key k : Nat} {digest : Bytes} {g : Signature} (hpos : 0 < key)
    (hlt : key < order) (hr : 0 < g.r) (hs : 0 < g.s) (h : Made key (bigEndian digest) k g) :
    recover digest g = some (publicKey key) := by
  obtain ⟨x, y, hpoint, hgr, hrecovery⟩ := h.point
  have hon : (affine x y).OnCurve := by
    obtain ⟨x', y', hpoint', hon'⟩ := exists_coordinates h.pos h.lt
    rwa [hpoint'.symm.trans hpoint] at hon'
  have hbound : x < 2 * order := lt_trans hon.1 (by decide)
  have hx : (if 2 ≤ g.recovery then g.r + order else g.r) = x := by
    rw [hrecovery, hgr]
    by_cases hle : order ≤ x
    · rw [if_pos hle, if_pos (by omega), Nat.mod_eq_sub_mod hle, Nat.mod_eq_of_lt (by omega)]
      omega
    · rw [if_neg hle, if_neg (by omega), Nat.mod_eq_of_lt (by omega)]
  have hparity : (g.recovery % 2 == 1) = (y % 2 == 1) := by
    rw [hrecovery]
    split
    · rw [Nat.add_mod_right, Nat.mod_mod]
    · rw [Nat.add_zero, Nat.mod_mod]
  have hofX : ofX? x (y % 2 == 1) = some (affine x y) :=
    ofX?_eq_some_iff.mpr ⟨y, rfl, hon, rfl⟩
  have hsum : (minus order 0 (inverse order g.r * bigEndian digest) % order) • base +
      (inverse order g.r * g.s % order) • (k • base) = key • base := by
    rw [smul_smul, ← add_nsmul]
    exact nsmul_base_congr (recovered_congr h hr)
  rw [recover, if_neg (by omega), hx, hparity]
  dsimp only
  rw [hofX]
  dsimp only
  rw [← hpoint, ← of_base, times_of, times_of, add_of, hsum, publicKey, ← of_base, times_of]
  obtain ⟨x', y', hkey, -⟩ := exists_coordinates hpos hlt
  rw [hkey]

/-- **A signature gives back the public key of the key that made it.** -/
theorem recover_sign {key : Nat} {digest : Bytes} (hpos : 0 < key) (hlt : key < order)
    (hdone : 0 < (sign key digest).s) :
    recover digest (sign key digest) = some (publicKey key) := by
  rcases sign_cases key digest with hnone | ⟨hr, hs, k, hmade⟩
  · rw [hnone] at hdone
    cases hdone
  · exact recover_of_made hpos hlt hr hs hmade

end HostedNode.Curve

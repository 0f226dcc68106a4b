import HostedNode.Proofs.Bits
import HostedNode.Proofs.Curve.Group
import Mathlib.GroupTheory.OrderOfElement

/-! # Multiples of the generator without division

A sum of points divides by a coordinate, which is slow to compute. A `Scaled` point keeps a
denominator instead: its coordinates are `x / z ^ 2` and `y / z ^ 3`. `ladder` goes through the bits
of a number from the highest on and doubles the point for each, adding the generator for those that
are set. A denominator that is zero stays so, hence if the last one is not zero, no step met one of
the cases in which the formulas do not hold, and the point is the multiple (`writes_ladder`). So one
computation shows that the multiples of the generator repeat after as many as there are points
(`addOrderOf_base`). -/

namespace HostedNode.Curve

open WeierstrassCurve

/-- A point with a denominator. -/
structure Scaled where
  x : Nat
  y : Nat
  z : Nat
deriving DecidableEq

namespace Scaled

/-- The point with these coordinates over a denominator is the element of the group. -/
structure Writes (t : Scaled) (P : curve.Point) : Prop where
  z_ne : (t.z : ZMod prime) ≠ 0
  spelled : ∃ x y, ∃ h : curve.Nonsingular x y, P = .some x y h ∧
    (t.x : ZMod prime) = x * t.z ^ 2 ∧ (t.y : ZMod prime) = y * t.z ^ 3

/-- The point added to itself; the point as it is once its denominator is zero. -/
def double (t : Scaled) : Scaled :=
  if t.z = 0 then t
  else
    let square := t.y * t.y % prime
    let middle := 4 * t.x * square % prime
    let slope := 3 * t.x * t.x % prime
    let x := minus prime (slope * slope) (2 * middle)
    ⟨x, minus prime (slope * minus prime middle x) (8 * square * square), 2 * t.y * t.z % prime⟩

/-- The point with the generator added; the point as it is once its denominator is zero. -/
def addBase (t : Scaled) : Scaled :=
  if t.z = 0 then t
  else
    let square := t.z * t.z % prime
    let width := minus prime (baseX * square) t.x
    let height := minus prime (baseY * square * t.z) t.y
    let area := width * width % prime
    let shift := t.x * area % prime
    let x := minus prime (height * height) (area * width + 2 * shift)
    ⟨x, minus prime (height * minus prime shift x) (t.y * area * width), t.z * width % prime⟩

/-! ### One step -/

theorem ne_zero_of_cast {n : Nat} (h : (n : ZMod prime) ≠ 0) : n ≠ 0 := by
  rintro rfl
  exact h Nat.cast_zero

theorem cast_double {t : Scaled} (hne : t.z ≠ 0) {X Y Z : ZMod prime} (hX : (t.x : ZMod prime) = X)
    (hY : (t.y : ZMod prime) = Y) (hZ : (t.z : ZMod prime) = Z) :
    (t.double.x : ZMod prime) = 9 * X ^ 4 - 8 * X * Y ^ 2 ∧
      (t.double.y : ZMod prime) = 3 * X ^ 2 * (4 * X * Y ^ 2 - t.double.x) - 8 * Y ^ 4 ∧
      (t.double.z : ZMod prime) = 2 * Y * Z := by
  subst hX hY hZ
  rw [double, if_neg hne]
  refine ⟨?_, ?_, ?_⟩
  · simp only [cast_minus prime_prime.pos, Nat.cast_mul, ZMod.natCast_mod, Nat.cast_ofNat]
    ring
  · simp only [cast_minus prime_prime.pos, Nat.cast_mul, ZMod.natCast_mod, Nat.cast_ofNat]
    ring
  · rw [ZMod.natCast_mod, Nat.cast_mul, Nat.cast_mul, Nat.cast_ofNat]

theorem cast_addBase {t : Scaled} (hne : t.z ≠ 0) {X Y Z W H : ZMod prime}
    (hX : (t.x : ZMod prime) = X) (hY : (t.y : ZMod prime) = Y) (hZ : (t.z : ZMod prime) = Z)
    (hW : baseX * Z ^ 2 - X = W) (hH : baseY * Z ^ 3 - Y = H) :
    (t.addBase.x : ZMod prime) = H ^ 2 - W ^ 3 - 2 * X * W ^ 2 ∧
      (t.addBase.y : ZMod prime) = H * (X * W ^ 2 - t.addBase.x) - Y * W ^ 3 ∧
      (t.addBase.z : ZMod prime) = Z * W := by
  subst hX hY hZ hW hH
  rw [addBase, if_neg hne]
  refine ⟨?_, ?_, ?_⟩
  · simp only [cast_minus prime_prime.pos, Nat.cast_mul, Nat.cast_add, ZMod.natCast_mod,
      Nat.cast_ofNat]
    ring
  · simp only [cast_minus prime_prime.pos, Nat.cast_mul, Nat.cast_add, ZMod.natCast_mod,
      Nat.cast_ofNat]
    ring
  · simp only [cast_minus prime_prime.pos, Nat.cast_mul, ZMod.natCast_mod]
    ring

theorem writes_double {t : Scaled} {P : curve.Point} (h : t.Writes P)
    (hz : (t.double.z : ZMod prime) ≠ 0) : t.double.Writes (P + P) := by
  obtain ⟨htz, x, y, hxy, rfl, hX, hY⟩ := h
  obtain ⟨hx', hy', hz'⟩ := cast_double (ne_zero_of_cast htz) hX hY rfl
  have hy : y ≠ 0 := by
    rintro rfl
    exact hz (by rw [hz', zero_mul, mul_zero, zero_mul])
  have htwo := two_ne_zero
  have hxsum : (t.double.x : ZMod prime) =
      curve.addX x x (curve.slope x x y y) * t.double.z ^ 2 := by
    rw [hx', hz', addX_eq, slope_tangent x hy]
    field_simp
    ring
  refine ⟨hz, _, _, _, Affine.Point.add_self_of_Y_ne (ne_negY hy), hxsum, ?_⟩
  rw [hy', hxsum, hz', addY_eq, slope_tangent x hy]
  field_simp
  ring

theorem writes_addBase {t : Scaled} {P : curve.Point} (h : t.Writes P)
    (hz : (t.addBase.z : ZMod prime) ≠ 0) : t.addBase.Writes (P + base) := by
  obtain ⟨htz, x, y, hxy, rfl, hX, hY⟩ := h
  have hwidth : baseX * (t.z : ZMod prime) ^ 2 - x * t.z ^ 2 = (baseX - x) * t.z ^ 2 := by ring
  have hheight : baseY * (t.z : ZMod prime) ^ 3 - y * t.z ^ 3 = (baseY - y) * t.z ^ 3 := by ring
  obtain ⟨hx', hy', hz'⟩ := cast_addBase (ne_zero_of_cast htz) hX hY rfl hwidth hheight
  have hx : x ≠ baseX := by
    rintro rfl
    exact hz (by rw [hz', sub_self, zero_mul, mul_zero])
  have hdiff : (baseX : ZMod prime) - x ≠ 0 := sub_ne_zero.mpr hx.symm
  have hxsum : (t.addBase.x : ZMod prime) =
      curve.addX x baseX (curve.slope x baseX y baseY) * t.addBase.z ^ 2 := by
    rw [hx', hz', addX_eq, slope_chord hx]
    field_simp
    ring
  refine ⟨hz, _, _, _, Affine.Point.add_of_X_ne hx, hxsum, ?_⟩
  rw [hy', hxsum, hz', addY_eq, slope_chord hx]
  field_simp

theorem z_ne_of_double {t : Scaled} (h : (t.double.z : ZMod prime) ≠ 0) :
    (t.z : ZMod prime) ≠ 0 := by
  by_cases hzero : t.z = 0
  · rwa [double, if_pos hzero] at h
  · rw [(cast_double hzero rfl rfl rfl).2.2] at h
    exact right_ne_zero_of_mul h

theorem z_ne_of_addBase {t : Scaled} (h : (t.addBase.z : ZMod prime) ≠ 0) :
    (t.z : ZMod prime) ≠ 0 := by
  by_cases hzero : t.z = 0
  · rwa [addBase, if_pos hzero] at h
  · rw [(cast_addBase hzero rfl rfl rfl rfl rfl).2.2] at h
    exact left_ne_zero_of_mul h

/-! ### All steps -/

/-- The step for a bit. -/
def step (t : Scaled) (b : Bool) : Scaled := if b then t.double.addBase else t.double

theorem z_ne_of_step {t : Scaled} {b : Bool} (h : ((t.step b).z : ZMod prime) ≠ 0) :
    (t.z : ZMod prime) ≠ 0 := by
  cases b with
  | false => exact z_ne_of_double h
  | true => exact z_ne_of_double (z_ne_of_addBase h)

theorem writes_step {t : Scaled} {P : curve.Point} (h : t.Writes P) {b : Bool}
    (hz : ((t.step b).z : ZMod prime) ≠ 0) : (t.step b).Writes (P + P + b.toNat • base) := by
  cases b with
  | false =>
    rw [Bool.toNat_false, zero_nsmul, add_zero]
    exact writes_double h hz
  | true =>
    rw [Bool.toNat_true, one_nsmul]
    exact writes_addBase (writes_double h (z_ne_of_addBase hz)) hz

theorem z_ne_of_foldl {bs : List Bool} {t : Scaled}
    (h : ((bs.foldl step t).z : ZMod prime) ≠ 0) : (t.z : ZMod prime) ≠ 0 := by
  induction bs generalizing t with
  | nil => exact h
  | cons b bs ih => exact z_ne_of_step (ih h)

theorem writes_foldl {bs : List Bool} {t : Scaled} {P : curve.Point} (h : t.Writes P)
    (hz : ((bs.foldl step t).z : ZMod prime) ≠ 0) :
    (bs.foldl step t).Writes (2 ^ bs.length • P + Bits.toNat bs • base) := by
  induction bs generalizing t P with
  | nil => simpa [Bits.toNat] using h
  | cons b bs ih =>
    have hsum : 2 ^ (b :: bs).length • P + Bits.toNat (b :: bs) • base =
        2 ^ bs.length • (P + P + b.toNat • base) + Bits.toNat bs • base := by
      rw [Bits.toNat_cons, List.length_cons, add_nsmul, nsmul_add, ← two_nsmul, smul_smul,
        smul_smul, ← pow_succ, add_assoc]
    rw [hsum]
    exact ih (writes_step h (z_ne_of_foldl hz)) hz

/-- The multiple of the generator for a number with these bits behind the highest one. -/
def ladder (bs : List Bool) : Scaled := bs.foldl step ⟨baseX, baseY, 1⟩

/-- **The ladder of a number writes its multiple**, if the last denominator is not zero. -/
theorem writes_ladder {k n : Nat} (hle : 2 ^ k ≤ n) (hlt : n < 2 ^ (k + 1))
    (hz : ((ladder (Bits.ofNat k n)).z : ZMod prime) ≠ 0) :
    (ladder (Bits.ofNat k n)).Writes (n • base) := by
  have hbase : (⟨baseX, baseY, 1⟩ : Scaled).Writes base :=
    ⟨by simp, _, _, _, rfl, by simp, by simp⟩
  have hn : n = 2 ^ k + n % 2 ^ k := by
    rw [pow_succ, Nat.mul_two] at hlt
    rw [Nat.mod_eq_sub_mod hle, Nat.mod_eq_of_lt (by omega)]
    omega
  have hwrites := writes_foldl hbase hz
  rwa [Bits.toNat_ofNat, Bits.length_ofNat, ← add_nsmul, ← hn] at hwrites

/-- The coordinates over the denominator are these. -/
def Shows (t : Scaled) (x y : Nat) : Prop :=
  t.z % prime ≠ 0 ∧ t.x % prime = x * t.z ^ 2 % prime ∧ t.y % prime = y * t.z ^ 3 % prime

instance (t : Scaled) (x y : Nat) : Decidable (t.Shows x y) := inferInstanceAs <|
  Decidable (t.z % prime ≠ 0 ∧ t.x % prime = x * t.z ^ 2 % prime ∧
    t.y % prime = y * t.z ^ 3 % prime)

/-- A point that is written and shown has the coordinates that are shown. -/
theorem Shows.of_eq {t : Scaled} {P : curve.Point} {x y : Nat} (h : t.Shows x y) (hP : t.Writes P)
    (hx : x < prime) (hy : y < prime) : Point.of P = .affine x y := by
  obtain ⟨hz, a, b, hab, rfl, ha, hb⟩ := hP
  have hxa : (x : ZMod prime) * t.z ^ 2 = a * t.z ^ 2 := by
    rw [← ha]
    exact_mod_cast ((ZMod.natCast_eq_natCast_iff' _ _ prime).mpr h.2.1).symm
  have hyb : (y : ZMod prime) * t.z ^ 3 = b * t.z ^ 3 := by
    rw [← hb]
    exact_mod_cast ((ZMod.natCast_eq_natCast_iff' _ _ prime).mpr h.2.2).symm
  exact (Point.affine_eq_of hab hx hy (mul_right_cancel₀ (pow_ne_zero 2 hz) hxa)
    (mul_right_cancel₀ (pow_ne_zero 3 hz) hyb)).symm

/-- **A multiple of the generator has the coordinates that its ladder shows.** -/
theorem times_generator {k n x y : Nat} (hle : 2 ^ k ≤ n) (hlt : n < 2 ^ (k + 1)) (hx : x < prime)
    (hy : y < prime) (h : (ladder (Bits.ofNat k n)).Shows x y) :
    Point.generator.times n = .affine x y := by
  have hz : ((ladder (Bits.ofNat k n)).z : ZMod prime) ≠ 0 := by
    rw [ne_eq, ZMod.natCast_eq_zero_iff, Nat.dvd_iff_mod_eq_zero]
    exact h.1
  rw [← of_base, Point.times_of, h.of_eq (writes_ladder hle hlt hz) hx hy]

end Scaled

/-! ### The number of points -/

/-- The last multiple but one is the generator reflected. -/
theorem times_pred_order : Point.generator.times (order - 1) = .affine baseX (prime - baseY) := by
  have hshows : (Scaled.ladder (Bits.ofNat 255 (order - 1))).Shows baseX (prime - baseY) := by
    decide +kernel
  exact Scaled.times_generator (by decide) (by decide) (by decide) (by decide) hshows

/-- **The multiples of the generator repeat after as many as there are points.** -/
theorem addOrderOf_base : addOrderOf base = order := by
  refine addOrderOf_eq_prime ?_ (Affine.Point.some_ne_zero _)
  have hsucc : order • base = (order - 1) • base + base := by
    rw [← succ_nsmul, Nat.sub_add_cancel prime_order.one_le]
  rw [← Point.of_eq_zero_iff, hsucc, ← Point.add_of, ← Point.times_of, of_base, times_pred_order]
  decide +kernel

end HostedNode.Curve

import HostedNode.Curve.Point
import HostedNode.Proofs.Curve.Modular
import Mathlib.AlgebraicGeometry.EllipticCurve.Affine.Point

/-! # The points are a group

The points of the curve over the field of residues form a group. `Point.of` writes an element of the
group with its coordinates as numbers, and no two elements are written in the same way
(`of_injective`). What is computed on written points is what the group has: doubles (`double_of`),
sums (`add_of`) and multiples (`times_of`). -/

namespace HostedNode.Curve

open WeierstrassCurve

/-! ### The curve -/

/-- The curve over the field of residues. -/
def curve : Affine (ZMod prime) := ⟨0, 0, 0, 0, 7⟩

theorem natCast_ne_zero {n : Nat} (hpos : 0 < n) (hlt : n < prime) : (n : ZMod prime) ≠ 0 :=
  fun h => Nat.not_dvd_of_pos_of_lt hpos hlt ((ZMod.natCast_eq_zero_iff n prime).mp h)

theorem two_ne_zero : (2 : ZMod prime) ≠ 0 := by
  have h : ((2 : Nat) : ZMod prime) ≠ 0 := natCast_ne_zero (by decide) (by decide)
  exact_mod_cast h

theorem nonsingular_iff {x y : ZMod prime} : curve.Nonsingular x y ↔ y * y = x * x * x + 7 := by
  have hdisc : curve.Δ ≠ 0 := by
    have h : ((21168 : Nat) : ZMod prime) ≠ 0 := natCast_ne_zero (by decide) (by decide)
    have hvalue : curve.Δ = -((21168 : Nat) : ZMod prime) := by
      simp only [WeierstrassCurve.Δ, b₂, b₄, b₆, b₈, curve]
      push_cast
      ring
    rw [hvalue]
    exact neg_ne_zero.mpr h
  rw [← Affine.equation_iff_nonsingular_of_Δ_ne_zero hdisc, Affine.equation_iff]
  simp only [curve, zero_mul, add_zero]
  rw [pow_two, pow_succ, pow_two]

theorem negY_eq (x y : ZMod prime) : curve.negY x y = -y := by simp [Affine.negY, curve]

theorem ne_negY {x y : ZMod prime} (hy : y ≠ 0) : y ≠ curve.negY x y := by
  rw [negY_eq]
  intro hself
  have htwice : 2 * y = 0 := by linear_combination hself
  exact (mul_ne_zero two_ne_zero hy) htwice

theorem addX_eq (x x₂ ℓ : ZMod prime) : curve.addX x x₂ ℓ = ℓ * ℓ - (x + x₂) := by
  simp only [Affine.addX, curve]
  ring

theorem addY_eq (x x₂ y ℓ : ZMod prime) :
    curve.addY x x₂ y ℓ = ℓ * (x - curve.addX x x₂ ℓ) - y := by
  rw [Affine.addY, negY_eq, Affine.negAddY]
  ring

/-- The slope of the tangent. -/
theorem slope_tangent (x : ZMod prime) {y : ZMod prime} (hy : y ≠ 0) :
    curve.slope x x y y = 3 * x * x / (2 * y) := by
  rw [Affine.slope_of_Y_ne rfl (ne_negY hy), negY_eq]
  simp only [curve]
  congr 1
  · ring
  · ring

/-- The slope of the line through two points. -/
theorem slope_chord {x x₂ : ZMod prime} (hx : x ≠ x₂) (y y₂ : ZMod prime) :
    curve.slope x x₂ y y₂ = (y₂ - y) / (x₂ - x) := by
  rw [Affine.slope_of_X_ne hx, ← neg_sub y₂, ← neg_sub x₂, neg_div_neg_eq]

/-! ### Written points -/

namespace Point

/-- An element of the group, written with its coordinates. -/
def of : curve.Point → Point
  | .zero => zero
  | .some x y _ => affine x.val y.val

theorem of_zero : of 0 = zero := rfl

theorem of_injective : Function.Injective of := by
  intro P Q h
  cases P with
  | zero =>
    cases Q with
    | zero => rfl
    | some x y hQ => cases h
  | some x y hP =>
    cases Q with
    | zero => cases h
    | some x' y' hQ =>
      obtain ⟨hx, hy⟩ := affine.inj h
      obtain rfl := ZMod.val_injective prime hx
      obtain rfl := ZMod.val_injective prime hy
      rfl

theorem of_eq_zero_iff {P : curve.Point} : of P = zero ↔ P = 0 :=
  of_injective.eq_iff' of_zero

/-- Numbers below the prime are the coordinates that they stand for. -/
theorem affine_eq_of {a b : Nat} {x y : ZMod prime} (h : curve.Nonsingular x y) (ha : a < prime)
    (hb : b < prime) (hx : (a : ZMod prime) = x) (hy : (b : ZMod prime) = y) :
    affine a b = of (.some x y h) := by
  rw [of, ← hx, ← hy, ZMod.val_natCast_of_lt ha, ZMod.val_natCast_of_lt hb]

/-! ### Sums -/

/-- The third point on a line, reflected, has the coordinates that the group gives it. -/
theorem onLine_eq_of {slope : Nat} {x y x₂ ℓ : ZMod prime} (hslope : (slope : ZMod prime) = ℓ)
    (h : curve.Nonsingular (curve.addX x x₂ ℓ) (curve.addY x x₂ y ℓ)) :
    onLine slope x.val y.val x₂.val = of (.some _ _ h) := by
  have hx : (minus prime (slope * slope) (x.val + x₂.val) : ZMod prime) = curve.addX x x₂ ℓ := by
    rw [cast_minus prime_prime.pos, Nat.cast_mul, Nat.cast_add, hslope, ZMod.natCast_zmod_val,
      ZMod.natCast_zmod_val, addX_eq]
  refine affine_eq_of h (minus_lt prime_prime.pos _ _) (minus_lt prime_prime.pos _ _) hx ?_
  rw [cast_minus prime_prime.pos, Nat.cast_mul, cast_minus prime_prime.pos, hx, hslope,
    ZMod.natCast_zmod_val, ZMod.natCast_zmod_val, addY_eq]

/-- **Doubling a point adds it to itself.** -/
theorem double_of (P : curve.Point) : (of P).double = of (P + P) := by
  cases P with
  | zero => rfl
  | some x y h =>
    by_cases hy : y = 0
    · have hyneg : y = curve.negY x y := by rw [negY_eq, hy, neg_zero]
      rw [Affine.Point.add_self_of_Y_eq hyneg, of, double, hy, ZMod.val_zero, if_pos rfl, of_zero]
    · have hval : y.val ≠ 0 := fun hval => hy ((ZMod.val_eq_zero y).mp hval)
      rw [Affine.Point.add_self_of_Y_ne (ne_negY hy), of, double, if_neg hval]
      refine onLine_eq_of ?_ _
      rw [ZMod.natCast_mod, Nat.cast_mul, cast_inverse, slope_tangent x hy, div_eq_mul_inv]
      push_cast
      rw [ZMod.natCast_zmod_val, ZMod.natCast_zmod_val]

/-- **The sum of written points is the sum in the group.** -/
theorem add_of (P Q : curve.Point) : (of P).add (of Q) = of (P + Q) := by
  cases P with
  | zero => exact congrArg of (zero_add Q).symm
  | some x y hP =>
    cases Q with
    | zero => rfl
    | some x₂ y₂ hQ =>
      by_cases hx : x = x₂
      · subst hx
        by_cases hy : y = y₂
        · subst hy
          rw [← double_of]
          simp only [of, add, if_pos]
        · have hneg : y = curve.negY x y₂ := by
            have hsquares : y * y = y₂ * y₂ :=
              (nonsingular_iff.mp hP).trans (nonsingular_iff.mp hQ).symm
            have hopposite := (mul_self_eq_mul_self_iff.mp hsquares).resolve_left hy
            rw [negY_eq, hopposite]
          have hval : y.val ≠ y₂.val := fun hval => hy (ZMod.val_injective prime hval)
          rw [Affine.Point.add_of_Y_eq rfl hneg, of, of, add, if_pos rfl, if_neg hval, of_zero]
      · have hval : x.val ≠ x₂.val := fun hval => hx (ZMod.val_injective prime hval)
        rw [Affine.Point.add_of_X_ne hx, of, of, add, if_neg hval]
        refine onLine_eq_of ?_ _
        rw [ZMod.natCast_mod, Nat.cast_mul, cast_inverse, cast_minus prime_prime.pos,
          cast_minus prime_prime.pos, slope_chord hx, div_eq_mul_inv]
        simp only [ZMod.natCast_zmod_val]

/-! ### Multiples -/

theorem timesFrom_of (A P : curve.Point) (n : Nat) :
    timesFrom (of A) (of P) n = of (A + n • P) := by
  induction n using Nat.strong_induction_on generalizing A P with
  | _ n ih =>
    rw [timesFrom]
    by_cases hn : n = 0
    · rw [dif_pos hn, hn, zero_nsmul, add_zero]
    · have hhalf : n / 2 < n := by omega
      have hbit : (if n % 2 = 1 then (of A).add (of P) else of A) = of (A + (n % 2) • P) := by
        rcases Nat.mod_two_eq_zero_or_one n with hmod | hmod
        · rw [hmod, if_neg (by decide), zero_nsmul, add_zero]
        · rw [hmod, if_pos rfl, one_nsmul, add_of]
      have htwice : (n / 2) • (P + P) = (n / 2 * 2) • P := by rw [← two_nsmul, mul_nsmul']
      rw [dif_neg hn, hbit, double_of, ih _ hhalf, htwice, add_assoc, ← add_nsmul,
        show n % 2 + n / 2 * 2 = n by omega]

/-- **The multiple of a written point is the multiple in the group.** -/
theorem times_of (n : Nat) (P : curve.Point) : (of P).times n = of (n • P) := by
  rw [times, ← of_zero, timesFrom_of, zero_add]

end Point

/-! ### The generator -/

/-- The coordinates of a written point are those of an element of the group if they solve the
equation. -/
theorem nonsingular_natCast {x y : Nat} (h : y * y % prime = (x * x * x + 7) % prime) :
    curve.Nonsingular x y := by
  rw [nonsingular_iff]
  exact_mod_cast (ZMod.natCast_eq_natCast_iff' _ _ prime).mpr h

/-- The first coordinate of the generator. -/
def baseX : Nat := 0x79be667ef9dcbbac55a06295ce870b07029bfcdb2dce28d959f2815b16f81798

/-- The second coordinate of the generator. -/
def baseY : Nat := 0x483ada7726a3c4655da4fbfc0e1108a8fd17b448a68554199c47d08ffb10d4b8

/-- The generator as an element of the group. -/
def base : curve.Point := .some baseX baseY (nonsingular_natCast (by decide))

theorem of_base : Point.of base = Point.generator :=
  (Point.affine_eq_of _ (by decide) (by decide) rfl rfl).symm

end HostedNode.Curve

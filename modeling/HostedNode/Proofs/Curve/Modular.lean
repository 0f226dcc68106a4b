import HostedNode.Proofs.Curve.Primes
import Mathlib.FieldTheory.Finite.Basic

/-! # Residues modulo a prime form a field

What is computed on residues is what the field has: differences (`cast_minus`), inverses
(`cast_inverse`) and square roots (`squareRoot?_eq_some`, `exists_squareRoot?`). A residue has a
square root just if it is a square, because the prime of the coordinates is one less than a multiple
of four. -/

namespace HostedNode.Curve

instance : Fact prime.Prime := ⟨prime_prime⟩

instance : Fact order.Prime := ⟨prime_order⟩

/-! ### Differences -/

variable {m : Nat}

theorem minus_lt (hm : 0 < m) (a b : Nat) : minus m a b < m := Nat.mod_lt _ hm

theorem cast_minus (hm : 0 < m) (a b : Nat) : (minus m a b : ZMod m) = a - b := by
  have hle : b % m ≤ m := (Nat.mod_lt b hm).le
  rw [minus, ZMod.natCast_mod, Nat.cast_add, Nat.cast_sub hle, ZMod.natCast_self, ZMod.natCast_mod,
    zero_sub, sub_eq_add_neg]

/-! ### Inverses -/

/-- What Euclid's algorithm keeps: the remainders are the multiples that the factors say, so the
last one, the greatest common divisor, is too. -/
theorem inverseFrom_mul (a : Nat) (r next : Nat) (t nextT : Int) (hr : (r : ZMod m) = t * a)
    (hnext : (next : ZMod m) = nextT * a) :
    (Nat.gcd r next : ZMod m) = inverseFrom r next t nextT * a := by
  induction r, next, t, nextT using inverseFrom.induct with
  | case1 r t nextT => rw [inverseFrom, dif_pos rfl, Nat.gcd_zero_right, hr]
  | case2 r next t nextT hne ih =>
    have hrest : ((r % next : Nat) : ZMod m) = (t - (r / next : Nat) * nextT : Int) * a := by
      have hdiv : ((next * (r / next) + r % next : Nat) : ZMod m) = t * a := by
        rw [Nat.div_add_mod, hr]
      rw [Nat.cast_add, Nat.cast_mul, hnext] at hdiv
      rw [Int.cast_sub, Int.cast_mul, Int.cast_natCast]
      linear_combination hdiv
    rw [inverseFrom, dif_neg hne, ← ih hnext hrest, Nat.gcd_comm r next, Nat.gcd_rec,
      Nat.gcd_comm]

/-- **The inverse of a residue is its inverse in the field.** -/
theorem cast_inverse [hm : Fact m.Prime] (a : Nat) : (inverse m a : ZMod m) = (a : ZMod m)⁻¹ := by
  have hcast : (inverse m a : ZMod m) = inverseFrom m (a % m) 0 1 := by
    have hnonneg : 0 ≤ inverseFrom m (a % m) 0 1 % m :=
      Int.emod_nonneg _ (Int.natCast_ne_zero.mpr hm.out.ne_zero)
    rw [inverse, ← Int.cast_natCast, Int.toNat_of_nonneg hnonneg, ZMod.intCast_mod]
  by_cases hzero : (a : ZMod m) = 0
  · have hmod : a % m = 0 := Nat.mod_eq_zero_of_dvd ((ZMod.natCast_eq_zero_iff a m).mp hzero)
    rw [hcast, hmod, inverseFrom, dif_pos rfl, hzero, inv_zero, Int.cast_zero]
  · have hgcd : Nat.gcd m (a % m) = 1 := by
      rw [Nat.gcd_comm, ← Nat.gcd_rec]
      refine (Nat.Prime.coprime_iff_not_dvd hm.out).mpr fun hdvd => hzero ?_
      exact (ZMod.natCast_eq_zero_iff a m).mpr hdvd
    have hone := inverseFrom_mul (m := m) a m (a % m) 0 1 (by simp) (by simp)
    rw [hgcd, Nat.cast_one] at hone
    rw [hcast]
    exact eq_inv_of_mul_eq_one_left hone.symm

/-! ### Square roots -/

theorem squareRoot?_eq_some {a r : Nat} (h : squareRoot? a = some r) :
    r < prime ∧ (r : ZMod prime) * r = a := by
  rw [squareRoot?] at h
  split at h
  · next hroot =>
    obtain rfl := Option.some.inj h
    refine ⟨?_, ?_⟩
    · rw [power_eq]
      exact Nat.mod_lt _ prime_prime.pos
    · rw [← Nat.cast_mul]
      exact (ZMod.natCast_eq_natCast_iff' _ _ _).mpr hroot
  · cases h

/-- **A square has a square root.** -/
theorem exists_squareRoot? {a : Nat} {y : ZMod prime} (h : y * y = a) :
    ∃ r, squareRoot? a = some r := by
  have hexp : 4 * ((prime + 1) / 4) = prime + 1 := by decide
  have hroot : (power prime a ((prime + 1) / 4) : ZMod prime) *
      power prime a ((prime + 1) / 4) = a := by
    calc (power prime a ((prime + 1) / 4) : ZMod prime) * power prime a ((prime + 1) / 4)
        = (y * y) ^ ((prime + 1) / 4) * (y * y) ^ ((prime + 1) / 4) := by rw [cast_power, h]
      _ = y ^ (4 * ((prime + 1) / 4)) := by ring
      _ = y * y := by rw [hexp, pow_succ, ZMod.pow_card]
      _ = a := h
  rw [← Nat.cast_mul] at hroot
  refine ⟨_, if_pos ?_⟩
  exact (ZMod.natCast_eq_natCast_iff' _ _ _).mp hroot

end HostedNode.Curve

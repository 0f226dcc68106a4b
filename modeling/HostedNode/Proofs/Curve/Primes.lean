import HostedNode.Curve.Modular
import Mathlib.NumberTheory.LucasPrimality
import Mathlib.Tactic.NormNum.Prime

/-! # The primes of the curve

By Lucas's test a number is prime if some residue has the order of the number less one: its power
with that exponent is one, and no power with that exponent divided by a prime factor of it is. The
factors are shown to be prime in the same way, down to small ones that are tried out. A `Chain` is a
list of such tests, each of which relies on the numbers tested in the rest of the list; its numbers
are prime (`Chain.prime`). Two chains show that the prime of the coordinates (`prime_prime`) and the
number of points (`prime_order`) are prime. -/

namespace HostedNode.Curve

/-! ### Powers -/

theorem powerFrom_eq (m acc b e : Nat) (hacc : acc % m = acc) :
    powerFrom m acc b e = acc * b ^ e % m := by
  induction acc, b, e using powerFrom.induct (m := m) with
  | case1 acc b => rw [powerFrom, dif_pos rfl, Nat.pow_zero, Nat.mul_one, hacc]
  | case2 acc b e hne ih =>
    have hsquare : ∀ n, (b * b % m) ^ n % m = b ^ (2 * n) % m := by
      intro n
      rw [← Nat.pow_mod, Nat.pow_mul, Nat.pow_two]
    rw [powerFrom, dif_neg hne]
    by_cases hodd : e % 2 = 1
    · rw [dif_pos hodd] at ih
      rw [if_pos hodd, ih (Nat.mod_mod _ _), Nat.mod_mul_mod, Nat.mul_mod, hsquare, ← Nat.mul_mod,
        Nat.mul_assoc, ← Nat.pow_succ', show (2 * (e / 2)).succ = e by omega]
    · rw [dif_neg hodd] at ih
      rw [if_neg hodd, ih hacc, Nat.mul_mod, hsquare, ← Nat.mul_mod, show 2 * (e / 2) = e by omega]

theorem power_eq (m b e : Nat) : power m b e = b ^ e % m := by
  rw [power, powerFrom_eq _ _ _ _ (Nat.mod_mod _ _), Nat.mod_mul_mod, Nat.one_mul, ← Nat.pow_mod]

theorem cast_power (m b e : Nat) : (power m b e : ZMod m) = (b : ZMod m) ^ e := by
  rw [power_eq, ZMod.natCast_mod, Nat.cast_pow]

/-! ### Chains of tests -/

/-- What shows that a number is prime: a residue with the largest order, and the prime factors of
the number less one, each as often as it divides it. -/
structure Test where
  number : Nat
  residue : Nat
  factors : List Nat

/-- The residue has the order of the number less one, and the factors are among those known to be
prime. -/
def Test.Passes (t : Test) (known : List Nat) : Prop :=
  1 < t.number ∧ t.factors.prod = t.number - 1 ∧
    power t.number t.residue (t.number - 1) = 1 ∧
    ∀ q ∈ t.factors, q ∈ known ∧ power t.number t.residue ((t.number - 1) / q) ≠ 1

instance (t : Test) (known : List Nat) : Decidable (t.Passes known) := inferInstanceAs <|
  Decidable (1 < t.number ∧ t.factors.prod = t.number - 1 ∧
    power t.number t.residue (t.number - 1) = 1 ∧
    ∀ q ∈ t.factors, q ∈ known ∧ power t.number t.residue ((t.number - 1) / q) ≠ 1)

theorem cast_power_eq_one_iff {m : Nat} (hm : 1 < m) (b e : Nat) :
    (b : ZMod m) ^ e = 1 ↔ power m b e = 1 := by
  have hlt : power m b e < m := by
    rw [power_eq]
    exact Nat.mod_lt _ (by omega)
  rw [← cast_power, ← Nat.cast_one, ZMod.natCast_eq_natCast_iff', Nat.mod_eq_of_lt hlt,
    Nat.mod_eq_of_lt hm]

theorem Test.Passes.prime {t : Test} {known : List Nat} (h : t.Passes known)
    (hknown : ∀ q ∈ known, q.Prime) : t.number.Prime := by
  obtain ⟨hlarge, hprod, hone, hfactors⟩ := h
  refine lucas_primality t.number t.residue ?_ ?_
  · rw [cast_power_eq_one_iff hlarge, hone]
  · intro q hq hdvd
    rw [← hprod] at hdvd
    obtain ⟨f, hf, hqf⟩ := (Prime.dvd_prod_iff hq.prime).mp hdvd
    obtain ⟨hfknown, hne⟩ := hfactors f hf
    obtain rfl := (Nat.prime_dvd_prime_iff_eq hq (hknown f hfknown)).mp hqf
    rwa [ne_eq, cast_power_eq_one_iff hlarge]

/-- The prime factors that are small enough to be tried out. -/
def smallPrimes : List Nat :=
  [2, 3, 5, 7, 11, 13, 17, 19, 29, 31, 41, 53, 59, 97, 109, 113, 149, 293, 461, 631, 797, 971, 1373,
    1627, 1871, 2011, 2621, 2657, 2731, 4051, 4423, 5323, 7723, 9349, 13441, 16699, 20113, 24809,
    28181, 41201, 85831, 96557]

theorem prime_of_mem_smallPrimes : ∀ q ∈ smallPrimes, q.Prime := by
  rw [smallPrimes]
  simp only [List.forall_mem_cons]
  norm_num

/-- Tests of which each passes with the numbers of those behind it and small primes. -/
def Chain : List Test → Prop
  | [] => True
  | t :: ts => t.Passes (ts.map Test.number ++ smallPrimes) ∧ Chain ts

instance decidableChain : ∀ ts : List Test, Decidable (Chain ts)
  | [] => .isTrue trivial
  | _ :: ts => @instDecidableAnd _ _ inferInstance (decidableChain ts)

/-- **The numbers of a chain are prime.** -/
theorem Chain.prime {ts : List Test} (h : Chain ts) : ∀ n ∈ ts.map Test.number, n.Prime := by
  induction ts with
  | nil => exact fun n hn => absurd hn List.not_mem_nil
  | cons t ts ih =>
    rw [List.map_cons, List.forall_mem_cons]
    refine ⟨h.1.prime fun q hq => ?_, ih h.2⟩
    exact (List.mem_append.mp hq).elim (ih h.2 q) (prime_of_mem_smallPrimes q)

/-! ### The two primes -/

/-- The chain of the prime of the coordinates. -/
def primeChain : List Test :=
  [⟨prime, 3, [2, 3, 7, 13441,
      205115282021455665897114700593932402728804164701536103180137503955397371]⟩,
    ⟨205115282021455665897114700593932402728804164701536103180137503955397371, 10,
      [2, 3, 5, 29, 29, 31, 7723, 132896956044521568488119,
        255515944373312847190720520512484175977]⟩,
    ⟨255515944373312847190720520512484175977, 3,
      [2, 2, 2, 7, 7, 11, 1627, 2657, 4423, 41201, 96557, 7240687, 107590001]⟩,
    ⟨107590001, 3, [2, 2, 2, 2, 5, 5, 5, 5, 7, 29, 53]⟩,
    ⟨7240687, 3, [2, 3, 1206781]⟩,
    ⟨1206781, 10, [2, 2, 3, 5, 20113]⟩,
    ⟨132896956044521568488119, 6, [2, 3, 22149492674086928081353]⟩,
    ⟨22149492674086928081353, 5, [2, 2, 2, 3, 5323, 173378833005251801]⟩,
    ⟨173378833005251801, 6, [2, 2, 2, 5, 5, 2621, 24809, 13331831]⟩,
    ⟨13331831, 13, [2, 5, 971, 1373]⟩]

/-- The chain of the number of points. -/
def orderChain : List Test :=
  [⟨order, 7, [2, 2, 2, 2, 2, 2, 3, 149, 631, 107361793816595537, 174723607534414371449,
      341948486974166000522343609283189]⟩,
    ⟨341948486974166000522343609283189, 2,
      [2, 2, 3, 3, 3, 109, 29047611873442575647497758179]⟩,
    ⟨29047611873442575647497758179, 2, [2, 293, 305873, 545358713, 297159362677]⟩,
    ⟨297159362677, 2, [2, 2, 3, 3, 11, 461, 1627771]⟩,
    ⟨1627771, 3, [2, 3, 5, 29, 1871]⟩,
    ⟨545358713, 5, [2, 2, 2, 41, 59, 28181]⟩,
    ⟨305873, 3, [2, 2, 2, 2, 7, 2731]⟩,
    ⟨174723607534414371449, 3, [2, 2, 2, 17, 59, 4051, 120233, 44706919]⟩,
    ⟨44706919, 6, [2, 3, 797, 9349]⟩,
    ⟨120233, 3, [2, 2, 2, 7, 19, 113]⟩,
    ⟨107361793816595537, 3, [2, 2, 2, 2, 16699, 85831, 4681609]⟩,
    ⟨4681609, 23, [2, 2, 2, 3, 97, 2011]⟩]

/-- **The prime of the coordinates is prime.** -/
theorem prime_prime : prime.Prime := by
  have hchain : Chain primeChain := by decide +kernel
  exact hchain.prime prime List.mem_cons_self

/-- **The number of points is prime.** -/
theorem prime_order : order.Prime := by
  have hchain : Chain orderChain := by decide +kernel
  exact hchain.prime order List.mem_cons_self

end HostedNode.Curve

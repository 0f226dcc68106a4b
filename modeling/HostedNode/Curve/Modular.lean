/-! # Arithmetic modulo a prime

Powers, inverses and square roots of residues. Both primes of the curve are below `2 ^ 256`. -/

namespace HostedNode.Curve

/-- The prime of the coordinates. -/
def prime : Nat := 0xfffffffffffffffffffffffffffffffffffffffffffffffffffffffefffffc2f

/-- The number of points of the curve, a prime too. -/
def order : Nat := 0xfffffffffffffffffffffffffffffffebaaedce6af48a03bbfd25e8cd0364141

/-- The power of a residue, multiplied with `acc`. -/
def powerFrom (m acc b e : Nat) : Nat :=
  if h : e = 0 then acc
  else powerFrom m (if e % 2 = 1 then acc * b % m else acc) (b * b % m) (e / 2)
termination_by e
decreasing_by omega

/-- The power of a residue modulo `m`. -/
def power (m b e : Nat) : Nat := powerFrom m (1 % m) (b % m) e

/-- The steps of Euclid's algorithm. Each of the remainders `r` and `next` is a multiple of one and
the same residue; `t` and `nextT` are the factors. -/
def inverseFrom (r next : Nat) (t nextT : Int) : Int :=
  if _h : next = 0 then t
  else inverseFrom next (r % next) nextT (t - (r / next : Nat) * nextT)
termination_by next
decreasing_by exact Nat.mod_lt _ (Nat.pos_of_ne_zero _h)

/-- The inverse of a residue modulo a prime; zero has none, and gives zero. -/
def inverse (m a : Nat) : Nat := (inverseFrom m (a % m) 0 1 % m).toNat

/-- The difference of two residues. -/
def minus (m a b : Nat) : Nat := (a + (m - b % m)) % m

/-- A square root of a residue modulo the prime of the coordinates, if it has one. -/
def squareRoot? (a : Nat) : Option Nat :=
  let r := power prime a ((prime + 1) / 4)
  if r * r % prime = a % prime then some r else none

end HostedNode.Curve

import HostedNode.Decimal.Double

/-! # The shortest decimal of a double

`Decimal.shortest` finds the decimal with the fewest digits that still reads back as a given
double, and of several such the nearest. A decimal reads back as `m * 2 ^ q` if it lies between the
two points half way to the neighbouring doubles, these points included if `m` is even. Candidates
are the two multiples of a power of ten next to the value, for 1, 2, … 17 digits. -/

namespace HostedNode.Decimal

/-- The value `digits * 10 ^ exponent`. -/
structure Scaled where
  digits : Nat
  exponent : Int
deriving DecidableEq, Repr

/-- The decimals that read back as one double: a value, the bounds around it, all over one
denominator, and whether the bounds belong to it. -/
structure Rounding where
  /-- Numerator of the value. -/
  value : Nat
  /-- Numerator of the lower bound. -/
  low : Nat
  /-- Numerator of the upper bound. -/
  high : Nat
  /-- The common denominator. -/
  denominator : Nat
  /-- Whether the bounds themselves read back as the double. -/
  closed : Bool
deriving Repr

/-- The decimals that read back as `m * 2 ^ q`. The gap below the least number of a binade is half
as wide as the gap above it. -/
def Rounding.of (m : Nat) (q : Int) : Rounding :=
  let gap := if m = Nat.pow 2 52 ∧ -1074 < q then 1 else 2
  let up := Nat.pow 2 (q - 2).toNat
  { value := 4 * m * up, low := (4 * m - gap) * up, high := (4 * m + 2) * up,
    denominator := Nat.pow 2 (2 - q).toNat, closed := m % 2 = 0 }

/-- Whether the decimal reads back as the double. -/
def Rounding.holds (r : Rounding) (s : Scaled) : Bool :=
  let up := s.digits * Nat.pow 10 s.exponent.toNat * r.denominator
  let down := Nat.pow 10 (-s.exponent).toNat
  if r.closed then r.low * down ≤ up && up ≤ r.high * down
  else r.low * down < up && up < r.high * down

/-- The largest multiple of `10 ^ k` that is at most the value. -/
def Rounding.floor (r : Rounding) (k : Int) : Scaled :=
  ⟨r.value * Nat.pow 10 (-k).toNat / (r.denominator * Nat.pow 10 k.toNat), k⟩

/-- The distance from the value, over a denominator that depends on the exponent alone. -/
def Rounding.distance (r : Rounding) (s : Scaled) : Nat :=
  let up := s.digits * Nat.pow 10 s.exponent.toNat * r.denominator
  let at_ := r.value * Nat.pow 10 (-s.exponent).toNat
  (up - at_) + (at_ - up)

/-- The nearer of the two multiples of `10 ^ k` next to the value that read back, if any does; of
two equally near the one with an even last digit. -/
def Rounding.onGrid (r : Rounding) (k : Int) : Option Scaled :=
  let below := r.floor k
  let above : Scaled := ⟨below.digits + 1, k⟩
  match r.holds below, r.holds above with
  | true, true =>
    if r.distance below < r.distance above then some below
    else if r.distance above < r.distance below then some above
    else if below.digits % 2 = 0 then some below else some above
  | true, false => some below
  | false, true => some above
  | false, false => none

/-- Whether the value is at least `10 ^ k`. -/
def Rounding.reaches (r : Rounding) (k : Int) : Bool :=
  r.denominator * Nat.pow 10 k.toNat ≤ r.value * Nat.pow 10 (-k).toNat

/-- The exponent of the first digit, searched upwards from `k`. -/
def Rounding.topFrom (r : Rounding) : Nat → Int → Int
  | 0, k => k
  | n + 1, k => if r.reaches (k + 1) then r.topFrom n (k + 1) else k

/-- The exponent of the first digit of the value. The search starts below it: 30103 / 100000 is
just above the logarithm of two. -/
def Rounding.top (r : Rounding) : Int :=
  let e := ((r.value.log2 : Int) - (r.denominator.log2 : Int) - 1) * 30103 / 100000 - 2
  r.topFrom 8 e

/-- The first grid with a hit, from `digits` digits on. -/
def Rounding.search (r : Rounding) (top : Int) : Nat → Nat → Option Scaled
  | 0, _ => none
  | n + 1, digits =>
    match r.onGrid (top + 1 - digits) with
    | some s => some s
    | none => r.search top n (digits + 1)

/-- Moves the zeros at the end of the digits into the exponent, `n` at most. -/
def Scaled.strip : Nat → Scaled → Scaled
  | 0, s => s
  | n + 1, s =>
    if s.digits ≠ 0 ∧ s.digits % 10 = 0 then Scaled.strip n ⟨s.digits / 10, s.exponent + 1⟩ else s

/-- The decimal with the fewest digits that reads back as the absolute value of a finite double. -/
def shortest (d : Double) : Scaled :=
  let (m, q) := d.magnitude
  if m = 0 then ⟨0, 0⟩
  else
    let r := Rounding.of m q
    ((r.search r.top 17 1).getD ⟨0, 0⟩).strip 20

end HostedNode.Decimal

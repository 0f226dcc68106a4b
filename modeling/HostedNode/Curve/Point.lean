import HostedNode.Curve.Modular
import HostedNode.Hash.Sha2
import HostedNode.Text.Hex

/-! # Points of the curve

The points of `y ^ 2 = x ^ 3 + 7` over the prime field, with the sum of two points, multiples of a
point, and the three written forms: `compressed` has the parity of `y` and `x`; the others have both
coordinates, and one of them the parity too. -/

namespace HostedNode.Curve

open Hash

/-- A point of the curve. -/
inductive Point where
  | zero
  | affine (x y : Nat)
deriving DecidableEq, Repr, Inhabited

namespace Point

/-- The point that generates all others. -/
def generator : Point :=
  .affine 0x79be667ef9dcbbac55a06295ce870b07029bfcdb2dce28d959f2815b16f81798
    0x483ada7726a3c4655da4fbfc0e1108a8fd17b448a68554199c47d08ffb10d4b8

/-- The third point on the line of a slope through a point, reflected; `x2` is the second one's. -/
def onLine (slope x y x2 : Nat) : Point :=
  let x3 := minus prime (slope * slope) (x + x2)
  .affine x3 (minus prime (slope * minus prime x x3) y)

/-- A point added to itself. -/
def double : Point → Point
  | zero => zero
  | affine x y =>
    if y = 0 then zero else onLine (3 * x * x * inverse prime (2 * y) % prime) x y x

/-- The sum of two points. -/
def add : Point → Point → Point
  | zero, q => q
  | p, zero => p
  | affine x y, affine x2 y2 =>
    if x = x2 then if y = y2 then double (affine x y) else zero
    else onLine (minus prime y2 y * inverse prime (minus prime x2 x) % prime) x y x2

/-- A multiple of a point, added to `acc`. -/
def timesFrom (acc p : Point) (n : Nat) : Point :=
  if h : n = 0 then acc
  else timesFrom (if n % 2 = 1 then acc.add p else acc) p.double (n / 2)
termination_by n
decreasing_by omega

/-- A multiple of a point. -/
def times (n : Nat) (p : Point) : Point := timesFrom zero p n

/-- The point with a first coordinate and the parity of the second. -/
def ofX? (x : Nat) (isOdd : Bool) : Option Point :=
  if prime ≤ x then none
  else (squareRoot? (x * x * x + 7)).map fun y =>
    .affine x (if (y % 2 == 1) = isOdd then y else prime - y)

/-- The point with two coordinates, if they are those of one. -/
def ofXY? (x y : Nat) : Option Point :=
  if x < prime ∧ y < prime ∧ y * y % prime = (x * x * x + 7) % prime then some (.affine x y)
  else none

/-- The 33 bytes of a point: the parity of `y` and `x`. -/
def compressed : Point → Bytes
  | zero => []
  | affine x y => UInt8.ofNat (2 + y % 2) :: bigEndianBytes 32 x

/-- Reads a point from bytes in any of the written forms. -/
def ofBytes? : Bytes → Option Point
  | [] => none
  | form :: rest =>
    if rest.length = 32 then
      if form = 2 ∨ form = 3 then ofX? (bigEndian rest) (form = 3) else none
    else if rest.length = 64 then
      let x := bigEndian (rest.take 32)
      let y := bigEndian (rest.drop 32)
      if form = 4 ∨ form.toNat = 6 + y % 2 then ofXY? x y else none
    else none

/-- Reads a point from hexadecimal digits. -/
def ofHex? (s : String) : Option Point :=
  match Text.Hex.decode s with
  | .ok bs => ofBytes? bs
  | .error _ => none

end Point

end HostedNode.Curve

import HostedNode.Decimal.Double

/-! # From decimals to doubles

`nearest?` rounds a whole number times a power of ten to the nearest double. Exponents that lead
far out of the range of doubles are answered from the number of digits alone, so that no power of
such an exponent is ever computed. -/

namespace HostedNode.Decimal

/-- The double nearest to `m * 10 ^ e`, or to its negative; `none` if that is beyond the largest
double. -/
def nearest? (negative : Bool) (m : Nat) (e : Int) : Option Double :=
  let signed (f : Float) : Option Double :=
    let d := Double.ofFloat f
    if d.isFinite then some (if negative then d.negate else d) else none
  let digits : Int := (Nat.toDigits 10 m).length
  if m = 0 ∨ digits + e < -330 then signed 0
  else if 310 < digits + e then none
  else signed (Float.ofScientific m (e < 0) e.natAbs)

end HostedNode.Decimal

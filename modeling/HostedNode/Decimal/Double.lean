/-! # Double precision numbers

A double precision number as its 64 bits, so that two of them can be told apart and compared by
equality of the bits. `magnitude` gives the exact value of a finite one as `m * 2 ^ q`. -/

namespace HostedNode.Decimal

/-- A double precision number, by its bits. -/
structure Double where
  /-- Sign, exponent and fraction, from the highest bit down. -/
  bits : UInt64
deriving DecidableEq, Repr, Inhabited

namespace Double

/-- The number of a machine value. -/
def ofFloat (f : Float) : Double := ⟨f.toBits⟩

/-- The machine value of a number. -/
def toFloat (d : Double) : Float := Float.ofBits d.bits

/-- Whether the sign bit is set. -/
def isNegative (d : Double) : Bool := d.bits.toNat / Nat.pow 2 63 = 1

/-- The exponent field. -/
def exponentField (d : Double) : Nat := d.bits.toNat / Nat.pow 2 52 % Nat.pow 2 11

/-- The fraction field. -/
def fractionField (d : Double) : Nat := d.bits.toNat % Nat.pow 2 52

/-- Whether the number is neither infinite nor no number. -/
def isFinite (d : Double) : Bool := d.exponentField ≠ 2047

/-- The absolute value of a finite number is the first part times two to the second. -/
def magnitude (d : Double) : Nat × Int :=
  if d.exponentField = 0 then (d.fractionField, -1074)
  else (Nat.pow 2 52 + d.fractionField, (d.exponentField : Int) - 1075)

/-- The number with the other sign. -/
def negate (d : Double) : Double := ⟨d.bits ^^^ 0x8000000000000000⟩

/-- The double nearest to a 64-bit number. -/
def ofUInt64 (n : UInt64) : Double := ofFloat n.toFloat

end Double

end HostedNode.Decimal

import HostedNode.Decimal.Shortest

/-! # How a double is written

A `Format` says when a double is written with an exponent and how the exponent looks. The digits
are always those of `shortest`; a number without an exponent always has a point and at least one
digit behind it. -/

namespace HostedNode.Decimal

/-- The choices in writing a double. -/
structure Format where
  /-- The smallest exponent of the first digit that is written without an exponent part. -/
  low : Int
  /-- The largest exponent of the first digit that is written without an exponent part. -/
  high : Int
  /-- Whether an exponent that is not negative has a sign. -/
  plusSign : Bool

/-- The digits with a point after the first `n` of them, filled with zeros where there are none. -/
def pointed (ds : List Char) (n : Nat) : List Char :=
  let whole := ds.take n ++ List.replicate (n - ds.length) '0'
  let rest := ds.drop n
  whole ++ '.' :: (if rest.isEmpty then ['0'] else rest)

/-- Writes the digits `ds` with first digit at the power `top`. -/
def Format.layOut (f : Format) (ds : List Char) (top : Int) : List Char :=
  if f.low ≤ top ∧ top ≤ f.high then
    if top < 0 then
      ['0', '.'] ++ List.replicate (-top - 1).toNat '0' ++ ds
    else pointed ds (top.toNat + 1)
  else
    let mantissa := if ds.length ≤ 1 then ds else ds.take 1 ++ '.' :: ds.drop 1
    let sign := if top < 0 then ['-'] else if f.plusSign then ['+'] else []
    mantissa ++ 'e' :: sign ++ Nat.toDigits 10 top.natAbs

/-- The text of a double. -/
def Format.write (f : Format) (d : Double) : String :=
  if d.isFinite then
    let s := shortest d
    let sign := if d.isNegative then ['-'] else []
    if s.digits = 0 then String.ofList (sign ++ ['0', '.', '0'])
    else
      let ds := Nat.toDigits 10 s.digits
      String.ofList (sign ++ f.layOut ds (s.exponent + ds.length - 1))
  else if d.fractionField ≠ 0 then "NaN"
  else if d.isNegative then "-inf" else "inf"

end HostedNode.Decimal

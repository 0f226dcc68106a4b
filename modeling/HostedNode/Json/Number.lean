import HostedNode.Json.Basic

/-! # Numbers in JSON text

A number of a text is an integer if it has neither point nor exponent and lies in the range of
integers; any other number is a double. A double is made of the leading digits that fit into 64
bits, as a whole number, and a power of ten: both are rounded to doubles, then multiplied or
divided. So a number with more digits than that may come out one step beside the nearest double.
A number beyond the largest double is refused. -/

namespace HostedNode.Json

/-- The parts of a number in a text. -/
structure Numeral where
  negative : Bool
  whole : List Char
  fraction : Option (List Char)
  /-- Whether the exponent is negative, and its digits, if there is one. -/
  exponent : Option (Bool × List Char)
deriving Repr

/-- The value of a digit. -/
def digitValue (c : Char) : Nat := c.toNat - 48

/-- Leading digits as a number, and the power of ten to multiply it with. -/
structure Leading where
  significand : Nat
  exponent : Int
  /-- Whether some digit did not fit. -/
  full : Bool

/-- Takes one more digit if it still fits into 64 bits. -/
def Leading.fits (l : Leading) (c : Char) : Bool :=
  l.significand * 10 + digitValue c < UInt64.size

/-- One more digit before the point: past the last one that fits they only count. -/
def Leading.pushWhole (l : Leading) (c : Char) : Leading :=
  if !l.full && l.fits c then { l with significand := l.significand * 10 + digitValue c }
  else { l with exponent := l.exponent + 1, full := true }

/-- One more digit behind the point: past the last one that fits they are dropped. -/
def Leading.pushFraction (l : Leading) (c : Char) : Leading :=
  if !l.full && l.fits c then
    { l with significand := l.significand * 10 + digitValue c, exponent := l.exponent - 1 }
  else { l with full := true }

/-- Ten to a power up to 308, as a double. -/
def powerOfTen (n : Nat) : Float := Float.ofScientific 1 false n

/-- Scales down by steps of `10 ^ 308` until the exponent is at least `-308`. -/
def scaleDown : Nat → Float → Int → Float × Int
  | 0, f, e => (f, e)
  | n + 1, f, e => if -308 ≤ e then (f, e) else scaleDown n (f / powerOfTen 308) (e + 308)

/-- The double of a significand and a power of ten; `none` beyond the largest double. -/
def doubleOf? (significand : Nat) (exponent : Int) : Option Float :=
  let f := (UInt64.ofNat significand).toFloat
  if significand = 0 then some f
  else if 308 < exponent then none
  else if 0 ≤ exponent then
    let g := f * powerOfTen exponent.toNat
    if g.isInf then none else some g
  else
    -- three steps take any significand of 64 bits to zero
    let (f, e) := scaleDown 4 f exponent
    if e < -308 then some 0 else some (f / powerOfTen (-e).toNat)

/-- The digits as a number. -/
def natOfDigits (ds : List Char) : Nat := ds.foldl (fun n c => n * 10 + digitValue c) 0

/-- The double that a numeral stands for. -/
def Numeral.double? (n : Numeral) : Option Decimal.Double :=
  let l := n.whole.foldl Leading.pushWhole ⟨0, 0, false⟩
  let l := (n.fraction.getD []).foldl Leading.pushFraction { l with full := false }
  let exponent : Int :=
    match n.exponent with
    | none => l.exponent
    | some (true, ds) => l.exponent - natOfDigits ds
    | some (false, ds) => l.exponent + natOfDigits ds
  (doubleOf? l.significand exponent).map fun f =>
    let d := Decimal.Double.ofFloat f
    if n.negative then d.negate else d

/-- The value that a numeral stands for. -/
def Numeral.value? (n : Numeral) : Option Json :=
  let i := natOfDigits n.whole
  if n.fraction.isNone ∧ n.exponent.isNone then
    if !n.negative && i < UInt64.size then some (.int i)
    else if n.negative && 0 < i && i ≤ UInt64.size / 2 then some (.int (-i))
    else n.double?.map .double
  else n.double?.map .double

end HostedNode.Json

/-! # Durations

A span of time in nanoseconds, and its text in the largest of the units s, ms, µs and ns that it
reaches, with as many decimals as it needs. -/

namespace HostedNode.Decimal

/-- A span of time. -/
structure Duration where
  nanoseconds : Nat
deriving DecidableEq, Repr, Inhabited

namespace Duration

/-- A whole number of seconds. -/
def ofSeconds (n : Nat) : Duration := ⟨n * 1000000000⟩

/-- A whole number of milliseconds. -/
def ofMilliseconds (n : Nat) : Duration := ⟨n * 1000000⟩

/-- The whole seconds of a span. -/
def seconds (d : Duration) : Nat := d.nanoseconds / 1000000000

/-- The digits of a number, padded with zeros to a width. -/
def padded (width n : Nat) : List Char :=
  let ds := Nat.toDigits 10 n
  List.replicate (width - ds.length) '0' ++ ds

/-- The span as a decimal multiple of the unit of `10 ^ width` nanoseconds. -/
def inUnit (d : Duration) (width : Nat) (unit : String) : String :=
  let size := Nat.pow 10 width
  let fraction := ((padded width (d.nanoseconds % size)).reverse.dropWhile (· = '0')).reverse
  let fraction := if width = 0 ∨ fraction.isEmpty then [] else '.' :: fraction
  String.ofList (Nat.toDigits 10 (d.nanoseconds / size) ++ fraction) ++ unit

/-- The text of a span. -/
def text (d : Duration) : String :=
  if 1000000000 ≤ d.nanoseconds then d.inUnit 9 "s"
  else if 1000000 ≤ d.nanoseconds then d.inUnit 6 "ms"
  else if 1000 ≤ d.nanoseconds then d.inUnit 3 "µs"
  else d.inUnit 0 "ns"

end Duration

end HostedNode.Decimal

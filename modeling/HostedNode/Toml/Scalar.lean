import HostedNode.Decimal.Nearest
import HostedNode.Toml.Basic
import HostedNode.Text.Hex

/-! # Numbers, truth values and moments in TOML

The values that are written without quotes and brackets, each from the list of its characters.
Digits may have single underscores between them. -/

namespace HostedNode.Toml

open Decimal Text

/-! ### Numbers -/

/-- The digits of a text that may have single underscores between them; `digit` says whether a
digit stands right before. -/
def digitsFrom? (isDigit : Char → Bool) (digit : Bool) : List Char → Option (List Char)
  | [] => if digit then some [] else none
  | c :: cs =>
    if c = '_' then if digit then digitsFrom? isDigit false cs else none
    else if isDigit c then (digitsFrom? isDigit true cs).map (c :: ·)
    else none

/-- The number that digits of a base write. -/
def ofDigits (base : Nat) (ds : List Char) : Nat :=
  ds.foldl (fun n c => n * base + (Hex.digitValue? c).getD 0) 0

/-- Whether a character is a digit of a base. -/
def isDigitOf (base : Nat) (c : Char) : Bool :=
  match Hex.digitValue? c with
  | some d => d < base
  | none => false

/-- A number in a base, with underscores between its digits. -/
def numberIn? (base : Nat) (cs : List Char) : Option Nat :=
  (digitsFrom? (isDigitOf base) false cs).map (ofDigits base)

/-- What stands before the first character of some kind, and what stands behind it. -/
def splitAt (p : Char → Bool) (cs : List Char) : List Char × Option (List Char) :=
  match cs.dropWhile (!p ·) with
  | [] => (cs, none)
  | _ :: rest => (cs.takeWhile (!p ·), some rest)

/-- A sign, if there is one: whether it is a minus, and what follows. -/
def takeSign : List Char → Bool × List Char
  | '+' :: cs => (false, cs)
  | '-' :: cs => (true, cs)
  | cs => (false, cs)

/-- The digits before the point. A first zero stands alone. -/
def wholeDigits? (cs : List Char) : Option (List Char) :=
  if cs.head? = some '0' ∧ cs ≠ ['0'] then none else digitsFrom? Char.isDigit false cs

/-- The value of an exponent. -/
def exponent? (cs : List Char) : Option Int :=
  let (negative, ds) := takeSign cs
  (digitsFrom? Char.isDigit false ds).map fun ds =>
    if negative then -(ofDigits 10 ds : Int) else ofDigits 10 ds

/-- A number in base ten behind its sign. -/
def decimal? (negative : Bool) (cs : List Char) : Option Toml := do
  let (mantissa, exponent) := splitAt (fun c => c = 'e' || c = 'E') cs
  let (whole, fraction) := splitAt (· = '.') mantissa
  let whole ← wholeDigits? whole
  match fraction, exponent with
  | none, none =>
    let n := ofDigits 10 whole
    return .integer (if negative then -(n : Int) else n)
  | _, _ =>
    let fraction ← match fraction with
      | some ds => digitsFrom? Char.isDigit false ds
      | none => some []
    let exponent ← match exponent with
      | some e => exponent? e
      | none => some 0
    return .float (nearest? negative (ofDigits 10 (whole ++ fraction)) (exponent - fraction.length))

/-- The bits of the infinite double. -/
def infinity : Double := ⟨0x7FF0000000000000⟩

/-- The bits of a double that is no number. -/
def notANumber : Double := ⟨0x7FF8000000000000⟩

/-- A number. -/
def number? : List Char → Option Toml
  | '0' :: 'x' :: cs => (numberIn? 16 cs).map fun n => .integer n
  | '0' :: 'o' :: cs => (numberIn? 8 cs).map fun n => .integer n
  | '0' :: 'b' :: cs => (numberIn? 2 cs).map fun n => .integer n
  | cs =>
    let (negative, rest) := takeSign cs
    let signed (d : Double) : Option Toml := some (.float (some (if negative then d.negate else d)))
    if rest = ['i', 'n', 'f'] then signed infinity
    else if rest = ['n', 'a', 'n'] then signed notANumber
    else decimal? negative rest

/-! ### Moments -/

/-- Takes a number of exactly `n` digits. -/
def takeNumber (n : Nat) (cs : List Char) : Option (Nat × List Char) :=
  let ds := cs.take n
  if ds.length = n ∧ ds.all Char.isDigit then some (ofDigits 10 ds, cs.drop n) else none

/-- Takes a character that must come next. -/
def takeChar (c : Char) : List Char → Option (List Char)
  | d :: cs => if d = c then some cs else none
  | [] => none

/-- The days of a month. -/
def daysIn (year month : Nat) : Nat :=
  if month = 2 then if year % 4 = 0 ∧ (year % 100 ≠ 0 ∨ year % 400 = 0) then 29 else 28
  else if month = 4 ∨ month = 6 ∨ month = 9 ∨ month = 11 then 30
  else 31

/-- Takes a date. -/
def takeDate (cs : List Char) : Option (List Char) := do
  let (year, cs) ← takeNumber 4 cs
  let (month, cs) ← takeNumber 2 (← takeChar '-' cs)
  let (day, cs) ← takeNumber 2 (← takeChar '-' cs)
  if 1 ≤ month ∧ month ≤ 12 ∧ 1 ≤ day ∧ day ≤ daysIn year month then some cs else none

/-- Takes hours and minutes. -/
def takeMinutes (cs : List Char) : Option (List Char) := do
  let (hour, cs) ← takeNumber 2 cs
  let (minute, cs) ← takeNumber 2 (← takeChar ':' cs)
  if hour ≤ 23 ∧ minute ≤ 59 then some cs else none

/-- Takes a fraction of a second, if there is one. -/
def takeFraction : List Char → Option (List Char)
  | '.' :: cs =>
    if (cs.takeWhile Char.isDigit).isEmpty then none else some (cs.dropWhile Char.isDigit)
  | cs => some cs

/-- Takes a time of day; the seconds may be left out. -/
def takeTime (cs : List Char) : Option (List Char) := do
  match ← takeMinutes cs with
  | ':' :: cs =>
    let (second, cs) ← takeNumber 2 cs
    if second ≤ 60 then takeFraction cs else none
  | cs => some cs

/-- Whether a text is nothing, or a distance from universal time. -/
def isOffset : List Char → Bool
  | [] => true
  | ['Z'] => true
  | ['z'] => true
  | '+' :: cs => takeMinutes cs == some []
  | '-' :: cs => takeMinutes cs == some []
  | _ => false

/-- Whether a text is a date and nothing else. -/
def isDate (cs : List Char) : Bool := takeDate cs == some []

/-- Whether a text is a date, a time of day, or both. -/
def isMoment (cs : List Char) : Bool :=
  match takeDate cs with
  | none => takeTime cs == some []
  | some [] => true
  | some (c :: rest) =>
    (c = 'T' || c = 't' || c = ' ')
      && match takeTime rest with
        | some offset => isOffset offset
        | none => false

/-! ### Either -/

/-- Whether a character may stand in such a value. -/
def isScalarChar (c : Char) : Bool :=
  c.isAlphanum || c = '+' || c = '-' || c = '_' || c = '.' || c = ':'

/-- A value without quotes and brackets. -/
def scalar? (cs : List Char) : Option Toml :=
  if cs = ['t', 'r', 'u', 'e'] then some (.boolean true)
  else if cs = ['f', 'a', 'l', 's', 'e'] then some (.boolean false)
  else if isMoment cs then some (.moment (String.ofList cs))
  else number? cs

/-- Reads such a value. A date and a time of day may have a blank between them. -/
def readScalar (cs : List Char) : Option (Toml × List Char) :=
  let token := cs.takeWhile isScalarChar
  let rest := cs.dropWhile isScalarChar
  let time := (rest.drop 1).takeWhile isScalarChar
  if isDate token ∧ rest.head? = some ' ' ∧ (time.head?.map Char.isDigit).getD false then
    (scalar? (token ++ ' ' :: time)).map (·, (rest.drop 1).dropWhile isScalarChar)
  else (scalar? token).map (·, rest)

end HostedNode.Toml

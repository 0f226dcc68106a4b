/-! # Bytes as hexadecimal digits

`encode` writes two lower-case digits a byte. `decode` reads digits of either case and says which
fault it met: an odd number of digits, or the first character that is no digit. -/

namespace HostedNode

/-- A sequence of bytes. -/
abbrev Bytes := List UInt8

namespace Text.Hex

/-- The digit of a number below 16. -/
def digit (n : Nat) : Char := if n < 10 then Char.ofNat (48 + n) else Char.ofNat (87 + n)

/-- The value of a digit of either case. -/
def digitValue? (c : Char) : Option Nat :=
  if '0' ≤ c ∧ c ≤ '9' then some (c.toNat - 48)
  else if 'a' ≤ c ∧ c ≤ 'f' then some (c.toNat - 87)
  else if 'A' ≤ c ∧ c ≤ 'F' then some (c.toNat - 55)
  else none

/-- The two digits of a byte. -/
def encodeByte (b : UInt8) : List Char := [digit (b.toNat / 16), digit (b.toNat % 16)]

/-- Two digits a byte. -/
def encodeChars (bs : Bytes) : List Char := bs.flatMap encodeByte

/-- Two digits a byte. -/
def encode (bs : Bytes) : String := String.ofList (encodeChars bs)

/-- Why a text is no sequence of bytes. -/
inductive Error where
  | oddLength
  | notADigit
deriving Repr, DecidableEq

/-- The wording of an error. -/
def Error.message : Error → String
  | .oddLength => "odd length, failed to create bytes from hex"
  | .notADigit => "invalid char, failed to create bytes from hex"

/-- Reads pairs of digits; `none` if some character is no digit or a digit stands alone. -/
def decodeChars? : List Char → Option Bytes
  | [] => some []
  | [_] => none
  | c :: d :: rest =>
    match digitValue? c, digitValue? d with
    | some h, some l => (decodeChars? rest).map (UInt8.ofNat (16 * h + l) :: ·)
    | _, _ => none

/-- Reads pairs of digits; the length is looked at before the digits. -/
def decode (s : String) : Except Error Bytes :=
  if s.utf8ByteSize % 2 = 1 then .error .oddLength
  else match decodeChars? s.toList with
    | some bs => .ok bs
    | none => .error .notADigit

end Text.Hex

end HostedNode

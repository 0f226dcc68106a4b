import HostedNode.Text.Hex

/-! # Bytes as text

`encode` is the UTF-8 form of a text. `decode?` reads bytes that are valid UTF-8, `decodeLossy`
reads any bytes and puts U+FFFD in place of every longest stretch that begins no character: a
truncated sequence counts as one stretch, a byte that can begin nothing as one of its own. -/

namespace HostedNode.Text.Utf8

/-- The UTF-8 form of a text. -/
def encode (s : String) : Bytes := s.toUTF8.toList

/-- Whether a byte continues a sequence. -/
def isContinuation (b : UInt8) : Bool := 0x80 ≤ b && b ≤ 0xBF

/-- The bytes that may follow the first byte of a sequence: how many in all, and the bounds of the
one right after it. They leave out overlong forms, surrogates and values above U+10FFFF. -/
def tailOf (b : UInt8) : Option (Nat × UInt8 × UInt8) :=
  if 0xC2 ≤ b ∧ b ≤ 0xDF then some (1, 0x80, 0xBF)
  else if b = 0xE0 then some (2, 0xA0, 0xBF)
  else if b = 0xED then some (2, 0x80, 0x9F)
  else if 0xE1 ≤ b ∧ b ≤ 0xEF then some (2, 0x80, 0xBF)
  else if b = 0xF0 then some (3, 0x90, 0xBF)
  else if 0xF1 ≤ b ∧ b ≤ 0xF3 then some (3, 0x80, 0xBF)
  else if b = 0xF4 then some (3, 0x80, 0x8F)
  else none

/-- The continuation bytes at the front, `n` at most. -/
def takeTail : Nat → Bytes → Bytes
  | 0, _ => []
  | _ + 1, [] => []
  | n + 1, b :: bs => if isContinuation b then b :: takeTail n bs else []

/-- What the first bytes of a sequence are: a character and its length, or a stretch that is none
and its length. -/
def step (b : UInt8) (bs : Bytes) : Option Char × Nat :=
  if b < 0x80 then (some (Char.ofNat b.toNat), 1)
  else match tailOf b with
    | none => (none, 1)
    | some (n, lo, hi) =>
      match bs with
      | [] => (none, 1)
      | c :: cs =>
        if lo ≤ c ∧ c ≤ hi then
          let rest := takeTail (n - 1) cs
          if rest.length = n - 1 then
            let first := b.toNat % Nat.pow 2 (6 - n)
            (some (Char.ofNat ((c :: rest).foldl (fun v d => v * 64 + d.toNat % 64) first)), n + 1)
          else (none, 2 + rest.length)
        else (none, 1)

/-- The first characters of the bytes, `n` at most, with `none` for every stretch that is none. -/
def firstPieces : Nat → Bytes → List (Option Char)
  | _, [] => []
  | 0, _ => []
  | n + 1, b :: bs =>
    let s := step b bs
    s.1 :: firstPieces n ((b :: bs).drop s.2)

/-- The characters of the bytes, with `none` for every stretch that is none. -/
def pieces (bs : Bytes) : List (Option Char) := firstPieces bs.length bs

/-- The characters of the bytes, with U+FFFD for every stretch that is none. -/
def decodeLossy (bs : Bytes) : String :=
  String.ofList ((pieces bs).map fun c => c.getD (Char.ofNat 0xFFFD))

/-- The text of the bytes, if they are valid UTF-8. -/
def decode? (bs : Bytes) : Option String := String.fromUTF8? ⟨bs.toArray⟩

end HostedNode.Text.Utf8

import HostedNode.Curve.Point
import HostedNode.Hash.Hmac

/-! # Signatures

`sign` makes a signature of a digest from which the public key can be recovered. The secret number
of a signature is drawn from the key and the digest, so a signature is always the same; of the two
forms of the second half it takes the smaller. `recover` gives the public key; it takes both forms.

A candidate for the secret number is refused in one of `2 ^ 127` cases; `attempts` bounds how many
are tried. -/

namespace HostedNode.Curve

open Hash

/-- A signature, with the number that tells which point its first half comes from. -/
structure Signature where
  r : Nat
  s : Nat
  /-- The parity of the point, plus two if its first coordinate is not below the order. -/
  recovery : Nat
deriving DecidableEq, Repr, Inhabited

namespace Signature

/-- The 64 bytes of both halves. -/
def compact (g : Signature) : Bytes := bigEndianBytes 32 g.r ++ bigEndianBytes 32 g.s

/-- Reads both halves from 64 bytes. -/
def ofCompact? (bs : Bytes) (recovery : Nat) : Option Signature :=
  let r := bigEndian (bs.take 32)
  let s := bigEndian (bs.drop 32)
  if bs.length = 64 ∧ r < order ∧ s < order ∧ recovery < 4 then some ⟨r, s, recovery⟩ else none

end Signature

/-! ### Secret numbers -/

/-- The source of candidates. -/
structure Source where
  key : Bytes
  value : Bytes

namespace Source

/-- Mixes bytes into the source. -/
def mix (g : Source) (bs : Bytes) : Source :=
  let key := hmac .sha256 g.key (g.value ++ bs)
  ⟨key, hmac .sha256 key g.value⟩

/-- The source for a key and a digest. -/
def ofKey (key : Nat) (digest : Bytes) : Source :=
  let bs := bigEndianBytes 32 key ++ digest
  ((⟨List.replicate 32 0, List.replicate 32 1⟩ : Source).mix (0 :: bs)).mix (1 :: bs)

/-- The source with its next candidate as its value. -/
def next (g : Source) : Source := { g with value := hmac .sha256 g.key g.value }

end Source

/-! ### Signing and recovering -/

/-- The signature of a digest with a secret number; a half that is zero makes it useless. -/
def signWith (key : Nat) (digest : Bytes) (nonce : Nat) : Signature :=
  match Point.generator.times nonce with
  | .zero => ⟨0, 0, 0⟩
  | .affine x y =>
    let r := x % order
    let s := inverse order nonce * (bigEndian digest + r * key) % order
    let recovery := y % 2 + if order ≤ x then 2 else 0
    if order / 2 < s then ⟨r, order - s, recovery ^^^ 1⟩ else ⟨r, s, recovery⟩

/-- Signs with the first candidate of the source that will do; the last one tried stands. -/
def signFrom (key : Nat) (digest : Bytes) : Nat → Source → Signature
  | 0, _ => ⟨0, 0, 0⟩
  | n + 1, g =>
    let g := g.next
    let nonce := bigEndian g.value
    let signature := signWith key digest nonce
    if 0 < nonce ∧ nonce < order ∧ 0 < signature.r ∧ 0 < signature.s then signature
    else signFrom key digest n (g.mix [0])

/-- How many candidates are tried. -/
def attempts : Nat := 64

/-- Signs a digest of 32 bytes. -/
def sign (key : Nat) (digest : Bytes) : Signature :=
  signFrom key digest attempts (.ofKey key digest)

/-- The public key of a secret key. -/
def publicKey (key : Nat) : Point := Point.generator.times key

/-- The public key whose signature of the digest this is. -/
def recover (digest : Bytes) (g : Signature) : Option Point :=
  if g.r = 0 ∨ g.s = 0 then none
  else
    let x := if 2 ≤ g.recovery then g.r + order else g.r
    match Point.ofX? x (g.recovery % 2 == 1) with
    | none => none
    | some p =>
      let inv := inverse order g.r
      let u := minus order 0 (inv * bigEndian digest)
      match (Point.generator.times (u % order)).add (p.times (inv * g.s % order)) with
      | .zero => none
      | q => some q

end HostedNode.Curve

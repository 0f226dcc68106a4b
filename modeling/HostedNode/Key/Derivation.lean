import HostedNode.Curve.Ecdsa
import HostedNode.Hash.Ripemd160
import HostedNode.Text.Utf8

/-! # Keys derived from a seed

A seed has a master key, and every key has children, by number. Beside the secret number a key has
a chain code, which takes part in deriving its children; those of hardened numbers cannot be
derived from the public key. In one of `2 ^ 127` cases there is no key. -/

namespace HostedNode.Key

open Curve Hash Text

/-- A secret key with its chain code. -/
structure ExtendedKey where
  secret : Nat
  chain : Bytes
deriving DecidableEq, Repr, Inhabited

namespace ExtendedKey

/-- The key with a secret number and a chain code, if the number can be one. -/
def ofSecret? (secret : Nat) (chain : Bytes) : Option ExtendedKey :=
  if 0 < secret ∧ secret < order then some ⟨secret, chain⟩ else none

/-- The master key of a seed. -/
def master? (seed : Bytes) : Option ExtendedKey :=
  let digest := hmac .sha512 (Utf8.encode "Bitcoin seed") seed
  ofSecret? (bigEndian (digest.take 32)) (digest.drop 32)

/-- The child of a hardened number. -/
def hardened? (k : ExtendedKey) (index : Nat) : Option ExtendedKey :=
  let digest :=
    hmac .sha512 k.chain
      (0 :: (bigEndianBytes 32 k.secret ++ bigEndianBytes 4 (0x80000000 + index)))
  let shift := bigEndian (digest.take 32)
  if shift < order then ofSecret? ((shift + k.secret) % order) (digest.drop 32) else none

/-- The four bytes that stand for a key: the first ones of the digest of its public key. -/
def fingerprint (k : ExtendedKey) : Bytes :=
  (ripemd160 (sha256 (publicKey k.secret).compressed)).take 4

end ExtendedKey

end HostedNode.Key

import HostedNode.Key.Derivation
import HostedNode.Provider.Error
import HostedNode.Text.Zbase32

/-! # The key of a node

The key of a node is the first hardened child of the master key of its seed. Its public key is the
node id. `signChallenge` proves to the provider that the node is one's own; `signMessage` and
`verifyMessage` are for everyone else: a signed message is told from all other signed data by the
words in front of it, and its signature holds the public key too, so that `verifyMessage` compares
the key that it recovers with the one it is given. -/

namespace HostedNode

open Curve Hash Key Text

/-- The fewest bytes that a seed may have. -/
def minSeedLength : Nat := 32

/-- The key of a node. -/
structure Signer where
  secret : Nat
  /-- The public key, in hexadecimal digits. -/
  nodeId : String
  /-- What stands for the seed, in hexadecimal digits. -/
  seedFingerprint : String
deriving DecidableEq, Repr, Inhabited

namespace Signer

/-- The signer of a seed, if the keys exist. -/
def ofKeys? (seed : Bytes) : Option Signer := do
  let master ← ExtendedKey.master? seed
  let key ← master.hardened? 0
  return ⟨key.secret, Hex.encode (publicKey key.secret).compressed, Hex.encode master.fingerprint⟩

/-- The signer of a seed. -/
def ofSeed (seed : Bytes) : Except NodeError Signer :=
  if seed.length < minSeedLength then
    .error (.credentials ("seed must be at least 32 bytes, got " ++ toString seed.length))
  else match ofKeys? seed with
    | some s => .ok s
    | none => .error (.generic "secp256k1 error")

/-- Signs a challenge of the provider. -/
def signChallenge (s : Signer) (challenge : Bytes) : String :=
  Hex.encode (sign s.secret (sha256 challenge)).compact

end Signer

/-! ### Messages -/

/-- What stands in front of every message that is signed. -/
def messagePreamble : Bytes := Utf8.encode "Lightning Signed Message:"

/-- The digest of a message. -/
def messageDigest (message : Bytes) : Bytes := sha256 (sha256 (messagePreamble ++ message))

/-- The first byte of a signature is the recovery number plus this. -/
def recoveryOffset : Nat := 31

/-- The text of a signature. -/
def signatureText (g : Signature) : String :=
  Zbase32.encode (UInt8.ofNat (recoveryOffset + g.recovery) :: g.compact)

/-- Reads the text of a signature. -/
def signatureOfText? (s : String) : Option Signature :=
  match Zbase32.decode? s with
  | some (header :: rest) =>
    if recoveryOffset ≤ header.toNat then
      Signature.ofCompact? rest (header.toNat - recoveryOffset)
    else none
  | _ => none

/-- Signs a message. -/
def Signer.signMessage (s : Signer) (message : Bytes) : String :=
  signatureText (sign s.secret (messageDigest message))

/-- Whether a text is a signature of a message by the owner of a public key. -/
def verifyMessage (message : Bytes) (signature : String) (key : Point) : Bool :=
  match signatureOfText? signature with
  | some g => recover (messageDigest message) g == some key
  | none => false

end HostedNode

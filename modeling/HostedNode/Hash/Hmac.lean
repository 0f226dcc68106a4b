import HostedNode.Hash.Sha2

/-! # Keyed digests and stretched passwords

`hmac` digests a message under a key, over any hash function. `stretch` is the first block of
PBKDF2: the keyed digest of the salt under the password, digested again and again, with all results
combined. -/

namespace HostedNode.Hash

/-- A hash function with the size of the blocks it works on. -/
structure HashFunction where
  block : Nat
  digest : Bytes → Bytes

/-- SHA-256 works on blocks of 64 bytes. -/
def HashFunction.sha256 : HashFunction := ⟨64, Hash.sha256⟩

/-- SHA-512 works on blocks of 128 bytes. -/
def HashFunction.sha512 : HashFunction := ⟨128, Hash.sha512⟩

/-- The key as a block: digested if it is longer than that, then filled with zeros. -/
def HashFunction.keyBlock (h : HashFunction) (key : Bytes) : Bytes :=
  let key := if key.length ≤ h.block then key else h.digest key
  key ++ List.replicate (h.block - key.length) 0

/-- The digest of a message under a key. -/
def hmac (h : HashFunction) (key message : Bytes) : Bytes :=
  let block := h.keyBlock key
  h.digest (block.map (· ^^^ 0x5c) ++ h.digest (block.map (· ^^^ 0x36) ++ message))

/-- The bytes of two lists, combined one by one. -/
def xorBytes (xs ys : Bytes) : Bytes := xs.zipWith (· ^^^ ·) ys

/-- Digests `last` under the key `n` times over and adds every result to `sum`. -/
def stretchFrom (h : HashFunction) (key : Bytes) : Nat → Bytes → Bytes → Bytes
  | 0, _, sum => sum
  | n + 1, last, sum =>
    let next := hmac h key last
    stretchFrom h key n next (xorBytes sum next)

/-- The password stretched with a salt over `n + 1` rounds. -/
def stretch (h : HashFunction) (password salt : Bytes) (n : Nat) : Bytes :=
  let first := hmac h password (salt ++ [0, 0, 0, 1])
  stretchFrom h password n first first

end HostedNode.Hash

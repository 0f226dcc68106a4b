import HostedNode.Key.Signer
import HostedNode.Proofs.Curve.Ladder

/-! # The signer of a seed

A seed has a signer if its keys exist. What is public of it, the node id and the fingerprint, is made
of two multiples of the generator: by the secret of the first child key, and by that of the master
key (`ofKeys?_of_times`). The ladders of these show what the seeds of zeros and of ones come to, and
that their fingerprints are not the same. -/

namespace HostedNode

open Curve Hash Key Text

/-- The fingerprint of a seed, if its keys exist. -/
def fingerprint? (seed : Bytes) : Option String := (Signer.ofKeys? seed).map (·.seedFingerprint)

namespace Signer

variable {seed : Bytes} {signer : Signer}

theorem ofSeed_eq_ok_iff :
    ofSeed seed = .ok signer ↔ minSeedLength ≤ seed.length ∧ ofKeys? seed = some signer := by
  unfold ofSeed
  split
  · rename_i hlt
    constructor
    · intro h
      cases h
    · rintro ⟨hle, -⟩
      omega
  · rename_i hge
    cases ofKeys? seed with
    | none => simp
    | some s => simp [Nat.not_lt.mp hge]

theorem fingerprint?_of_ofSeed (h : ofSeed seed = .ok signer) :
    fingerprint? seed = some signer.seedFingerprint := by
  rw [fingerprint?, (ofSeed_eq_ok_iff.mp h).2]
  rfl

/-- **The signer of a seed is made of two multiples of the generator.** -/
theorem ofKeys?_of_times {a b : Nat} {p q : Point}
    (hmaster : (ExtendedKey.master? seed).map (·.secret) = some a)
    (hchild : ((ExtendedKey.master? seed).bind (·.hardened? 0)).map (·.secret) = some b)
    (hp : Point.generator.times a = p) (hq : Point.generator.times b = q) :
    ofKeys? seed =
      some ⟨b, Hex.encode q.compressed, Hex.encode ((ripemd160 (sha256 p.compressed)).take 4)⟩ := by
  obtain ⟨master, hm, rfl⟩ := Option.map_eq_some_iff.mp hmaster
  rw [hm, Option.bind_some] at hchild
  obtain ⟨child, hc, rfl⟩ := Option.map_eq_some_iff.mp hchild
  rw [ofKeys?, hm, ← hp, ← hq]
  simp only [Option.bind_eq_bind, Option.bind_some, hc]
  rfl

/-! ### Two seeds -/

/-- The seed that repeats a byte. -/
def repeated (b : UInt8) : Bytes := List.replicate minSeedLength b

/-- The signer of the seed of zeros. -/
def zeros : Signer where
  secret := 0x6866b0f3edb7023cc8feaa186611760544efc9e6946b5bb452a094af1730c3b7
  nodeId := "027f921585f2ac0c7c70e36110adecfd8fd14b8a99bfb3d000a283fcac358fce88"
  seedFingerprint := "729c0d85"

/-- The signer of the seed of ones. -/
def ones : Signer where
  secret := 0x31bbbef9e06c9ffe3fec8fa24030bccd561ca8e92dded97af7cea6ca3ac85a84
  nodeId := "0355f8d2238a322d16b602bd0ceaad5b01019fb055971eaadcc9b29226a4da6c23"
  seedFingerprint := "4ba43603"

theorem ofSeed_zeros : ofSeed (repeated 0) = .ok zeros := by
  have hmaster : (Scaled.ladder (Bits.ofNat 255
      0x82a34e3867ea7ea4e67e27865d500ae84e98d07ab1bab06526f0a5a5fdcc3eba)).Shows
      0xd63d9fd9fd772a989c5b90edb37716406356e98273e5f98fe07652247a3a8275
      0x3e948a2fdbf74a981d4e0054f10eda7042c2d469f44473d3c7791e0e326e355 := by
    decide +kernel
  have hchild : (Scaled.ladder (Bits.ofNat 254 zeros.secret)).Shows
      0x7f921585f2ac0c7c70e36110adecfd8fd14b8a99bfb3d000a283fcac358fce88
      0x5934c31ab27ad9df444d8d722b53738d42b9a98d1206e9e124b64dd39a181b4e := by
    decide +kernel
  have hkeys : ofKeys? (repeated 0) = some _ := ofKeys?_of_times (by decide +kernel)
    (by decide +kernel)
    (Scaled.times_generator (by decide) (by decide) (by decide) (by decide) hmaster)
    (Scaled.times_generator (by decide) (by decide) (by decide) (by decide) hchild)
  rw [ofSeed_eq_ok_iff, hkeys]
  decide +kernel

theorem ofSeed_ones : ofSeed (repeated 1) = .ok ones := by
  have hmaster : (Scaled.ladder (Bits.ofNat 254
      0x555e4b4c8f207577d511189dae933a475e5ec4a33162877370b7724b358c4f30)).Shows
      0x9822622cf330b98e52e7357135bc93e1e5606a57a9819408734598fe5677b134
      0x6420cd302f3c381ea8fee7a7d415e971b83b97bea034639e91511648a46689b1 := by
    decide +kernel
  have hchild : (Scaled.ladder (Bits.ofNat 253 ones.secret)).Shows
      0x55f8d2238a322d16b602bd0ceaad5b01019fb055971eaadcc9b29226a4da6c23
      0xdb499b96f44f23a1d97e17d5c6c002629409ca41f83619a32a38a0c2c875280b := by
    decide +kernel
  have hkeys : ofKeys? (repeated 1) = some _ := ofKeys?_of_times (by decide +kernel)
    (by decide +kernel)
    (Scaled.times_generator (by decide) (by decide) (by decide) (by decide) hmaster)
    (Scaled.times_generator (by decide) (by decide) (by decide) (by decide) hchild)
  rw [ofSeed_eq_ok_iff, hkeys]
  decide +kernel

end Signer

end HostedNode

import HostedNode.Text.Hex

/-! # SHA-256 and SHA-512

Both functions are one construction over words of 32 and of 64 bits: a message is padded to whole
blocks of 16 words, each block is spread over a schedule of words, and for each word of the schedule
a round mixes eight working variables. `Family` holds what differs. The round constants of the
smaller function are the upper halves of the first 64 of the larger one, and the same holds for the
initial variables: they are the fractional parts of cube roots and square roots of the first
primes. -/

namespace HostedNode.Hash

/-- Machine words of some width. -/
class Word (ω : Type) extends Add ω, XorOp ω, AndOp ω, Complement ω where
  bytes : Nat
  ofNat : Nat → ω
  toNat : ω → Nat
  /-- Moves the bits to the right by a number of places and puts those that drop out in front. -/
  rotate : ω → Nat → ω
  shift : ω → Nat → ω

instance : Word UInt32 where
  bytes := 4
  ofNat := UInt32.ofNat
  toNat := UInt32.toNat
  rotate x n := (x >>> UInt32.ofNat n) ||| (x <<< UInt32.ofNat (32 - n))
  shift x n := x >>> UInt32.ofNat n

instance : Word UInt64 where
  bytes := 8
  ofNat := UInt64.ofNat
  toNat := UInt64.toNat
  rotate x n := (x >>> UInt64.ofNat n) ||| (x <<< UInt64.ofNat (64 - n))
  shift x n := x >>> UInt64.ofNat n

/-- The eight working variables. -/
structure Variables (ω : Type) where
  a : ω
  b : ω
  c : ω
  d : ω
  e : ω
  f : ω
  g : ω
  h : ω

/-- What tells the two functions apart. -/
structure Family (ω : Type) where
  constants : List ω
  initial : Variables ω
  /-- Rotations of the first variable in a round. -/
  upper : Nat × Nat × Nat
  /-- Rotations of the fifth variable in a round. -/
  lower : Nat × Nat × Nat
  /-- Rotations and shift of the word 15 places back in the schedule. -/
  early : Nat × Nat × Nat
  /-- Rotations and shift of the word 2 places back in the schedule. -/
  late : Nat × Nat × Nat

variable {ω : Type} [Word ω]

/-- Three rotations of a word, combined. -/
@[inline] def turned (r : Nat × Nat × Nat) (x : ω) : ω :=
  Word.rotate x r.1 ^^^ Word.rotate x r.2.1 ^^^ Word.rotate x r.2.2

/-- Two rotations and a shift of a word, combined. -/
@[inline] def smeared (r : Nat × Nat × Nat) (x : ω) : ω :=
  Word.rotate x r.1 ^^^ Word.rotate x r.2.1 ^^^ Word.shift x r.2.2

/-- One round. -/
@[inline] def Family.round (fam : Family ω) (v : Variables ω) (k w : ω) : Variables ω :=
  let t := v.h + turned fam.lower v.e + ((v.e &&& v.f) ^^^ (~~~v.e &&& v.g)) + k + w
  let u := turned fam.upper v.a + ((v.a &&& v.b) ^^^ (v.a &&& v.c) ^^^ (v.b &&& v.c))
  { a := t + u, b := v.a, c := v.b, d := v.c, e := v.d + t, f := v.e, g := v.f, h := v.g }

/-- Extends a schedule by `n` words; `ws` holds its words so far, the newest first. -/
@[specialize] def Family.extend (fam : Family ω) : Nat → List ω → List ω
  | 0, ws => ws
  | n + 1, ws =>
    match ws with
    | _ :: w2 :: _ :: _ :: _ :: _ :: w7 :: _ :: _ :: _ :: _ :: _ :: _ :: _ :: w15 :: w16 :: _ =>
      fam.extend n ((smeared fam.late w2 + w7 + smeared fam.early w15 + w16) :: ws)
    | _ => ws

/-- The schedule of a block: one word for every constant. -/
@[specialize] def Family.schedule (fam : Family ω) (block : List ω) : List ω :=
  (fam.extend (fam.constants.length - block.length) block.reverse).reverse

/-- One round for every constant and the word of the schedule beside it. -/
@[specialize] def Family.rounds (fam : Family ω) : List ω → List ω → Variables ω → Variables ω
  | k :: ks, w :: ws, v => fam.rounds ks ws (fam.round v k w)
  | _, _, v => v

/-- The variables after one more block. -/
@[specialize] def Family.absorb (fam : Family ω) (v : Variables ω) (block : List ω) : Variables ω :=
  let r := fam.rounds fam.constants (fam.schedule block) v
  { a := v.a + r.a, b := v.b + r.b, c := v.c + r.c, d := v.d + r.d, e := v.e + r.e,
    f := v.f + r.f, g := v.g + r.g, h := v.h + r.h }

/-- Cuts a list into pieces of `n + 1`; a shorter rest is dropped. -/
def chunks {α : Type} (n : Nat) (xs : List α) : List (List α) :=
  match h : xs.drop n with
  | [] => []
  | _ :: rest => xs.take (n + 1) :: chunks n rest
termination_by xs.length
decreasing_by
  have := congrArg List.length h
  simp at this
  omega

/-- The number of bytes taken with the highest first. -/
def bigEndian (bs : Bytes) : Nat := bs.foldl (fun n b => n * 256 + b.toNat) 0

/-- Puts the lowest `width` bytes of a number before other bytes, the highest first. -/
def pushBytes : Nat → Nat → Bytes → Bytes
  | 0, _, bs => bs
  | width + 1, n, bs => pushBytes width (n / 256) (UInt8.ofNat n :: bs)

/-- The lowest `width` bytes of a number, the highest first. -/
def bigEndianBytes (width n : Nat) : Bytes := pushBytes width n []

/-- The message with a one bit, zeros up to a whole number of blocks, and its length in bits. -/
def padded (wordBytes : Nat) (message : Bytes) : Bytes :=
  let block := 16 * wordBytes
  let zeros := (2 * block - 1 - 2 * wordBytes - message.length % block) % block
  message ++ 0x80 :: (List.replicate zeros 0 ++ bigEndianBytes (2 * wordBytes) (8 * message.length))

/-- The digest of a message. -/
@[specialize] def Family.digest (fam : Family ω) (message : Bytes) : Bytes :=
  let size := Word.bytes (ω := ω)
  let words := (chunks (size - 1) (padded size message)).map fun bs =>
    (Word.ofNat (bigEndian bs) : ω)
  let v := (chunks 15 words).foldl fam.absorb fam.initial
  [v.a, v.b, v.c, v.d, v.e, v.f, v.g, v.h].flatMap fun x => bigEndianBytes size (Word.toNat x)

/-- Fractional parts of the cube roots of the first 80 primes. -/
def cubeRoots : List Nat :=
  [0x428a2f98d728ae22, 0x7137449123ef65cd, 0xb5c0fbcfec4d3b2f, 0xe9b5dba58189dbbc,
    0x3956c25bf348b538, 0x59f111f1b605d019, 0x923f82a4af194f9b, 0xab1c5ed5da6d8118,
    0xd807aa98a3030242, 0x12835b0145706fbe, 0x243185be4ee4b28c, 0x550c7dc3d5ffb4e2,
    0x72be5d74f27b896f, 0x80deb1fe3b1696b1, 0x9bdc06a725c71235, 0xc19bf174cf692694,
    0xe49b69c19ef14ad2, 0xefbe4786384f25e3, 0x0fc19dc68b8cd5b5, 0x240ca1cc77ac9c65,
    0x2de92c6f592b0275, 0x4a7484aa6ea6e483, 0x5cb0a9dcbd41fbd4, 0x76f988da831153b5,
    0x983e5152ee66dfab, 0xa831c66d2db43210, 0xb00327c898fb213f, 0xbf597fc7beef0ee4,
    0xc6e00bf33da88fc2, 0xd5a79147930aa725, 0x06ca6351e003826f, 0x142929670a0e6e70,
    0x27b70a8546d22ffc, 0x2e1b21385c26c926, 0x4d2c6dfc5ac42aed, 0x53380d139d95b3df,
    0x650a73548baf63de, 0x766a0abb3c77b2a8, 0x81c2c92e47edaee6, 0x92722c851482353b,
    0xa2bfe8a14cf10364, 0xa81a664bbc423001, 0xc24b8b70d0f89791, 0xc76c51a30654be30,
    0xd192e819d6ef5218, 0xd69906245565a910, 0xf40e35855771202a, 0x106aa07032bbd1b8,
    0x19a4c116b8d2d0c8, 0x1e376c085141ab53, 0x2748774cdf8eeb99, 0x34b0bcb5e19b48a8,
    0x391c0cb3c5c95a63, 0x4ed8aa4ae3418acb, 0x5b9cca4f7763e373, 0x682e6ff3d6b2b8a3,
    0x748f82ee5defb2fc, 0x78a5636f43172f60, 0x84c87814a1f0ab72, 0x8cc702081a6439ec,
    0x90befffa23631e28, 0xa4506cebde82bde9, 0xbef9a3f7b2c67915, 0xc67178f2e372532b,
    0xca273eceea26619c, 0xd186b8c721c0c207, 0xeada7dd6cde0eb1e, 0xf57d4f7fee6ed178,
    0x06f067aa72176fba, 0x0a637dc5a2c898a6, 0x113f9804bef90dae, 0x1b710b35131c471b,
    0x28db77f523047d84, 0x32caab7b40c72493, 0x3c9ebe0a15c9bebc, 0x431d67c49c100d4c,
    0x4cc5d4becb3e42b6, 0x597f299cfc657e2a, 0x5fcb6fab3ad6faec, 0x6c44198c4a475817]

/-- Fractional parts of the square roots of the first 8 primes. -/
def squareRoots : Variables Nat where
  a := 0x6a09e667f3bcc908
  b := 0xbb67ae8584caa73b
  c := 0x3c6ef372fe94f82b
  d := 0xa54ff53a5f1d36f1
  e := 0x510e527fade682d1
  f := 0x9b05688c2b3e6c1f
  g := 0x1f83d9abfb41bd6b
  h := 0x5be0cd19137e2179

/-- The function over words of 32 bits. -/
def family256 : Family UInt32 where
  constants := (cubeRoots.take 64).map fun n => UInt32.ofNat (n / UInt32.size)
  initial :=
    let word n := UInt32.ofNat (n / UInt32.size)
    let r := squareRoots
    ⟨word r.a, word r.b, word r.c, word r.d, word r.e, word r.f, word r.g, word r.h⟩
  upper := (2, 13, 22)
  lower := (6, 11, 25)
  early := (7, 18, 3)
  late := (17, 19, 10)

/-- The function over words of 64 bits. -/
def family512 : Family UInt64 where
  constants := cubeRoots.map UInt64.ofNat
  initial :=
    let word := UInt64.ofNat
    let r := squareRoots
    ⟨word r.a, word r.b, word r.c, word r.d, word r.e, word r.f, word r.g, word r.h⟩
  upper := (28, 34, 39)
  lower := (14, 18, 41)
  early := (1, 8, 7)
  late := (19, 61, 6)

/-- The SHA-256 digest of a message: 32 bytes. -/
def sha256 (message : Bytes) : Bytes := family256.digest message

/-- The SHA-512 digest of a message: 64 bytes. -/
def sha512 (message : Bytes) : Bytes := family512.digest message

end HostedNode.Hash

import HostedNode.Hash.Sha2

/-! # RIPEMD-160

The message is padded as for SHA-256, but with the lowest bytes first. Two lines of eighty steps
run over each block side by side; they differ in their constants and in the order of words and
rotations, and use the five mixing functions in opposite orders. -/

namespace HostedNode.Hash.Ripemd160

/-- The five working variables. -/
structure Variables where
  a : UInt32
  b : UInt32
  c : UInt32
  d : UInt32
  e : UInt32

/-- The variables before the first block. -/
def initial : Variables := ⟨0x67452301, 0xefcdab89, 0x98badcfe, 0x10325476, 0xc3d2e1f0⟩

/-- Moves the bits to the left by a number of places and puts those that drop out behind. -/
def rotateLeft (x : UInt32) (n : Nat) : UInt32 :=
  (x <<< UInt32.ofNat n) ||| (x >>> UInt32.ofNat (32 - n))

/-- The mixing functions. -/
def mix : Nat → UInt32 → UInt32 → UInt32 → UInt32
  | 0, x, y, z => x ^^^ y ^^^ z
  | 1, x, y, z => (x &&& y) ||| (~~~x &&& z)
  | 2, x, y, z => (x ||| ~~~y) ^^^ z
  | 3, x, y, z => (x &&& z) ||| (y &&& ~~~z)
  | _, x, y, z => x ^^^ (y ||| ~~~z)

/-- Sixteen steps: the mixing function and the constant for all of them, and for each step the place
of its word in the block and its rotation. -/
structure Round where
  /-- The number of the mixing function. -/
  mixing : Nat
  constant : UInt32
  /-- For each step the place of its word and its rotation. -/
  steps : List (Nat × Nat)

/-- The rounds of the first line. -/
def left : List Round :=
  [⟨0, 0x00000000,
      [(0, 11), (1, 14), (2, 15), (3, 12), (4, 5), (5, 8), (6, 7), (7, 9),
        (8, 11), (9, 13), (10, 14), (11, 15), (12, 6), (13, 7), (14, 9), (15, 8)]⟩,
    ⟨1, 0x5a827999,
      [(7, 7), (4, 6), (13, 8), (1, 13), (10, 11), (6, 9), (15, 7), (3, 15),
        (12, 7), (0, 12), (9, 15), (5, 9), (2, 11), (14, 7), (11, 13), (8, 12)]⟩,
    ⟨2, 0x6ed9eba1,
      [(3, 11), (10, 13), (14, 6), (4, 7), (9, 14), (15, 9), (8, 13), (1, 15),
        (2, 14), (7, 8), (0, 13), (6, 6), (13, 5), (11, 12), (5, 7), (12, 5)]⟩,
    ⟨3, 0x8f1bbcdc,
      [(1, 11), (9, 12), (11, 14), (10, 15), (0, 14), (8, 15), (12, 9), (4, 8),
        (13, 9), (3, 14), (7, 5), (15, 6), (14, 8), (5, 6), (6, 5), (2, 12)]⟩,
    ⟨4, 0xa953fd4e,
      [(4, 9), (0, 15), (5, 5), (9, 11), (7, 6), (12, 8), (2, 13), (10, 12),
        (14, 5), (1, 12), (3, 13), (8, 14), (11, 11), (6, 8), (15, 5), (13, 6)]⟩]

/-- The rounds of the second line. -/
def right : List Round :=
  [⟨4, 0x50a28be6,
      [(5, 8), (14, 9), (7, 9), (0, 11), (9, 13), (2, 15), (11, 15), (4, 5),
        (13, 7), (6, 7), (15, 8), (8, 11), (1, 14), (10, 14), (3, 12), (12, 6)]⟩,
    ⟨3, 0x5c4dd124,
      [(6, 9), (11, 13), (3, 15), (7, 7), (0, 12), (13, 8), (5, 9), (10, 11),
        (14, 7), (15, 7), (8, 12), (12, 7), (4, 6), (9, 15), (1, 13), (2, 11)]⟩,
    ⟨2, 0x6d703ef3,
      [(15, 9), (5, 7), (1, 15), (3, 11), (7, 8), (14, 6), (6, 6), (9, 14),
        (11, 12), (8, 13), (12, 5), (2, 14), (10, 13), (0, 13), (4, 7), (13, 5)]⟩,
    ⟨1, 0x7a6d76e9,
      [(8, 15), (6, 5), (4, 8), (1, 11), (3, 14), (11, 14), (15, 6), (0, 14),
        (5, 6), (12, 9), (2, 12), (13, 9), (9, 12), (7, 5), (10, 15), (14, 8)]⟩,
    ⟨0, 0x00000000,
      [(12, 8), (15, 5), (10, 12), (4, 9), (1, 12), (5, 5), (8, 14), (7, 6),
        (6, 8), (2, 13), (13, 6), (14, 5), (0, 15), (3, 13), (9, 11), (11, 11)]⟩]

/-- One step. -/
def Round.step (r : Round) (block : List UInt32) (v : Variables) (s : Nat × Nat) : Variables :=
  let t := rotateLeft (v.a + mix r.mixing v.b v.c v.d + block.getD s.1 0 + r.constant) s.2 + v.e
  ⟨v.e, t, v.b, rotateLeft v.c 10, v.d⟩

/-- All steps of a line. -/
def line (rounds : List Round) (block : List UInt32) (v : Variables) : Variables :=
  rounds.foldl (fun v r => r.steps.foldl (r.step block) v) v

/-- The variables after one more block. -/
def absorb (v : Variables) (block : List UInt32) : Variables :=
  let l := line left block v
  let r := line right block v
  ⟨v.b + l.c + r.d, v.c + l.d + r.e, v.d + l.e + r.a, v.e + l.a + r.b, v.a + l.b + r.c⟩

/-- The message with a one bit, zeros up to a whole number of blocks, and its length in bits. -/
def paddedLow (message : Bytes) : Bytes :=
  let zeros := (119 - message.length % 64) % 64
  message ++ 0x80 :: (List.replicate zeros 0 ++ (bigEndianBytes 8 (8 * message.length)).reverse)

end Ripemd160

open Ripemd160 in
/-- The RIPEMD-160 digest of a message: 20 bytes. -/
def ripemd160 (message : Bytes) : Bytes :=
  let words := (chunks 3 (paddedLow message)).map fun bs => UInt32.ofNat (bigEndian bs.reverse)
  let v := (chunks 15 words).foldl absorb initial
  [v.a, v.b, v.c, v.d, v.e].flatMap fun x => (bigEndianBytes 4 x.toNat).reverse

end HostedNode.Hash

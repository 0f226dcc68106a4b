import HostedNode.Hash.Sha2

/-! # Bits

Numbers and bytes as lists of bits, the highest first. -/

namespace HostedNode.Bits

open Hash

/-- The lowest `width` bits of a number. -/
def ofNat (width n : Nat) : List Bool := (List.range width).reverse.map n.testBit

/-- The number that bits are. -/
def toNat (bs : List Bool) : Nat := bs.foldl (fun n b => 2 * n + b.toNat) 0

/-- The bits of bytes. -/
def ofBytes (bs : Bytes) : List Bool := bs.flatMap fun b => ofNat 8 b.toNat

/-- The whole bytes of bits; up to seven bits behind them are dropped. -/
def toBytes (bs : List Bool) : Bytes := (chunks 7 bs).map fun b => UInt8.ofNat (toNat b)

end HostedNode.Bits

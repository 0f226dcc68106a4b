import HostedNode.Bits

/-! # Bytes in a base of 32

Five bits a digit, over an alphabet without letters that are easily mistaken for others. `encode`
writes whole bytes and fills the last digit up with zeros; `decode?` reads as many whole bytes as
the digits have and does not look at the bits behind them. -/

namespace HostedNode.Text.Zbase32

/-- The digits. -/
def alphabet : List Char :=
  ['y', 'b', 'n', 'd', 'r', 'f', 'g', '8', 'e', 'j', 'k', 'm', 'c', 'p', 'q', 'x',
    'o', 't', '1', 'u', 'w', 'i', 's', 'z', 'a', '3', '4', '5', 'h', '7', '6', '9']

/-- The digits of bits. -/
def digits : List Bool → List Char
  | a :: b :: c :: d :: e :: rest => alphabet.getD (Bits.toNat [a, b, c, d, e]) 'y' :: digits rest
  | [] => []
  | bs => [alphabet.getD (Bits.toNat ((bs ++ List.replicate 5 false).take 5)) 'y']

/-- Writes bytes. -/
def encode (bs : Bytes) : String := String.ofList (digits (Bits.ofBytes bs))

/-- The bits of digits; `none` if some character is none. -/
def bitsOfDigits? : List Char → Option (List Bool)
  | [] => some []
  | c :: cs => do
    let n ← alphabet.idxOf? c
    let rest ← bitsOfDigits? cs
    return Bits.ofNat 5 n ++ rest

/-- Reads bytes. -/
def decode? (s : String) : Option Bytes := (bitsOfDigits? s.toList).map Bits.toBytes

end HostedNode.Text.Zbase32

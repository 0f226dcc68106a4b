import HostedNode.Hash.Hmac
import HostedNode.Phrase.Encoding
import HostedNode.Text.Utf8

/-! # The seed of a phrase

The seed is the text of the words, stretched; it does not depend on how the words were set apart. -/

namespace HostedNode.Phrase

open Hash Text

/-- The number of rounds after the first one. -/
def rounds : Nat := 2047

/-- The 64 bytes that the words of a phrase stand for. -/
def seedOfWords (ws : List String) : Bytes :=
  stretch .sha512 (Utf8.encode (text ws)) (Utf8.encode "mnemonic") rounds

/-- The seed of a text that is a phrase. -/
def toSeed (s : String) : Except Error Bytes :=
  (toEntropy (words s)).map fun _ => seedOfWords (words s)

end HostedNode.Phrase

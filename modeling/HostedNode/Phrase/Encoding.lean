import HostedNode.Bits
import HostedNode.Phrase.WordList
import HostedNode.Text.Blank

/-! # Phrases that stand for random bytes

A phrase writes 16, 20, 24, 28 or 32 random bytes, the entropy, as words: its bits, followed by the
leading bits of its digest, are cut into numbers of eleven bits, and each number is a word of the
list. `ofEntropy` gives the words; `toEntropy` reads them and says what is wrong with others: first
their number is looked at, then every word, then the digest. -/

namespace HostedNode.Phrase

open Hash Text

/-- Why words are no phrase. -/
inductive Error where
  | wordCount (count : Nat)
  | unknownWord (place : Nat)
  | checksum
deriving DecidableEq, Repr

/-- The wording of an error. -/
def Error.message : Error → String
  | wordCount n =>
    "mnemonic has an invalid word count: " ++ toString n
      ++ ". Word count must be 12, 15, 18, 21, or 24"
  | unknownWord i => "mnemonic contains an unknown word (word " ++ toString i ++ ")"
  | checksum => "the mnemonic has an invalid checksum"

/-- The numbers of words that a phrase can have. -/
def wordCounts : List Nat := [12, 15, 18, 21, 24]

/-- The bits that are put behind those of the entropy: one for every four of its bytes. -/
def checksum (entropy : Bytes) : List Bool :=
  (Bits.ofBytes (sha256 entropy)).take (entropy.length / 4)

/-- The places in the list of the words for an entropy. -/
def places (entropy : Bytes) : List Nat :=
  (chunks 10 (Bits.ofBytes entropy ++ checksum entropy)).map Bits.toNat

/-- The words for an entropy. -/
def ofEntropy (entropy : Bytes) : List String := (places entropy).map fun i => wordList.getD i ""

/-- The places in the list of words, the first of which is the one numbered `i`. -/
def findWords (i : Nat) : List String → Except Error (List Nat)
  | [] => .ok []
  | w :: ws =>
    match wordList.idxOf? w with
    | none => .error (.unknownWord i)
    | some k => (findWords (i + 1) ws).map (k :: ·)

/-- The entropy that words stand for. -/
def toEntropy (ws : List String) : Except Error Bytes :=
  if wordCounts.contains ws.length then do
    let found ← findWords 0 ws
    let all := found.flatMap (Bits.ofNat 11)
    let entropy := Bits.toBytes (all.take (ws.length / 3 * 32))
    if all.drop (ws.length / 3 * 32) = checksum entropy then return entropy
    else throw .checksum
  else .error (.wordCount ws.length)

/-- The text of words: a blank stands between two of them. -/
def text (ws : List String) : String := " ".intercalate ws

/-- The phrase with this number of words for the bytes at the front of `random`. -/
def generate (count : Nat) (random : Bytes) : Except Error String :=
  if wordCounts.contains count then .ok (text (ofEntropy (random.take (count / 3 * 4))))
  else .error (.wordCount count)

end HostedNode.Phrase

/-! # Blank characters

The characters with the Unicode property `White_Space`, and the two operations that need them:
`trim` drops them at both ends of a text, `words` cuts a text at every run of them. -/

namespace HostedNode.Text

/-- The code points of the blank characters. -/
def blankCodes : List Nat :=
  [0x09, 0x0A, 0x0B, 0x0C, 0x0D, 0x20, 0x85, 0xA0, 0x1680, 0x2000, 0x2001, 0x2002, 0x2003, 0x2004,
    0x2005, 0x2006, 0x2007, 0x2008, 0x2009, 0x200A, 0x2028, 0x2029, 0x202F, 0x205F, 0x3000]

/-- Whether a character is blank. -/
def isBlank (c : Char) : Bool := blankCodes.contains c.toNat

/-- The characters without the blank ones at either end. -/
def trimChars (cs : List Char) : List Char :=
  ((cs.dropWhile isBlank).reverse.dropWhile isBlank).reverse

/-- The text without the blank characters at either end. -/
def trim (s : String) : String := String.ofList (trimChars s.toList)

/-- Cuts at blank characters; `word` is the piece read so far, in reverse. -/
def wordsFrom (word : List Char) : List Char → List (List Char)
  | [] => if word.isEmpty then [] else [word.reverse]
  | c :: cs =>
    if isBlank c then
      if word.isEmpty then wordsFrom [] cs else word.reverse :: wordsFrom [] cs
    else wordsFrom (c :: word) cs

/-- The longest pieces of a text that hold no blank character, in order. -/
def words (s : String) : List String := (wordsFrom [] s.toList).map String.ofList

end HostedNode.Text

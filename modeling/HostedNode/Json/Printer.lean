import HostedNode.Json.Basic

/-! # JSON text

The two texts of a value: `compact` has no blanks, `pretty` puts every item and field on a line of
its own, two blanks deeper than what encloses it. Inside strings only quotes, backslashes and the
characters below U+0020 are escaped. -/

namespace HostedNode.Json

/-- Doubles have an exponent part from `1e+16` up and below `1e-5`. -/
def doubleFormat : Decimal.Format := ⟨-5, 15, true⟩

/-- A digit of a `\u` escape. -/
def escapeDigit (n : Nat) : Char := Nat.digitChar n

/-- A character as it stands inside a string. -/
def escapeChar (c : Char) : List Char :=
  if c = '"' then ['\\', '"']
  else if c = '\\' then ['\\', '\\']
  else if c = '\x08' then ['\\', 'b']
  else if c = '\x0c' then ['\\', 'f']
  else if c = '\n' then ['\\', 'n']
  else if c = '\r' then ['\\', 'r']
  else if c = '\t' then ['\\', 't']
  else if c.toNat < 0x20 then
    ['\\', 'u', '0', '0', escapeDigit (c.toNat / 16), escapeDigit (c.toNat % 16)]
  else [c]

/-- A string with its quotes. -/
def stringText (s : String) : List Char := '"' :: (s.toList.flatMap escapeChar ++ ['"'])

/-- An integer in base ten. -/
def intText : Int → List Char
  | .ofNat n => Nat.toDigits 10 n
  | .negSucc n => '-' :: Nat.toDigits 10 (n + 1)

mutual

/-- The text without blanks. -/
def compactChars : Json → List Char
  | null => ['n', 'u', 'l', 'l']
  | bool true => ['t', 'r', 'u', 'e']
  | bool false => ['f', 'a', 'l', 's', 'e']
  | int i => intText i
  | double d => (doubleFormat.write d).toList
  | str s => stringText s
  | arr items => '[' :: (compactItems items ++ [']'])
  | obj fields => '\x7b' :: (compactFields fields ++ ['\x7d'])

/-- Items with commas between them. -/
def compactItems : List Json → List Char
  | [] => []
  | [v] => compactChars v
  | v :: w :: vs => compactChars v ++ ',' :: compactItems (w :: vs)

/-- Fields with commas between them. -/
def compactFields : List (String × Json) → List Char
  | [] => []
  | [(n, v)] => stringText n ++ ':' :: compactChars v
  | (n, v) :: f :: fs => stringText n ++ ':' :: (compactChars v ++ ',' :: compactFields (f :: fs))

end

/-- A new line and `n` steps of two blanks. -/
def lineBreak (n : Nat) : List Char := '\n' :: List.replicate (2 * n) ' '

mutual

/-- The text with a line for every item and field, `n` steps deep. -/
def prettyChars (n : Nat) : Json → List Char
  | null => ['n', 'u', 'l', 'l']
  | bool true => ['t', 'r', 'u', 'e']
  | bool false => ['f', 'a', 'l', 's', 'e']
  | int i => intText i
  | double d => (doubleFormat.write d).toList
  | str s => stringText s
  | arr [] => ['[', ']']
  | arr (v :: vs) => '[' :: (prettyItems (n + 1) (v :: vs) ++ (lineBreak n ++ [']']))
  | obj [] => ['\x7b', '\x7d']
  | obj (f :: fs) => '\x7b' :: (prettyFields (n + 1) (f :: fs) ++ (lineBreak n ++ ['\x7d']))

/-- Items, each on its line, with commas at the ends of all lines but the last. -/
def prettyItems (n : Nat) : List Json → List Char
  | [] => []
  | [v] => lineBreak n ++ prettyChars n v
  | v :: w :: vs => lineBreak n ++ (prettyChars n v ++ ',' :: prettyItems n (w :: vs))

/-- Fields, each on its line, with commas at the ends of all lines but the last. -/
def prettyFields (n : Nat) : List (String × Json) → List Char
  | [] => []
  | [(k, v)] => lineBreak n ++ (stringText k ++ ':' :: ' ' :: prettyChars n v)
  | (k, v) :: f :: fs =>
    lineBreak n
      ++ (stringText k ++ ':' :: ' ' :: (prettyChars n v ++ ',' :: prettyFields n (f :: fs)))

end

/-- The text without blanks. -/
def compact (v : Json) : String := String.ofList (compactChars v)

/-- The text with a line for every item and field. -/
def pretty (v : Json) : String := String.ofList (prettyChars 0 v)

end HostedNode.Json

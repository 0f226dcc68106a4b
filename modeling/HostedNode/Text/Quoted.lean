import HostedNode.Text.Hidden

/-! # Quoted texts

`quoted` is the form in which log lines, console lines and decoding errors show a text: between
double quotes, with a backslash before quotes and backslashes, short names for NUL, tab, newline
and carriage return, and the code point in braces for every other hidden character. -/

namespace HostedNode.Text

/-- The digits of a number in base 16, in lower case. -/
def hexDigits (n : Nat) : List Char := Nat.toDigits 16 n

/-- One character as it stands inside quotes. -/
def quotedChar (c : Char) : List Char :=
  if c = '"' then ['\\', '"']
  else if c = '\\' then ['\\', '\\']
  else if c = '\n' then ['\\', 'n']
  else if c = '\r' then ['\\', 'r']
  else if c = '\t' then ['\\', 't']
  else if c = '\x00' then ['\\', '0']
  else if isHidden c then ['\\', 'u', '\x7b'] ++ hexDigits c.toNat ++ ['\x7d']
  else [c]

/-- The characters between the quotes. -/
def quotedBody (cs : List Char) : List Char := cs.flatMap quotedChar

/-- The text between double quotes. -/
def quoted (s : String) : String := String.ofList ('"' :: quotedBody s.toList ++ ['"'])

end HostedNode.Text

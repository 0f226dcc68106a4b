import HostedNode.Text.Hex

/-! # Strings in TOML

A string stands between marks, single or double quotes. There is one mark on each side, or three if
the string may go over lines. Between double quotes a backslash has a meaning. `readString` reads
all four kinds, a character at a time, and `writeString` writes a string in the plainest kind that
can hold it. -/

namespace HostedNode.Toml

open Text

/-- Whether a character may not stand in a document, outside of newlines. -/
def isControl (c : Char) : Bool := (c.toNat < 0x20 && c ≠ '\t') || c.toNat = 0x7F

/-- A kind of string. -/
structure Quoting where
  mark : Char
  /-- Whether there are three marks on each side and the string may go over lines. -/
  multiline : Bool
  escapes : Bool
deriving DecidableEq, Repr, Inhabited

namespace Quoting

/-- Between double quotes. -/
def basic : Quoting := ⟨'"', false, true⟩

/-- Between three double quotes. -/
def multilineBasic : Quoting := ⟨'"', true, true⟩

/-- Between single quotes. -/
def literal : Quoting := ⟨'\'', false, false⟩

/-- Between three single quotes. -/
def multilineLiteral : Quoting := ⟨'\'', true, false⟩

end Quoting

/-! ### Reading -/

/-- Where in a string one is. -/
inductive Mode where
  /-- In the text, behind so many marks in a row. -/
  | text (marks : Nat)
  /-- Behind three marks in a row and so many more. -/
  | closing (marks : Nat)
  | carriageReturn
  | escape
  /-- In a code point of which so many digits are left. -/
  | code (left value : Nat)
  /-- In the blanks behind a backslash, and whether a newline was among them. -/
  | folded (newline : Bool)
  | foldedReturn
deriving DecidableEq, Repr

/-- The character of an escape of one letter. -/
def shortEscape? (c : Char) : Option Char :=
  [('b', '\x08'), ('t', '\t'), ('n', '\n'), ('f', '\x0c'), ('r', '\r'), ('e', '\x1b'),
    ('"', '"'), ('\\', '\\')].lookup c

/-- The number of digits in an escape of a code point. -/
def codeDigits? (c : Char) : Option Nat := [('x', 2), ('u', 4), ('U', 8)].lookup c

/-- The blanks behind a backslash at the end of a line. -/
def foldedMode? (newline : Bool) (c : Char) : Option Mode :=
  if c = ' ' ∨ c = '\t' then some (.folded newline)
  else if c = '\n' then some (.folded true)
  else if c = '\r' then some .foldedReturn
  else none

namespace Quoting

variable (q : Quoting)

/-- A character in the text, behind so many marks: what follows it and what it adds. -/
def textStep (marks : Nat) (c : Char) : Option (Mode × List Char) :=
  if c = q.mark then some (if marks < 2 then .text (marks + 1) else .closing 0, [c])
  else if c = '\\' ∧ q.escapes then some (.escape, [])
  else if c = '\n' then if q.multiline then some (.text 0, [c]) else none
  else if c = '\r' then if q.multiline then some (.carriageReturn, [c]) else none
  else if isControl c then none
  else some (.text 0, [c])

/-- A character behind a backslash. -/
def escapeStep (c : Char) : Option (Mode × List Char) :=
  match shortEscape? c, codeDigits? c with
  | some e, _ => some (.text 0, [e])
  | none, some n => some (.code n 0, [])
  | none, none => if q.multiline then (foldedMode? false c).map (·, []) else none

/-- A digit of a code point, of which so many are left after it. -/
def codeStep (left value : Nat) (c : Char) : Option (Mode × List Char) :=
  match Hex.digitValue? c with
  | none => none
  | some d =>
    let v := value * 16 + d
    if left ≠ 0 then some (.code left v, [])
    else if v.isValidChar then some (.text 0, [Char.ofNat v]) else none

/-- A character of a string that does not end before it: what follows it and what it adds. -/
def step : Mode → Char → Option (Mode × List Char)
  | .text marks, c => q.textStep marks c
  | .closing _, _ => none
  | .carriageReturn, c => if c = '\n' then some (.text 0, [c]) else none
  | .escape, c => q.escapeStep c
  | .code 0 _, _ => none
  | .code (left + 1) value, c => codeStep left value c
  | .folded newline, c =>
    match foldedMode? newline c with
    | some m => some (m, [])
    | none => if newline then q.textStep 0 c else none
  | .foldedReturn, c => if c = '\n' then some (.folded true, []) else none

/-- Reads the rest of a string; `acc` holds its characters so far, in reverse. -/
def readFrom : Mode → List Char → List Char → Option (List Char × List Char)
  | .closing _, acc, [] => some ((acc.drop 3).reverse, [])
  | .closing marks, acc, c :: cs =>
    if c = q.mark ∧ marks < 2 then readFrom (.closing (marks + 1)) (c :: acc) cs
    else some ((acc.drop 3).reverse, c :: cs)
  | _, _, [] => none
  | mode, acc, c :: cs =>
    if mode = .text 0 ∧ c = q.mark ∧ !q.multiline then some (acc.reverse, cs)
    else match q.step mode c with
      | some (mode, out) => readFrom mode (out ++ acc) cs
      | none => none

/-- Reads a string behind its first marks. -/
def read (cs : List Char) : Option (String × List Char) :=
  (q.readFrom (.text 0) [] cs).map fun (s, rest) => (String.ofList s, rest)

end Quoting

/-- The text behind a first newline, which is not part of a string over lines. -/
def skipNewline : List Char → List Char
  | '\n' :: cs => cs
  | '\r' :: '\n' :: cs => cs
  | cs => cs

/-- Reads a string on one line. -/
def readLineString : List Char → Option (String × List Char)
  | '"' :: cs => Quoting.basic.read cs
  | '\'' :: cs => Quoting.literal.read cs
  | _ => none

/-- Reads a string of any kind. -/
def readString : List Char → Option (String × List Char)
  | '"' :: '"' :: '"' :: cs => Quoting.multilineBasic.read (skipNewline cs)
  | '\'' :: '\'' :: '\'' :: cs => Quoting.multilineLiteral.read (skipNewline cs)
  | cs => readLineString cs

/-! ### Writing -/

/-- Whether three marks stand in a row, when so many stand before. -/
def hasThree (mark : Char) : Nat → List Char → Bool
  | _, [] => false
  | n, c :: cs => if c = mark then n == 2 || hasThree mark (n + 1) cs else hasThree mark 0 cs

/-- Whether a character asks for a backslash wherever it stands, newlines apart. -/
def isSpecial (c : Char) : Bool := isControl c && c ≠ '\n'

/-- The plainest kind of string for a text. -/
def quotingFor (cs : List Char) : Quoting :=
  let special := cs.any isSpecial
  let newline := cs.contains '\n'
  if !special && !newline && !cs.contains '"' && !cs.contains '\\' then .basic
  else if !special && !newline && !cs.contains '\'' then .literal
  else if !special && !cs.contains '\\' && !hasThree '"' 0 cs then .multilineBasic
  else if !special && !hasThree '\'' 0 cs then .multilineLiteral
  else if newline then .multilineBasic
  else .basic

/-- The digits of a number in base 16, in upper case, four at least. -/
def fourDigits (n : Nat) : List Char :=
  let ds := (Nat.toDigits 16 n).map Char.toUpper
  List.replicate (4 - ds.length) '0' ++ ds

/-- The escape of a character between double quotes, if it has to be escaped there behind so many
unescaped quotes in a row. -/
def escapeFor (multiline : Bool) (quotes : Nat) (c : Char) : Option (List Char) :=
  if c = '"' then if !multiline || 2 ≤ quotes then some ['\\', '"'] else none
  else if c = '\n' ∧ multiline then none
  else match [('\x08', 'b'), ('\t', 't'), ('\n', 'n'), ('\x0c', 'f'), ('\r', 'r'),
      ('\\', '\\')].lookup c with
    | some e => some ['\\', e]
    | none => if isControl c then some ('\\' :: 'u' :: fourDigits c.toNat) else none

/-- The text between double quotes, behind so many unescaped quotes in a row. -/
def escapedFrom (multiline : Bool) : Nat → List Char → List Char
  | _, [] => []
  | quotes, c :: cs =>
    match escapeFor multiline quotes c with
    | some e => e ++ escapedFrom multiline 0 cs
    | none => c :: escapedFrom multiline (if c = '"' then quotes + 1 else 0) cs

/-- The marks on either side of a string. -/
def Quoting.marks (q : Quoting) : List Char := List.replicate (if q.multiline then 3 else 1) q.mark

/-- A string of a kind that can hold the text. -/
def Quoting.write (q : Quoting) (cs : List Char) : List Char :=
  let body := if q.escapes then escapedFrom q.multiline 0 cs else cs
  let newline := if q.multiline ∧ cs.contains '\n' then ['\n'] else []
  q.marks ++ newline ++ body ++ q.marks

/-- A string, in the plainest kind that can hold it. -/
def writeString (s : String) : List Char := (quotingFor s.toList).write s.toList

end HostedNode.Toml

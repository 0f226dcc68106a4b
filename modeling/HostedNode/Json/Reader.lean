import HostedNode.Json.Decode
import HostedNode.Json.Number
import HostedNode.Text.Utf8

/-! # Reading JSON text

`read` turns a text into a value: one value with blanks around it and nothing else, nested 127 deep
at most; of two fields of one name the later counts. `readAs` reads a text for a decoder: the parts
that the decoder looks at are read in this way, except that the fields of a record must not repeat,
and the values of all other fields are skipped, whatever their depth.

Reading a part of a text gives what it is and the characters after it, or else the characters from
the fault on, which tell where it is. -/

namespace HostedNode.Json

/-- What reading gives: a result, or the text from the fault on. -/
abbrev Read := Except (List Char)

/-- Whether the character may stand between the parts of a value. -/
def isSpace (c : Char) : Bool := c = ' ' || c = '\n' || c = '\t' || c = '\r'

/-- The text from the first character on that is no blank. -/
def skipSpace (cs : List Char) : List Char := cs.dropWhile isSpace

/-! ### Words and numbers -/

/-- Reads past a given word. -/
def readWord (word : List Char) (v : Json) (cs : List Char) : Read (Json × List Char) :=
  if word.isPrefixOf cs then .ok (v, cs.drop word.length) else .error cs

/-- Reads one digit or more. -/
def readDigits (cs : List Char) : Read (List Char × List Char) :=
  match cs.takeWhile Char.isDigit with
  | [] => .error cs
  | ds => .ok (ds, cs.dropWhile Char.isDigit)

/-- Reads the point and the digits behind it, if there is a point. -/
def readFraction : List Char → Read (Option (List Char) × List Char)
  | '.' :: cs => (readDigits cs).map fun (ds, rest) => (some ds, rest)
  | cs => .ok (none, cs)

/-- Reads the sign of an exponent: whether it is a minus. -/
def readSign : List Char → Bool × List Char
  | '+' :: cs => (false, cs)
  | '-' :: cs => (true, cs)
  | cs => (false, cs)

/-- Reads the exponent, if there is one. -/
def readExponent : List Char → Read (Option (Bool × List Char) × List Char)
  | c :: cs =>
    if c = 'e' ∨ c = 'E' then
      let (negative, cs) := readSign cs
      (readDigits cs).map fun (ds, rest) => (some (negative, ds), rest)
    else .ok (none, c :: cs)
  | [] => .ok (none, [])

/-- Reads a number without its sign. A first zero is the only digit before the point. -/
def readNumeral (negative : Bool) (cs : List Char) : Read (Numeral × List Char) := do
  let (whole, rest) ← readDigits cs
  if whole.head? = some '0' ∧ 1 < whole.length then .error (cs.drop 1)
  else
    let (fraction, rest) ← readFraction rest
    let (exponent, rest) ← readExponent rest
    return (⟨negative, whole, fraction, exponent⟩, rest)

/-- Reads a number and its value. -/
def readNumber (negative : Bool) (cs : List Char) : Read (Json × List Char) := do
  let (n, rest) ← readNumeral negative cs
  match n.value? with
  | some v => return (v, rest)
  | none => .error rest

/-! ### Strings -/

/-- The value of a hexadecimal digit of either case. -/
def hexValue? (c : Char) : Option Nat :=
  if '0' ≤ c ∧ c ≤ '9' then some (c.toNat - 48)
  else if 'a' ≤ c ∧ c ≤ 'f' then some (c.toNat - 87)
  else if 'A' ≤ c ∧ c ≤ 'F' then some (c.toNat - 55)
  else none

/-- The number of four hexadecimal digits. -/
def hexUnit? (a b c d : Char) : Option Nat :=
  match hexValue? a, hexValue? b, hexValue? c, hexValue? d with
  | some a, some b, some c, some d => some (((a * 16 + b) * 16 + c) * 16 + d)
  | _, _, _, _ => none

/-- The character of an escape of one letter. -/
def shortEscape? (c : Char) : Option Char :=
  if c = '"' then some '"'
  else if c = '\\' then some '\\'
  else if c = '/' then some '/'
  else if c = 'b' then some '\x08'
  else if c = 'f' then some '\x0c'
  else if c = 'n' then some '\n'
  else if c = 'r' then some '\r'
  else if c = 't' then some '\t'
  else none

/-- Reads the rest of a string whose characters so far are `acc`, in reverse. An escaped code unit
of the first half of a pair must be followed by one of the second half. -/
def readStringFrom (acc : List Char) : List Char → Read (List Char × List Char)
  | [] => .error []
  | '"' :: cs => .ok (acc.reverse, cs)
  | '\\' :: 'u' :: a :: b :: c :: d :: cs =>
    match hexUnit? a b c d with
    | none => .error (a :: b :: c :: d :: cs)
    | some n =>
      if 0xD800 ≤ n ∧ n ≤ 0xDBFF then
        match cs with
        | '\\' :: 'u' :: e :: f :: g :: h :: rest =>
          match hexUnit? e f g h with
          | some m =>
            if 0xDC00 ≤ m ∧ m ≤ 0xDFFF then
              readStringFrom
                (Char.ofNat (0x10000 + (n - 0xD800) * 0x400 + (m - 0xDC00)) :: acc) rest
            else .error rest
          | none => .error (e :: f :: g :: h :: rest)
        | cs => .error cs
      else if 0xDC00 ≤ n ∧ n ≤ 0xDFFF then .error cs
      else readStringFrom (Char.ofNat n :: acc) cs
  | '\\' :: c :: cs =>
    match shortEscape? c with
    | some e => readStringFrom (e :: acc) cs
    | none => .error (c :: cs)
  | c :: cs =>
    if c = '\\' then .error cs
    else if c.toNat < 0x20 then .error (c :: cs)
    else readStringFrom (c :: acc) cs

/-- Reads a string after its first quote. -/
def readString (cs : List Char) : Read (String × List Char) :=
  (readStringFrom [] cs).map fun (s, rest) => (String.ofList s, rest)

/-- Reads past the rest of a string. Code units are not looked at, only their digits. -/
def skipString : List Char → Read (List Char)
  | [] => .error []
  | '"' :: cs => .ok cs
  | '\\' :: 'u' :: a :: b :: c :: d :: cs =>
    match hexUnit? a b c d with
    | none => .error (a :: b :: c :: d :: cs)
    | some _ => skipString cs
  | '\\' :: c :: cs =>
    match shortEscape? c with
    | some _ => skipString cs
    | none => .error (c :: cs)
  | c :: cs =>
    if c = '\\' then .error cs
    else if c.toNat < 0x20 then .error (c :: cs)
    else skipString cs

/-- Reads a character that must come next, after blanks. -/
def expect (c : Char) (cs : List Char) : Read (List Char) :=
  match skipSpace cs with
  | d :: rest => if d = c then .ok rest else .error (d :: rest)
  | [] => .error []

/-! ### Values that nothing looks at -/

/-- What has been opened and not closed yet. -/
inductive Bracket where
  | array
  | object

mutual

/-- Reads past a value inside of `opened`, and past all that is opened. -/
def skipValue (opened : List Bracket) : Nat → List Char → Read (List Char)
  | 0, cs => .error cs
  | fuel + 1, cs =>
    match skipSpace cs with
    | [] => .error []
    | '"' :: cs => do
      let rest ← skipString cs
      skipAfter opened fuel rest
    | '-' :: cs => do
      let (_, rest) ← readNumeral true cs
      skipAfter opened fuel rest
    | '[' :: cs =>
      match skipSpace cs with
      | ']' :: rest => skipAfter opened fuel rest
      | rest => skipValue (.array :: opened) fuel rest
    | '\x7b' :: cs =>
      match skipSpace cs with
      | '\x7d' :: rest => skipAfter opened fuel rest
      | rest => skipField (.object :: opened) fuel rest
    | c :: cs =>
      if c.isDigit then do
        let (_, rest) ← readNumeral false (c :: cs)
        skipAfter opened fuel rest
      else if c = 'n' then do
        let (_, rest) ← readWord ['n', 'u', 'l', 'l'] .null (c :: cs)
        skipAfter opened fuel rest
      else if c = 't' then do
        let (_, rest) ← readWord ['t', 'r', 'u', 'e'] .null (c :: cs)
        skipAfter opened fuel rest
      else if c = 'f' then do
        let (_, rest) ← readWord ['f', 'a', 'l', 's', 'e'] .null (c :: cs)
        skipAfter opened fuel rest
      else .error (c :: cs)

/-- Reads past the name of a field and what follows it. -/
def skipField (opened : List Bracket) : Nat → List Char → Read (List Char)
  | 0, cs => .error cs
  | fuel + 1, cs => do
    let cs ← expect '"' cs
    let cs ← skipString cs
    let cs ← expect ':' cs
    skipValue opened fuel cs

/-- Reads on after a value inside of `opened`. -/
def skipAfter : List Bracket → Nat → List Char → Read (List Char)
  | [], _, cs => .ok cs
  | _, 0, cs => .error cs
  | .array :: opened, fuel + 1, cs =>
    match skipSpace cs with
    | ',' :: rest => skipValue (.array :: opened) fuel rest
    | ']' :: rest => skipAfter opened fuel rest
    | rest => .error rest
  | .object :: opened, fuel + 1, cs =>
    match skipSpace cs with
    | ',' :: rest => skipField (.object :: opened) fuel rest
    | '\x7d' :: rest => skipAfter opened fuel rest
    | rest => .error rest

end

/-! ### Values -/

/-- The schema of the items of an array, and the schemas left for the items after the first. -/
def Schema.next : Schema → Schema × Schema
  | .whole => (.whole, .whole)
  | .items s => (s, .items s)
  | .fields [] => (.whole, .fields [])
  | .fields ((_, s) :: fs) => (s, .fields fs)

/-- The schema of a field of an object, if the field is looked at. -/
def Schema.ofField? : Schema → String → Option Schema
  | .fields fs, name => fs.lookup name
  | _, _ => some .whole

/-- Whether fields must not repeat. -/
def Schema.isRecord : Schema → Bool
  | .fields _ => true
  | _ => false

mutual

/-- Reads a value, with `depth` levels of nesting left. -/
def readValue : Nat → Schema → Nat → List Char → Read (Json × List Char)
  | 0, _, _, cs => .error cs
  | fuel + 1, schema, depth, cs =>
    match skipSpace cs with
    | [] => .error []
    | '"' :: cs => (readString cs).map fun (s, rest) => (.str s, rest)
    | '-' :: cs => readNumber true cs
    | '[' :: cs =>
      match depth with
      | 0 => .error cs
      | depth + 1 =>
        match skipSpace cs with
        | ']' :: rest => .ok (.arr [], rest)
        | rest => readItems fuel schema depth [] rest
    | '\x7b' :: cs =>
      match depth with
      | 0 => .error cs
      | depth + 1 =>
        match skipSpace cs with
        | '\x7d' :: rest => .ok (.obj [], rest)
        | rest => readFields fuel schema depth [] rest
    | c :: cs =>
      if c.isDigit then readNumber false (c :: cs)
      else if c = 'n' then readWord ['n', 'u', 'l', 'l'] .null (c :: cs)
      else if c = 't' then readWord ['t', 'r', 'u', 'e'] (.bool true) (c :: cs)
      else if c = 'f' then readWord ['f', 'a', 'l', 's', 'e'] (.bool false) (c :: cs)
      else .error (c :: cs)

/-- Reads the items of an array from the first one that is left; `acc` holds those before it, in
reverse. -/
def readItems : Nat → Schema → Nat → List Json → List Char → Read (Json × List Char)
  | 0, _, _, _, cs => .error cs
  | fuel + 1, schema, depth, acc, cs => do
    let (v, rest) ← readValue fuel schema.next.1 depth cs
    match skipSpace rest with
    | ',' :: rest => readItems fuel schema.next.2 depth (v :: acc) rest
    | ']' :: rest => .ok (.arr (v :: acc).reverse, rest)
    | rest => .error rest

/-- Reads the fields of an object from the first one that is left; `acc` holds those before it,
sorted by name. -/
def readFields : Nat → Schema → Nat → List (String × Json) → List Char → Read (Json × List Char)
  | 0, _, _, _, cs => .error cs
  | fuel + 1, schema, depth, acc, cs => do
    let cs ← expect '"' cs
    let (name, cs) ← readString cs
    let after ← expect ':' cs
    let (acc, rest) ←
      match schema.ofField? name with
      | some s =>
        if schema.isRecord && (find? name acc).isSome then
          (.error cs : Read (List (String × Json) × List Char))
        else do
          let (v, rest) ← readValue fuel s depth after
          pure (insert name v acc, rest)
      | none => do
        let rest ← skipValue [] fuel after
        pure (acc, rest)
    match skipSpace rest with
    | ',' :: rest => readFields fuel schema depth acc rest
    | '\x7d' :: rest => .ok (.obj acc, rest)
    | rest => .error rest

end

/-- How deep arrays and objects may be nested. -/
def maxDepth : Nat := 127

/-- Reads a text that is one value; on a fault gives the text from there on. -/
def readChars (schema : Schema) (cs : List Char) : Read Json := do
  let (v, rest) ← readValue (2 * cs.length + 2) schema maxDepth cs
  match skipSpace rest with
  | [] => return v
  | rest => .error rest

/-! ### Texts -/

/-- Where in a text a fault is. -/
structure Position where
  /-- The line, from 1 on. -/
  line : Nat
  /-- The place in the line, from 0 on. -/
  column : Nat
deriving DecidableEq, Repr

/-- The position behind these characters. -/
def Position.after (cs : List Char) : Position :=
  cs.foldl (fun p c => if c = '\n' then ⟨p.line + 1, 0⟩ else ⟨p.line, p.column + 1⟩) ⟨1, 0⟩

/-- Why a text cannot be read. -/
inductive TextError where
  | malformed (at_ : Position)
  /-- The text is JSON and not the value asked for. -/
  | unfit (cause : DecodeError) (at_ : Position)
deriving DecidableEq, Repr

/-- The position as the end of a message. -/
def Position.text (p : Position) : String :=
  " at line " ++ toString p.line ++ " column " ++ toString p.column

/-- The wording of an error. -/
def TextError.message : TextError → String
  | .malformed p => "malformed JSON" ++ p.text
  | .unfit e p => e.message ++ p.text

/-- Reads characters for a decoder. -/
def readCharsAs {α : Type} (d : Decoder α) (cs : List Char) : Except TextError α :=
  match readChars d.schema cs with
  | .error rest => .error (.malformed (.after (cs.take (cs.length - rest.length))))
  | .ok v =>
    match decode d v with
    | .ok a => .ok a
    | .error e => .error (.unfit e (.after cs))

/-- Reads a text for a decoder. -/
def readAs {α : Type} (d : Decoder α) (text : String) : Except TextError α :=
  readCharsAs d text.toList

/-- Reads a text as a value. -/
def read (text : String) : Except TextError Json := readAs Decoder.json text

/-! ### Bytes -/

/-- The characters of a text that may hold bytes that are none. In place of such bytes stands the
escape of half a character, which has the same effect: it is refused where a string is read, passed
over where a string is skipped, and can stand nowhere else. -/
def spelled : List (Option Char) → List Char
  | [] => []
  | some '\\' :: some c :: rest => '\\' :: c :: spelled rest
  | some '\\' :: none :: rest => '\\' :: Char.ofNat 0xFFFD :: spelled rest
  | some c :: rest => c :: spelled rest
  | none :: rest => '\\' :: 'u' :: 'd' :: 'c' :: '0' :: '0' :: spelled rest

/-- Reads bytes for a decoder. -/
def readBytesAs {α : Type} (d : Decoder α) (bs : Bytes) : Except TextError α :=
  readCharsAs d (spelled (Text.Utf8.pieces bs))

end HostedNode.Json

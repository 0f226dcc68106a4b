import HostedNode.Toml.Scalar
import HostedNode.Toml.Strings

/-! # Reading TOML

`read?` gives the fields of a document. A document is a sequence of lines, each of them empty, a
header, or a key with its value; comments begin with `#`. Arrays and inline tables go over lines and
may end with a comma. They are nested 80 deep at most, and a key has 80 parts at most. -/

namespace HostedNode.Toml

/-! ### Blanks and comments -/

/-- Whether a character is a blank inside of a line. -/
def isSpace (c : Char) : Bool := c = ' ' || c = '\t'

/-- The text from the first character on that is no blank. -/
def skipSpace (cs : List Char) : List Char := cs.dropWhile isSpace

/-- Skips blanks, newlines and comments; `comment` says whether it begins in a comment. A carriage
return must have a newline behind it. -/
def skipLines (comment : Bool) : List Char → Option (List Char)
  | [] => some []
  | c :: cs =>
    if c = '\n' then skipLines false cs
    else if c = '\r' then if cs.head? = some '\n' then skipLines comment cs else none
    else if comment then if isControl c then none else skipLines true cs
    else if isSpace c then skipLines false cs
    else if c = '#' then skipLines true cs
    else some (c :: cs)

/-- Skips the rest of a line, which must be empty or a comment. -/
def endLine (comment : Bool) : List Char → Option (List Char)
  | [] => some []
  | c :: cs =>
    if c = '\n' then some cs
    else if c = '\r' then if cs.head? = some '\n' then endLine comment cs else none
    else if comment then if isControl c then none else endLine true cs
    else if isSpace c then endLine false cs
    else if c = '#' then endLine true cs
    else none

/-! ### Keys -/

/-- The most parts that a key may have. -/
def maxParts : Nat := 80

/-- Whether a character may stand in a key without quotes. -/
def isBare (c : Char) : Bool := c.isAlphanum || c = '_' || c = '-'

/-- Reads a part of a key. -/
def readPart (cs : List Char) : Option (String × List Char) :=
  match cs.takeWhile isBare with
  | [] => readLineString cs
  | part => some (String.ofList part, cs.dropWhile isBare)

/-- Reads the parts of a key, so many at most; `path` holds those before, in reverse. -/
def readKeyFrom (path : List String) : Nat → List Char → Option ((List String × String) × List Char)
  | 0, _ => none
  | n + 1, cs => do
    let (part, rest) ← readPart cs
    match skipSpace rest with
    | '.' :: rest => readKeyFrom (part :: path) n (skipSpace rest)
    | rest => some ((path.reverse, part), rest)

/-- Reads a key and the blanks behind it: the path to its table, and its name there. -/
def readKey (cs : List Char) : Option ((List String × String) × List Char) :=
  readKeyFrom [] maxParts cs

/-- Reads a key up to its value. -/
def readAssigned (cs : List Char) : Option ((List String × String) × List Char) := do
  let (key, rest) ← readKey cs
  return (key, skipSpace (← takeChar '=' rest))

/-! ### Values -/

/-- How deep arrays and inline tables may be nested. -/
def maxDepth : Nat := 80

mutual

/-- Reads a value with `depth` levels of nesting left. -/
def readValue : Nat → Nat → List Char → Option (Toml × List Char)
  | 0, _, _ => none
  | fuel + 1, depth, cs =>
    match cs, depth with
    | '[' :: rest, depth + 1 => readItems fuel depth [] rest
    | '\x7b' :: rest, depth + 1 => readFields fuel depth [] rest
    | '"' :: _, _ => (readString cs).map fun (s, rest) => (.string s, rest)
    | '\'' :: _, _ => (readString cs).map fun (s, rest) => (.string s, rest)
    | cs, _ => readScalar cs

/-- Reads the rest of an array; `acc` holds the values so far, in reverse. -/
def readItems : Nat → Nat → List Toml → List Char → Option (Toml × List Char)
  | 0, _, _, _ => none
  | fuel + 1, depth, acc, cs => do
    match ← skipLines false cs with
    | ']' :: rest => return (.array false acc.reverse, rest)
    | cs =>
      let (v, rest) ← readValue fuel depth cs
      match ← skipLines false rest with
      | ']' :: rest => return (.array false (v :: acc).reverse, rest)
      | rest => readItems fuel depth (v :: acc) (← takeChar ',' rest)

/-- Reads the rest of an inline table; `acc` holds the fields so far. -/
def readFields : Nat → Nat → Fields → List Char → Option (Toml × List Char)
  | 0, _, _, _ => none
  | fuel + 1, depth, acc, cs => do
    match ← skipLines false cs with
    | '\x7d' :: rest => return (.table .inline acc, rest)
    | cs =>
      let ((path, name), rest) ← readAssigned cs
      let (v, rest) ← readValue fuel depth rest
      let acc ← assign path name v acc
      match ← skipLines false rest with
      | '\x7d' :: rest => return (.table .inline acc, rest)
      | rest => readFields fuel depth acc (← takeChar ',' rest)

end

/-! ### Documents -/

/-- The part of a document that has been read. -/
structure Draft where
  root : Fields
  header : List String
deriving Inhabited

/-- Reads the names between the brackets of a header. -/
def readHeader (cs : List Char) : Option ((List String × String) × List Char) :=
  readKey (skipSpace cs)

/-- Reads a header or a key with its value. -/
def readStatement (fuel : Nat) (d : Draft) : List Char → Option (Draft × List Char)
  | '[' :: '[' :: cs => do
    let ((path, name), rest) ← readHeader cs
    let rest ← takeChar ']' (← takeChar ']' rest)
    return (⟨← openRepeated path name d.root, path ++ [name]⟩, rest)
  | '[' :: cs => do
    let ((path, name), rest) ← readHeader cs
    let rest ← takeChar ']' rest
    return (⟨← openTable path name d.root, path ++ [name]⟩, rest)
  | cs => do
    let ((path, name), rest) ← readAssigned cs
    let (v, rest) ← readValue fuel maxDepth rest
    let root ← enter true (fun _ fields => assign path name v fields) d.header .header d.root
    return ({ d with root }, rest)

/-- Reads the lines of a document, so many at most. -/
def readLines : Nat → Draft → List Char → Option Fields
  | 0, _, _ => none
  | n + 1, d, cs => do
    match ← skipLines false cs with
    | [] => return d.root
    | cs =>
      let (d, rest) ← readStatement (2 * cs.length + 2) d cs
      readLines n d (← endLine false rest)

/-- The text without a first byte order mark. -/
def skipMark : List Char → List Char
  | '\uFEFF' :: cs => cs
  | cs => cs

/-- Reads a document. -/
def read? (text : String) : Option Fields :=
  let cs := skipMark text.toList
  readLines (cs.length + 1) ⟨[], []⟩ cs

end HostedNode.Toml

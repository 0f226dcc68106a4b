import HostedNode.Json.Printer
import HostedNode.Text.Shown

/-! # Reading typed values from JSON values

A `Decoder α` reads a value of type `α` or says what is wrong with the JSON value. Records are
described by a `RecordReader`: it is put together from one reader a field, in the order of
declaration, and gives both forms in which a record may come. An object is looked at field by field
in the order it has them, so the first bad value is the error, then come missing fields in the
order of declaration. An array holds the fields in the order of declaration.

A decoder also carries a `Schema`, which tells the reader of JSON text what parts of a text the
decoder will look at. -/

namespace HostedNode.Json

/-! ### Faults -/

/-- What is wrong with a value that cannot be read. -/
inductive DecodeError where
  | invalidType (found expected : String)
  | invalidValue (found expected : String)
  | invalidLength (length : Nat) (expected : String)
  | missingField (name : String)
  | unknownVariant (name : String) (known : List String)
deriving DecidableEq, Repr

/-- A name between backticks. -/
def ticked (name : String) : String := "\x60" ++ name ++ "\x60"

/-- The known names as the end of a sentence. -/
def knownText : List String → String
  | [a] => ticked a
  | [a, b] => ticked a ++ " or " ++ ticked b
  | names => "one of " ++ Text.commaJoined (names.map ticked)

/-- The wording of a fault. -/
def DecodeError.message : DecodeError → String
  | .invalidType f e => "invalid type: " ++ f ++ ", expected " ++ e
  | .invalidValue f e => "invalid value: " ++ f ++ ", expected " ++ e
  | .invalidLength n e => "invalid length " ++ toString n ++ ", expected " ++ e
  | .missingField n => "missing field " ++ ticked n
  | .unknownVariant n known => "unknown variant " ++ ticked n ++ ", expected " ++ knownText known

/-- What kind of value this is, in a message. -/
def kindText : Json → String
  | null => "null"
  | bool b => "boolean " ++ ticked (if b then "true" else "false")
  | int i => "integer " ++ ticked (String.ofList (intText i))
  | double d => "floating point " ++ ticked (doubleFormat.write d)
  | str s => "string " ++ Text.quoted s
  | arr _ => "sequence"
  | obj _ => "map"

/-! ### Decoders -/

/-- Which parts of a text a decoder looks at. -/
inductive Schema where
  | whole
  | items (item : Schema)
  /-- These fields of an object, or the items of an array in this order. -/
  | fields (fields : List (String × Schema))
deriving Inhabited

/-- Where a value stands: inside a record that its tag has told from others, or not. The wording of
a surplus of array items depends on it. -/
inductive Place where
  | untagged
  | tagged
deriving DecidableEq, Repr

/-- Reads values of type `α`. -/
structure Decoder (α : Type) where
  schema : Schema
  run : Place → Json → Except DecodeError α

namespace Decoder

/-- The fault of a value of another kind. -/
def mismatch {α : Type} (expected : String) (v : Json) : Except DecodeError α :=
  .error (.invalidType v.kindText expected)

/-- Any value, as it is. -/
def json : Decoder Json := ⟨.whole, fun _ v => .ok v⟩

/-- A text; `expected` names what it stands for. -/
def textAs (expected : String) : Decoder String where
  schema := .whole
  run := fun _ v => match v with
    | .str s => .ok s
    | v => mismatch expected v

/-- A text. -/
def string : Decoder String := textAs "a string"

/-- The path of a file. -/
def path : Decoder String := textAs "path string"

/-- A truth value. -/
def bool : Decoder Bool where
  schema := .whole
  run := fun _ v => match v with
    | .bool b => .ok b
    | v => mismatch "a boolean" v

/-- A number below `bound`, called `name`. -/
def natBelow (bound : Nat) (name : String) : Decoder Nat where
  schema := .whole
  run := fun _ v => match v with
    | .int i =>
      if 0 ≤ i ∧ i < bound then .ok i.toNat else .error (.invalidValue v.kindText name)
    | v => mismatch name v

/-- Changes what is read. -/
def map {α β : Type} (f : α → β) (d : Decoder α) : Decoder β :=
  ⟨d.schema, fun p v => (d.run p v).map f⟩

/-- A byte. -/
def uint8 : Decoder UInt8 := (natBelow UInt8.size "u8").map UInt8.ofNat

/-- A number of 32 bits. -/
def uint32 : Decoder UInt32 := (natBelow UInt32.size "u32").map UInt32.ofNat

/-- A number of 64 bits. -/
def uint64 : Decoder UInt64 := (natBelow UInt64.size "u64").map UInt64.ofNat

/-- Reads the items one after the other. -/
def runItems {α : Type} (d : Decoder α) (p : Place) : List Json → Except DecodeError (List α)
  | [] => .ok []
  | v :: vs => do
    let a ← d.run p v
    let as ← runItems d p vs
    return a :: as

/-- A list. -/
def list {α : Type} (d : Decoder α) : Decoder (List α) where
  schema := .items d.schema
  run := fun p v => match v with
    | .arr items => d.runItems p items
    | v => mismatch "a sequence" v

/-- A value or null. -/
def option {α : Type} (d : Decoder α) : Decoder (Option α) where
  schema := d.schema
  run := fun p v => match v with
    | .null => .ok none
    | v => (d.run p v).map some

/-- Reads a plain name, or an object whose one field has that name and the value null. -/
def name {α : Type} (known : List (String × α)) : Decoder α where
  schema := .whole
  run := fun _ v =>
    let find (n : String) : Except DecodeError α :=
      match known.lookup n with
      | some a => .ok a
      | none => .error (.unknownVariant n (known.map (·.1)))
    match v with
    | .str n => find n
    | .obj [(n, w)] => do
      let a ← find n
      match w with
      | .null => return a
      | w => mismatch "unit" w
    | .obj _ => .error (.invalidValue "map" "map with a single key")
    | v => mismatch "string or map" v

end Decoder

/-! ### Records -/

/-- What a record reader knows of one field of its record. -/
structure FieldCheck where
  name : String
  schema : Schema
  /-- What is wrong with a value of it, if anything. -/
  fault? : Place → Json → Option DecodeError

/-- Reads some of the fields of a record, in both of its forms. -/
structure RecordReader (α : Type) where
  checks : List FieldCheck
  ofFields : Place → List (String × Json) → Except DecodeError α
  /-- Reads from the front of a list of items, the first of which is the field of the given number.
  The function makes the fault of a list that ends before a field. -/
  ofItems : Place → (Nat → DecodeError) → Nat → List Json → Except DecodeError (α × List Json)

namespace RecordReader

/-- Reads nothing. -/
def pure {α : Type} (a : α) : RecordReader α :=
  ⟨[], fun _ _ => .ok a, fun _ _ _ items => .ok (a, items)⟩

/-- Reads the fields of both readers, one after the other. -/
def seq {α β : Type} (f : RecordReader (α → β)) (x : RecordReader α) : RecordReader β where
  checks := f.checks ++ x.checks
  ofFields := fun p fields => do
    let g ← f.ofFields p fields
    let a ← x.ofFields p fields
    return g a
  ofItems := fun p short n items => do
    let (g, items) ← f.ofItems p short n items
    let (a, items) ← x.ofItems p short (n + f.checks.length) items
    return (g a, items)

instance : Pure RecordReader := ⟨RecordReader.pure⟩
instance : Seq RecordReader := ⟨fun f x => f.seq (x ())⟩
instance : Functor RecordReader :=
  ⟨fun f x => (RecordReader.pure f).seq x, fun a x => (RecordReader.pure fun _ => a).seq x⟩

/-- A field with values for its absence from an object and from an array; `none` where it must not
be absent. -/
def field {α : Type} (name : String) (d : Decoder α) (absent short : Option α) :
    RecordReader α where
  checks := [⟨name, d.schema, fun p v =>
    match d.run p v with
    | .ok _ => none
    | .error e => some e⟩]
  ofFields := fun p fields =>
    match find? name fields with
    | some v => d.run p v
    | none =>
      match absent with
      | some a => .ok a
      | none => .error (.missingField name)
  ofItems := fun p shortFault n items =>
    match items with
    | v :: rest => (d.run p v).map (·, rest)
    | [] =>
      match short with
      | some a => .ok (a, [])
      | none => .error (shortFault n)

/-- A field that must be there. -/
def required {α : Type} (name : String) (d : Decoder α) : RecordReader α := field name d none none

/-- A field that an object may leave out, with nothing as its value. -/
def optional {α : Type} (name : String) (d : Decoder α) : RecordReader (Option α) :=
  field name d.option (some none) none

/-- A field that may be left out, with a default as its value. -/
def withDefault {α : Type} (name : String) (d : Decoder α) (a : α) : RecordReader α :=
  field name d (some a) (some a)

/-- The first fault of a field that the reader reads, in the order of the object. -/
def firstFault {α : Type} (r : RecordReader α) (p : Place) :
    List (String × Json) → Option DecodeError
  | [] => none
  | (n, v) :: fields =>
    match r.checks.find? (·.name = n) with
    | none => r.firstFault p fields
    | some c =>
      match c.fault? p v with
      | some e => some e
      | none => r.firstFault p fields

/-- Reads all of an object. -/
def readFields {α : Type} (r : RecordReader α) (p : Place) (fields : List (String × Json)) :
    Except DecodeError α :=
  match r.firstFault p fields with
  | some e => .error e
  | none => r.ofFields p fields

/-- A number of things. -/
def counted (n : Nat) : String := if n = 1 then "1 element" else toString n ++ " elements"

/-- Reads all of an array. `what` names the record. -/
def readItems {α : Type} (r : RecordReader α) (what : String) (p : Place) (items : List Json) :
    Except DecodeError α := do
  let short n := DecodeError.invalidLength n (what ++ " with " ++ counted r.checks.length)
  let (a, rest) ← r.ofItems p short 0 items
  if rest.isEmpty then return a
  else match p with
    | .untagged => .error (.invalidLength items.length "fewer elements in array")
    | .tagged =>
      .error (.invalidLength items.length (counted (items.length - rest.length) ++ " in sequence"))

/-- The fields that are read, with their schemas. -/
def schema {α : Type} (r : RecordReader α) : Schema :=
  .fields (r.checks.map fun c => (c.name, c.schema))

/-- The decoder of the record called `name`. -/
def decoder {α : Type} (name : String) (r : RecordReader α) : Decoder α where
  schema := r.schema
  run := fun p v => match v with
    | .obj fields => r.readFields p fields
    | .arr items => r.readItems ("struct " ++ name) p items
    | v => Decoder.mismatch ("struct " ++ name) v

end RecordReader

/-! ### Tagged records -/

/-- The field that tells tagged records apart. -/
def tagName : String := "type"

/-- One of several records under a common type, told from the others by a tag. -/
structure Variant (α : Type) where
  tag : String
  name : String
  reader : RecordReader α

/-- The fields without the tag. -/
def untaggedFields (fields : List (String × Json)) : List (String × Json) :=
  fields.filter (·.1 ≠ tagName)

/-- The record that a tag stands for. -/
def variantOf {α : Type} (variants : List (Variant α)) : Json → Except DecodeError (Variant α)
  | .str t =>
    match variants.find? (·.tag = t) with
    | some v => .ok v
    | none => .error (.unknownVariant t (variants.map (·.tag)))
  | v => Decoder.mismatch "variant identifier" v

/-- The decoder of the tagged records under the type called `name`: an object with the tag among its
fields, or an array that begins with the tag. -/
def Decoder.tagged {α : Type} (name : String) (variants : List (Variant α)) : Decoder α where
  schema := .whole
  run := fun _ v => match v with
    | .obj fields =>
      match find? tagName fields with
      | none => .error (.missingField tagName)
      | some t => do
        let c ← variantOf variants t
        c.reader.readFields .tagged (untaggedFields fields)
    | .arr [] => .error (.missingField tagName)
    | .arr (t :: items) => do
      let c ← variantOf variants t
      c.reader.readItems ("struct variant " ++ name ++ "::" ++ c.name) .tagged items
    | v => mismatch ("internally tagged enum " ++ name) v

/-- Reads a value that stands on its own. -/
def decode {α : Type} (d : Decoder α) (v : Json) : Except DecodeError α := d.run .untagged v

end HostedNode.Json

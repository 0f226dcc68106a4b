import HostedNode.Decimal.Double

/-! # TOML values

The values of a TOML document, and how the tables of a document come about: under headers, on the
way to other tables, by keys with dots, or as values between braces. Each way has its own rules for
what may be added to a table later; they are kept by `enter`, which goes from a table to the one
that a path leads to. -/

namespace HostedNode

open Decimal (Double)

namespace Toml

/-- How a table has come about. -/
inductive Origin where
  /-- Under a header of its own. -/
  | header
  /-- On the way to a table with a header. -/
  | implied
  /-- By a key with dots. -/
  | dotted
  /-- As a value. -/
  | inline
deriving DecidableEq, Repr, Inhabited

end Toml

/-- A TOML value. -/
inductive Toml where
  | string (s : String)
  | integer (n : Int)
  /-- Any other number, if a double can come near it. -/
  | float (d : Option Double)
  | boolean (b : Bool)
  /-- A date, a time of day, or both, as written. -/
  | moment (text : String)
  /-- A list of values, either as written or of the tables under repeated headers. -/
  | array (repeated : Bool) (items : List Toml)
  | table (origin : Toml.Origin) (fields : List (String × Toml))
deriving Inhabited

namespace Toml

/-- The fields of a table, in the order in which they came. -/
abbrev Fields := List (String × Toml)

/-- Replaces the value of a field that is there. -/
def Fields.set (fields : Fields) (name : String) (v : Toml) : Fields :=
  fields.map fun f => if f.1 = name then (name, v) else f

/-- Adds a field. -/
def Fields.add (fields : Fields) (name : String) (v : Toml) : Fields := fields ++ [(name, v)]

/-! ### Paths -/

/-- Whether one may go into a table of some origin to put something there: by a header, or by a key
with dots. -/
def Origin.admits (byHeader : Bool) : Origin → Bool
  | header => byHeader
  | implied => true
  | dotted => true
  | inline => false

/-- Changes the table that a path leads to. Tables on the way that are not there are made; of the
tables under repeated headers the last one counts. -/
def enter (byHeader : Bool) (change : Origin → Fields → Option Fields) :
    List String → Origin → Fields → Option Fields
  | [], origin, fields => change origin fields
  | name :: path, _, fields =>
    match fields.lookup name with
    | none => do
      let origin : Origin := if byHeader then .implied else .dotted
      return fields.add name (.table origin (← enter byHeader change path origin []))
    | some (.table origin inner) =>
      if origin.admits byHeader then do
        return fields.set name (.table origin (← enter byHeader change path origin inner))
      else none
    | some (.array true items) =>
      match items.getLast? with
      | some (.table origin inner) => do
        let last := Toml.table origin (← enter byHeader change path origin inner)
        return fields.set name (.array true (items.dropLast ++ [last]))
      | _ => none
    | some _ => none

/-- Gives a field that is not there yet a value. A key with dots adds to tables that came about by
such keys only. -/
def assign (path : List String) (name : String) (v : Toml) (fields : Fields) : Option Fields :=
  enter false
    (fun origin fields =>
      if path ≠ [] ∧ origin ≠ .dotted then none
      else if (fields.lookup name).isSome then none
      else some (fields.add name v))
    path .header fields

/-- Opens the table under a header. It must not be there yet, except on the way to another one. -/
def openTable (path : List String) (name : String) (root : Fields) : Option Fields :=
  enter true
    (fun _ fields =>
      match fields.lookup name with
      | none => some (fields.add name (.table .header []))
      | some (.table .implied inner) => some (fields.set name (.table .header inner))
      | some _ => none)
    path .header root

/-- Opens one more table under a repeated header. -/
def openRepeated (path : List String) (name : String) (root : Fields) : Option Fields :=
  enter true
    (fun _ fields =>
      match fields.lookup name with
      | none => some (fields.add name (.array true [.table .header []]))
      | some (.array true items) =>
        some (fields.set name (.array true (items ++ [.table .header []])))
      | some _ => none)
    path .header root

/-! ### Ranges -/

mutual

/-- Whether all numbers in a value are in the range of what a reader of numbers can hold: 128 bits
for whole numbers, doubles for others. -/
def inRange : Toml → Bool
  | integer n => -(2 ^ 127) ≤ n ∧ n < 2 ^ 128
  | float d => d.isSome
  | array _ items => itemsInRange items
  | table _ fields => fieldsInRange fields
  | _ => true

/-- Whether all numbers in some values are in range. -/
def itemsInRange : List Toml → Bool
  | [] => true
  | v :: vs => v.inRange && itemsInRange vs

/-- Whether all numbers in some fields are in range. -/
def fieldsInRange : List (String × Toml) → Bool
  | [] => true
  | (_, v) :: fs => v.inRange && fieldsInRange fs

end

end Toml

end HostedNode

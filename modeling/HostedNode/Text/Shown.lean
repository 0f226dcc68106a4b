import HostedNode.Text.Quoted

/-! # Shown values

The text of a value in log and console lines: records as `Name { a: 1, b: "x" }`, lists as
`[a, b]`, optional values as `Some(x)` and `None`, texts in quotes. Each type of the library that
appears in such a line says in its own module how it is shown, with the functions of this one. -/

namespace HostedNode.Text

/-- Values that have a shown form. -/
class Shown (α : Type) where
  shown : α → String

export Shown (shown)

instance : Shown String := ⟨quoted⟩
instance : Shown Nat := ⟨toString⟩
instance : Shown Int := ⟨toString⟩
instance : Shown Bool := ⟨fun b => if b then "true" else "false"⟩
instance : Shown UInt8 := ⟨fun n => toString n.toNat⟩
instance : Shown UInt32 := ⟨fun n => toString n.toNat⟩
instance : Shown UInt64 := ⟨fun n => toString n.toNat⟩

/-- The parts with a comma and a blank between them. -/
def commaJoined : List String → String
  | [] => ""
  | [p] => p
  | p :: q :: ps => p ++ ", " ++ commaJoined (q :: ps)

instance {α : Type} [Shown α] : Shown (List α) :=
  ⟨fun xs => "[" ++ commaJoined (xs.map shown) ++ "]"⟩

instance {α : Type} [Shown α] : Shown (Option α) :=
  ⟨fun
    | none => "None"
    | some x => "Some(" ++ shown x ++ ")"⟩

/-- A record with its fields in order; a record without fields is its name. -/
def shownRecord (name : String) (fields : List (String × String)) : String :=
  if fields.isEmpty then name
  else name ++ " \x7b " ++ commaJoined (fields.map fun f => f.1 ++ ": " ++ f.2) ++ " \x7d"

end HostedNode.Text

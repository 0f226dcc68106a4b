import HostedNode.Json.Reader

/-! # Types with a JSON form

A type is `Coded` if its values are written as JSON and read from it. Each record of the library
gives its instance beside its definition. -/

namespace HostedNode.Json

/-- Types whose values are written as JSON and read from it. -/
class Coded (α : Type) where
  toJson : α → Json
  decoder : Decoder α

export Coded (toJson decoder)

/-- The JSON form of a list, by the form of its items. -/
def ofList {α : Type} (f : α → Json) (xs : List α) : Json := arr (xs.map f)

/-- The JSON form of an optional value: null where there is none. -/
def ofOption {α : Type} (f : α → Json) : Option α → Json
  | none => null
  | some a => f a

instance : Coded String := ⟨str, Decoder.string⟩
instance : Coded Bool := ⟨bool, Decoder.bool⟩
instance : Coded UInt8 := ⟨fun n => ofNat n.toNat, Decoder.uint8⟩
instance : Coded UInt32 := ⟨fun n => ofNat n.toNat, Decoder.uint32⟩
instance : Coded UInt64 := ⟨fun n => ofNat n.toNat, Decoder.uint64⟩
instance : Coded Json := ⟨id, Decoder.json⟩

instance {α : Type} [Coded α] : Coded (List α) := ⟨ofList toJson, decoder.list⟩
instance {α : Type} [Coded α] : Coded (Option α) := ⟨ofOption toJson, decoder.option⟩

/-- A field of a record with its JSON form. -/
def entry {α : Type} [Coded α] (name : String) (a : α) : String × Json := (name, toJson a)

/-- Reads a value of a coded type. -/
def decodeAs (α : Type) [Coded α] (v : Json) : Except DecodeError α := decode (decoder (α := α)) v

end HostedNode.Json

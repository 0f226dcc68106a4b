import HostedNode.Settings.Basic
import HostedNode.Toml.Reader

/-! # Settings as documents

`ofDocument?` reads settings from a TOML document. A key that is not there stands for the default;
other keys are passed over, as long as the numbers under them are in range. `document` writes
settings, with a table for the log at the end; what is not set is left out. -/

namespace HostedNode

open Toml

namespace Settings

/-! ### Reading -/

/-- A text. -/
def textOf? : Toml → Option String
  | .string s => some s
  | _ => none

/-- Whether an array or a table holds nothing. -/
def isVoid : Toml → Bool
  | .array _ items => items.isEmpty
  | .table _ fields => fields.isEmpty
  | _ => false

/-- A name out of a fixed set: a text, or the only key of a table if nothing is under it. -/
def nameOf? : Toml → Option String
  | .string s => some s
  | .table _ [(name, v)] => if isVoid v then some name else none
  | _ => none

/-- One of some named values. -/
def oneOf? {α : Type} (names : List (String × α)) (v : Toml) : Option α :=
  (nameOf? v).bind (List.lookup · names)

/-- A setting that may be absent. -/
def orElse {α : Type} (dflt : α) (read : Toml → Option α) : Option Toml → Option α
  | some v => read v
  | none => some dflt

/-- A setting that may be absent and has no default. -/
def optional (v : Option Toml) : Option (Option String) :=
  orElse none (fun v => (textOf? v).map some) v

/-- Whether the numbers under all keys but these are in range. -/
def othersInRange (names : List String) (fields : Fields) : Bool :=
  fields.all fun f => names.contains f.1 || f.2.inRange

end Settings

namespace LogSettings

/-- Reads the settings of the log from their parts. -/
def ofParts? (level file : Option Toml) : Option LogSettings := do
  let level ← Settings.orElse default (Settings.oneOf? Log.Level.names) level
  let file ← Settings.optional file
  return ⟨level, file⟩

/-- Reads the settings of the log. They may stand in an array, in their order, instead of a table;
a moment sets none of them. -/
def ofToml? : Toml → Option LogSettings
  | .table _ fields =>
    if Settings.othersInRange ["level", "file"] fields then
      ofParts? (fields.lookup "level") (fields.lookup "file")
    else none
  | .array _ items => ofParts? items[0]? items[1]?
  | .moment _ => some default
  | _ => none

end LogSettings

namespace Settings

/-- The keys of the settings. -/
def keys : List String :=
  ["environment", "api_key", "invite_code", "partner_cert", "partner_key", "logging"]

/-- Reads settings from the fields of a document. -/
def ofFields? (fields : Fields) : Option Settings := do
  let environment ← orElse default (oneOf? Environment.names) (fields.lookup "environment")
  let apiKey ← optional (fields.lookup "api_key")
  let inviteCode ← optional (fields.lookup "invite_code")
  let partnerCert ← optional (fields.lookup "partner_cert")
  let partnerKey ← optional (fields.lookup "partner_key")
  let logging ← orElse default LogSettings.ofToml? (fields.lookup "logging")
  if othersInRange keys fields then
    some { environment, apiKey, inviteCode, partnerCert, partnerKey, logging }
  else none

/-- Reads settings from a document. -/
def ofDocument? (text : String) : Option Settings := (Toml.read? text).bind ofFields?

/-! ### Writing -/

/-- A line with a key and a text. -/
def line (key value : String) : List Char :=
  key.toList ++ ' ' :: '=' :: ' ' :: writeString value ++ ['\n']

/-- A line with a key and a text, if there is a text. -/
def line? (key : String) : Option String → List Char
  | some value => line key value
  | none => []

/-- The document of settings. -/
def document (s : Settings) : String :=
  String.ofList
    (line "environment" s.environment.name ++ line? "api_key" s.apiKey
      ++ line? "invite_code" s.inviteCode ++ line? "partner_cert" s.partnerCert
      ++ line? "partner_key" s.partnerKey ++ '\n' :: "[logging]".toList ++ '\n' ::
      line "level" s.logging.level.name ++ line? "file" s.logging.file)

end Settings

end HostedNode

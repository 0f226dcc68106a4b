import HostedNode.Config
import HostedNode.Proofs.Disk.Places
import HostedNode.Proofs.Rpc.Script

/-! # Secrets covered up

The secrets are the bytes of credentials, the key of the user of the scheduler, and what they become
on the way: headers, parameters and the texts in replies that issue credentials. `covered` empties
them and leaves all else as it is. A script answers with its secrets covered just what it answers
without, but for the secrets (`answer_coveredScript`, `opening_coveredScript`). -/

namespace HostedNode

open Disk (lookup_map)
open Json Rpc

/-! ### Credentials -/

/-- Credentials with their secrets covered. -/
def DeviceCredentials.covered (_ : DeviceCredentials) : DeviceCredentials := ⟨[], []⟩

/-- Kept credentials with their secrets covered. -/
def StoredCredentials.covered (s : StoredCredentials) : StoredCredentials :=
  { s with credentials := s.credentials.covered }

/-- A registration with the secrets of the partner covered. -/
def Registration.covered (r : Registration) : Registration :=
  { r with partner := r.partner.map DeviceCredentials.covered }

/-- A node configuration with the secrets of the partner covered. -/
def NodeConfig.covered : NodeConfig → NodeConfig
  | greenlight r => greenlight r.covered

/-- A configuration with its secrets covered. -/
def Config.covered (c : Config) : Config :=
  { c with apiKey := c.apiKey.map fun _ => "", nodeConfig := c.nodeConfig.covered }

/-! ### Traffic -/

/-- The headers that hold secrets. -/
def secretHeaders : List String := ["x-api-key", "x-device-cert", "x-device-key"]

/-- A header with its value covered, if it is a secret. -/
def coveredHeader (h : String × String) : String × String :=
  if h.1 ∈ secretHeaders then (h.1, "") else h

/-- Settings with the secrets in the headers covered. -/
def Rpc.Options.covered (o : Options) : Options :=
  { o with headers := o.headers.map coveredHeader }

/-- A connection with the secrets in its headers covered. -/
def Rpc.Connection.covered (c : Connection) : Connection := { c with options := c.options.covered }

/-- A text covered; any other value as it is. -/
def coveredText : Json → Json
  | .str _ => .str ""
  | v => v

/-- The value of a field, covered if it has one of these names. -/
def coveredField (names : List String) (name : String) (v : Json) : Json :=
  if name ∈ names then coveredText v else v

/-- Fields with the texts under some names covered. -/
def coveredFields (names : List String) (fs : List (String × Json)) : List (String × Json) :=
  fs.map fun f => (f.1, coveredField names f.1 f.2)

/-- The parameters that hold secrets. -/
def secretParams : List String := ["partner_cert", "partner_key"]

/-- A parameter with its secrets covered. -/
def coveredParam : Json → Json
  | .obj fs => .obj (coveredFields secretParams fs)
  | v => v

/-- What happened, with the secrets in it covered. Lines and events have none. -/
def Happening.covered : Happening → Happening
  | .opened c => .opened c.covered
  | .called c method params => .called c.covered method (params.map coveredParam)
  | h => h

/-! ### Replies -/

/-- The methods whose replies issue credentials. -/
def issuingMethods : List String := ["recover", "register"]

/-- The fields of such a reply that hold secrets. -/
def issuedFields : List String := ["device_cert", "device_key"]

/-- An issue of credentials, in either form of a record, with its secrets covered. -/
def coveredIssue : Json → Json
  | .obj fs => .obj (coveredFields issuedFields fs)
  | .arr vs => .arr ((vs.take 2).map coveredText ++ vs.drop 2)
  | v => v

/-- The value in a reply to a method, with its secrets covered. -/
def coveredAnswer (method : String) : Json → Json :=
  if method ∈ issuingMethods then coveredIssue else id

theorem coveredAnswer_of_notMem {method : String} (h : method ∉ issuingMethods) :
    coveredAnswer method = id := if_neg h

/-! ### Scripts -/

section

variable {α β : Type} {name : String}

theorem put_map (f : String → α → β) (a : α) (xs : List (String × α)) :
    ScriptOf.put name (f name a) (xs.map fun e => (e.1, f e.1 e.2)) =
      (ScriptOf.put name a xs).map fun e => (e.1, f e.1 e.2) := by
  induction xs with
  | nil => rfl
  | cons e xs ih =>
    obtain ⟨n, b⟩ := e
    rw [List.map_cons, ScriptOf.put, ScriptOf.put, ih]
    split
    · next h => rw [List.map_cons, h]
    · rfl

end

/-- The replies under a method, with the secrets in them covered. -/
def coveredReplies (method : String) (rs : List (Except TransportError Json)) :
    List (Except TransportError Json) := rs.map (Except.map (coveredAnswer method))

/-- The replies at an address, with the secrets in them covered. -/
def coveredMethods (ms : List (String × List (Except TransportError Json))) :
    List (String × List (Except TransportError Json)) :=
  ms.map fun m => (m.1, coveredReplies m.1 m.2)

/-- A script with the secrets in its replies covered. -/
def coveredScript (s : Script) : Script := s.map fun e => (e.1, coveredMethods e.2)

variable (s : Script) (address method : String)

theorem lookup_coveredScript :
    List.lookup address (coveredScript s) = (List.lookup address s).map coveredMethods :=
  lookup_map (fun _ => coveredMethods) s

theorem replies_coveredScript :
    ScriptOf.replies (coveredScript s) address method =
      coveredReplies method (ScriptOf.replies s address method) := by
  rw [ScriptOf.replies, ScriptOf.replies, lookup_coveredScript]
  cases List.lookup address s with
  | none => rfl
  | some ms =>
    rw [Option.map_some, Option.bind_some, Option.bind_some, coveredMethods,
      lookup_map coveredReplies]
    cases List.lookup method ms <;> rfl

theorem setReplies_coveredScript (rs : List (Except TransportError Json)) :
    ScriptOf.setReplies (coveredScript s) address method (coveredReplies method rs) =
      coveredScript (ScriptOf.setReplies s address method rs) := by
  have hmethods : ((List.lookup address (coveredScript s)).getD []) =
      coveredMethods ((List.lookup address s).getD []) := by
    rw [lookup_coveredScript]
    cases List.lookup address s <;> rfl
  rw [ScriptOf.setReplies, hmethods, coveredMethods, put_map coveredReplies]
  exact put_map (fun _ => coveredMethods) _ s

/-- **Taking a reply from a covered script takes the reply covered.** -/
theorem take_coveredScript :
    ScriptOf.take (coveredScript s) address method =
      ((ScriptOf.take s address method).1.map (Except.map (coveredAnswer method)),
        coveredScript (ScriptOf.take s address method).2) := by
  rw [ScriptOf.take, ScriptOf.take, replies_coveredScript]
  rcases ScriptOf.replies s address method with _ | ⟨r, _ | ⟨r', rs⟩⟩
  · rfl
  · rfl
  · exact Prod.ext rfl (setReplies_coveredScript s address method (r' :: rs))

/-- **A covered script answers what the script answers, covered.** -/
theorem answer_coveredScript (c : Connection) (params params' : List Json) :
    Net.answer c.covered method params' (coveredScript s) =
      ((Net.answer c method params s).1.map (coveredAnswer method),
        coveredScript (Net.answer c method params s).2) := by
  have haddress : c.covered.address = c.address := rfl
  rw [Script.answer_eq, Script.answer_eq, haddress, take_coveredScript]
  rcases ScriptOf.take s c.address method with ⟨_ | _, _⟩ <;> rfl

/-- **A connection opens over a covered script just if it opens over the script.** -/
theorem opening_coveredScript (c : Connection) :
    Net.opening c.covered (coveredScript s) =
      ((Net.opening c s).1, coveredScript (Net.opening c s).2) := by
  have haddress : c.covered.address = c.address := rfl
  rw [Script.opening_eq, Script.opening_eq, haddress, take_coveredScript, lookup_coveredScript,
    Option.isSome_map]
  split
  · rcases ScriptOf.take s c.address Script.openMethod with ⟨_ | _ | _, _⟩ <;> rfl
  · rfl

end HostedNode

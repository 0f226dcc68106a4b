import HostedNode.Config
import HostedNode.Settings.Document
import HostedNode.Settings.Error

/-! # The settings file

Settings are loaded from a file and saved to one; a file that is not there stands for the defaults.
`registration` says how they register a new node: with an invite code, with the credentials of a
partner, which are read from their files, or with nothing. -/

namespace HostedNode.Settings

/-- The settings in a file. -/
def load (d : Disk) (path : String) : Except SettingsError Settings :=
  match d.readText path with
  | .error e => .error (.file e)
  | .ok text =>
    match ofDocument? text with
    | some s => .ok s
    | none => .error .malformed

/-- The settings in a file, or the defaults if there is no file. -/
def loadOrDefault (d : Disk) (path : String) : Except SettingsError Settings :=
  match load d path with
  | .error (.file .notFound) => .ok default
  | r => r

/-- Saves settings to a file; the directories it lies in are made if they are not there. -/
def save (s : Settings) (path : String) : DiskAct Unit := do
  match Path.parent? path with
  | some directory => Disk.makeDirectories directory
  | none => pure ()
  Disk.write path (Text.Utf8.encode s.document)

/-- The settings file of a user with this directory for settings and this home directory. A
directory for settings counts only if its path starts at the root, a home directory if its path is
not empty. -/
def defaultPath (directory home : Option String) : Except SettingsError String :=
  match directory.filter Path.isAbsolute, home.filter (· ≠ "") with
  | some d, _ => .ok (Path.join (Path.join d "lnsdk") "config.toml")
  | none, some h => .ok (Path.join (Path.join (Path.join h ".config") "lnsdk") "config.toml")
  | none, none => .error .noDirectory

/-- The bytes of a file of a partner. -/
def partnerFile (d : Disk) (path : String) : Except SettingsError Bytes :=
  (d.read path).mapError .file

/-- How the settings register a new node. -/
def registration (s : Settings) (d : Disk) : Except SettingsError Registration := do
  if s.inviteCode.isSome ∧ (s.partnerCert.isSome ∨ s.partnerKey.isSome) then
    throw .conflictingRegistration
  match s.partnerCert, s.partnerKey with
  | some cert, some key =>
    let cert ← partnerFile d cert
    let key ← partnerFile d key
    return ⟨some { key, cert }, s.inviteCode⟩
  | none, none => return ⟨none, s.inviteCode⟩
  | _, _ => throw .incompletePartner

end HostedNode.Settings

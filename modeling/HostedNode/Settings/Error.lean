import HostedNode.Disk.Basic

/-! # Why settings failed

What can be wrong with a settings file or with what it says, with the wordings. -/

namespace HostedNode

/-- Why settings could not be read, saved or used. -/
inductive SettingsError where
  | file (cause : DiskError)
  | malformed
  /-- There is a certificate without a key, or a key without a certificate. -/
  | incompletePartner
  /-- There are an invite code and a certificate or key. -/
  | conflictingRegistration
  | noDirectory
deriving DecidableEq, Repr

namespace SettingsError

/-- What is said of a file that is no document of settings. -/
def malformedText : String := "TOML parse error"

/-- The wording of an error. -/
def message : SettingsError → String
  | file e => "Failed to read config file: " ++ e.message
  | malformed => "Failed to parse config file: " ++ malformedText
  | incompletePartner => "partner_cert and partner_key must be set together"
  | conflictingRegistration => "invite_code cannot be combined with partner_cert and partner_key"
  | noDirectory => "Could not find user config directory"

end SettingsError

end HostedNode

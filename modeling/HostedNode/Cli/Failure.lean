import HostedNode.Services.Error
import HostedNode.Settings.Error

/-! # Why a command failed

A failure is what went wrong, with what was being done at that time. Its text names what was being
done, then the error, then the error that it wraps, and so on. -/

namespace HostedNode.Cli

/-- What went wrong. -/
inductive Cause where
  | services (e : ServiceError)
  | settings (e : SettingsError)
  | disk (e : DiskError)
deriving DecidableEq, Repr

/-- The wordings of an error and of the errors that it wraps. -/
def Cause.texts : Cause → List String
  | services e =>
    match e with
    | .node inner => [e.message, inner.message]
    | .logStream => [e.message, ServiceError.streamText]
    | _ => [e.message]
  | settings e =>
    match e with
    | .file inner => [e.message, inner.message]
    | .malformed => [e.message, SettingsError.malformedText]
    | _ => [e.message]
  | disk e => [e.message]

/-- Why a command failed. -/
structure Failure where
  doing : Option String
  cause : Cause
deriving DecidableEq, Repr

namespace Failure

/-- A failure of the services. -/
def ofServices (e : ServiceError) : Failure := ⟨none, .services e⟩

/-- A failure of the services while something was being done. -/
def ofServicesIn (doing : String) (e : ServiceError) : Failure := ⟨some doing, .services e⟩

/-- A failure of the settings. -/
def ofSettings (e : SettingsError) : Failure := ⟨none, .settings e⟩

/-- A failure of the settings while something was being done. -/
def ofSettingsIn (doing : String) (e : SettingsError) : Failure := ⟨some doing, .settings e⟩

/-- A failure of a file while something was being done. -/
def ofDiskIn (doing : String) (e : DiskError) : Failure := ⟨some doing, .disk e⟩

/-- The texts of a failure, from the outermost on. -/
def texts (f : Failure) : List String := f.doing.toList ++ f.cause.texts

/-- Texts with colons between them. -/
def colonJoined : List String → String
  | [] => ""
  | [t] => t
  | t :: u :: us => t ++ ": " ++ colonJoined (u :: us)

/-- The text of a failure. -/
def message (f : Failure) : String := colonJoined f.texts

end Failure

end HostedNode.Cli

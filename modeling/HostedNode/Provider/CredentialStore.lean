import HostedNode.Credentials
import HostedNode.Provider.Error

/-! # Where credentials are kept

A `CredentialStore` is a place for the credentials of one device. `CredentialSlot` is one in memory;
it can be made to fail, and one that fails stays as it is. -/

namespace HostedNode

/-- Places where credentials are kept. -/
class CredentialStore (κ : Type) where
  get : κ → Except NodeError (Option StoredCredentials)
  set : StoredCredentials → EStateM NodeError κ Unit

/-- A place for credentials in memory. -/
structure CredentialSlot where
  held : Option StoredCredentials
  getFailure : Option NodeError
  setFailure : Option NodeError
deriving DecidableEq, Repr, Inhabited

instance : CredentialStore CredentialSlot where
  get s :=
    match s.getFailure with
    | some e => .error e
    | none => .ok s.held
  set c s :=
    match s.setFailure with
    | some e => .error e s
    | none => .ok () { s with held := some c }

end HostedNode

import HostedNode.Json.Coded
import HostedNode.Name
import HostedNode.Text.Case

/-! # Deployments and networks

The deployments of the provider and the Bitcoin networks, with their lower-case names. Names are
read in any letter case; JSON records hold them in lower case only. -/

namespace HostedNode

open Json Text

/-! ### Deployments of the provider -/

/-- A deployment of the provider. -/
inductive Environment where
  | production
  | staging
deriving DecidableEq, Repr, Inhabited

namespace Environment

/-- The name of a deployment. -/
def name : Environment → String
  | production => "production"
  | staging => "staging"

/-- All deployments with their names. -/
def names : List (String × Environment) := [("production", production), ("staging", staging)]

/-- Reads a name in any letter case. -/
def parse (s : String) : Except NameError Environment :=
  match names.lookup (lower s) with
  | some e => .ok e
  | none => .error (.environment s)

instance : Coded Environment := ⟨fun e => .str e.name, Decoder.name names⟩

instance : Shown Environment :=
  ⟨fun
    | production => "Production"
    | staging => "Staging"⟩

end Environment

/-! ### Bitcoin networks -/

/-- A Bitcoin network. -/
inductive Network where
  | bitcoin
  | testnet
  | signet
  | regtest
deriving DecidableEq, Repr, Inhabited

namespace Network

/-- The name of a network. -/
def name : Network → String
  | bitcoin => "bitcoin"
  | testnet => "testnet"
  | signet => "signet"
  | regtest => "regtest"

/-- All networks with their names. -/
def names : List (String × Network) :=
  [("bitcoin", bitcoin), ("testnet", testnet), ("signet", signet), ("regtest", regtest)]

/-- Reads a name in any letter case; the main network has a second name. -/
def parse (s : String) : Except NameError Network :=
  match (names ++ [("mainnet", bitcoin)]).lookup (lower s) with
  | some n => .ok n
  | none => .error (.network s)

instance : Coded Network := ⟨fun n => .str n.name, Decoder.name names⟩

instance : Shown Network :=
  ⟨fun
    | bitcoin => "Bitcoin"
    | testnet => "Testnet"
    | signet => "Signet"
    | regtest => "Regtest"⟩

end Network

end HostedNode

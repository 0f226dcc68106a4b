import HostedNode.Rpc.Error

/-! # Why the provider or a node failed

The failures that a node reports, with their wordings, and the place of every failed call among
them. -/

namespace HostedNode

open Rpc

/-- Why something asked of the provider or of a node failed. -/
inductive NodeError where
  | generic (message : String)
  | connectivity (message : String)
  | credentials (message : String)
  | invalidResponse (message : String)
  | persistence (message : String)
deriving DecidableEq, Repr, Inhabited

namespace NodeError

/-- The wording of an error. -/
def message : NodeError → String
  | generic m => "Generic: " ++ m
  | connectivity m => "Service connectivity: " ++ m
  | credentials m => "Credentials: " ++ m
  | invalidResponse m => "Invalid response: " ++ m
  | persistence m => "Persistence: " ++ m

/-- The failure that a failed call is. -/
def ofTransport (e : TransportError) : NodeError :=
  match e with
  | .http _ => connectivity e.message
  | .timeout _ => connectivity e.message
  | .serialization _ => invalidResponse e.message
  | .invalidFormat _ => invalidResponse e.message
  | .rpc _ => generic e.message
  | .other _ => generic e.message

end NodeError

end HostedNode

import HostedNode.Decimal.Duration

/-! # Why a call failed

The ways in which a call to the scheduler or to a node can fail, with their wordings. Two of them
say that the other side was not reached; the others that it answered with something unusable. -/

namespace HostedNode.Rpc

open Decimal (Duration)

/-- Why a call failed. -/
inductive TransportError where
  /-- The connection failed or the answer has a bad status. -/
  | http (message : String)
  | timeout (limit : Duration)
  /-- The answer is no JSON. -/
  | serialization (message : String)
  | rpc (message : String)
  /-- The answer is JSON of another shape. -/
  | invalidFormat (message : String)
  | other (message : String)
deriving DecidableEq, Repr, Inhabited

namespace TransportError

/-- The wording of an error. -/
def message : TransportError → String
  | http m => "HTTP transport error: " ++ m
  | timeout d => "Request timed out after " ++ d.text
  | serialization m => "Serialization error: " ++ m
  | rpc m => "RPC error: " ++ m
  | invalidFormat m => "Invalid response format: " ++ m
  | other m => "Other error: " ++ m

/-- Whether the other side was not reached. -/
def isConnectivity : TransportError → Bool
  | http _ => true
  | timeout _ => true
  | _ => false

end TransportError

end HostedNode.Rpc

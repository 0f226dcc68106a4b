import HostedNode.Json.Basic
import HostedNode.Rpc.Error

/-! # Connections

A connection is an address with the settings for all calls over it. What is at the other end is a
`Net`: a state that says whether a connection opens and what a call comes to. Everything that makes
calls works over any `Net`: over one that plays back given replies as well as over HTTP. -/

namespace HostedNode.Rpc

open Decimal (Duration)

/-- The settings of a connection. -/
structure Options where
  timeout : Option Duration
  headers : List (String × String)
deriving DecidableEq, Repr, Inhabited

namespace Options

/-- The settings with a limit and no headers. -/
def withTimeout (limit : Duration) : Options := ⟨some limit, []⟩

/-- One more header. -/
def header (o : Options) (name value : String) : Options :=
  { o with headers := o.headers ++ [(name, value)] }

end Options

/-- An address with the settings for the calls to it. -/
structure Connection where
  address : String
  options : Options
deriving DecidableEq, Repr, Inhabited

/-- What is at the other end of connections. -/
class Net (σ : Type) where
  opening : Connection → σ → Except TransportError Unit × σ
  answer : Connection → String → List Json → σ → Except TransportError Json × σ

end HostedNode.Rpc

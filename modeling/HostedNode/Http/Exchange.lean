import HostedNode.Http.Header
import HostedNode.Http.Status
import HostedNode.Http.Url
import HostedNode.Rpc.Connection
import HostedNode.Rpc.Envelope

/-! # Calls over HTTP

A call is a request with a JSON body, and what it comes to is read from the response: an envelope in
the body counts whatever the status; without one, a status that is no success is the failure. The
body is told as the text that the client makes of its bytes: in the character set that the response
names, or else in UTF-8, and without a byte order mark. What carries requests is a `Wire`; `Over`
makes a `Net` of it. -/

namespace HostedNode.Http

open Json Rpc

/-! ### Requests -/

/-- A request. -/
structure Request where
  url : Url
  headers : List Header
  body : Json
deriving DecidableEq, Repr, Inhabited

/-- The identifier of every call. -/
def callId : String := "lnsdk"

/-- The body of a call. -/
def callBody (method : String) (params : List Json) : Json :=
  Json.object [("jsonrpc", .str "2.0"), ("id", .str callId), ("method", .str method),
    ("params", .arr params)]

/-- The request of a call. -/
def request (url : Url) (headers : List Header) (method : String) (params : List Json) : Request :=
  ⟨url, setHeader "content-type" "application/json" headers, callBody method params⟩

/-! ### Responses -/

/-- What comes back. -/
inductive Reply where
  | unreachable
  | late
  | response (status : Nat) (body : String)
  /-- A response whose body cannot be read to its end. -/
  | cutOff (status : Nat) (why : String)
deriving DecidableEq, Repr, Inhabited

/-- What a response says. -/
def outcome (status : Nat) (body : String) : Except TransportError Json :=
  match Envelope.ofText body with
  | .ok e => e.outcome
  | .error e =>
    if isSuccess status then
      match e with
      | .serialization m => .error (.serialization (m ++ " (body: " ++ body ++ ")"))
      | e => .error e
    else .error (.http ("HTTP error: " ++ statusText status))

/-- What a request to an address comes to. -/
def Reply.outcome (limit : Option Decimal.Duration) (url : Url) :
    Reply → Except TransportError Json
  | unreachable => .error (.http ("error sending request for url (" ++ url.text ++ ")"))
  | late => .error (.timeout (limit.getD default))
  | response status body => Http.outcome status body
  | cutOff _ why => .error (.serialization why)

/-! ### Wires -/

/-- What carries requests. -/
class Wire (ω : Type) where
  exchange : Request → ω → Reply × ω

/-- The net that a wire makes. -/
structure Over (ω : Type) where
  wire : ω
deriving DecidableEq, Repr, Inhabited

instance {ω : Type} [Wire ω] : Net (Over ω) where
  opening c net :=
    match headers? c.options.headers with
    | .ok _ => (.ok (), net)
    | .error e => (.error (.other e.message), net)
  answer c method params net :=
    match Url.parse? c.address with
    | none => (.error (.http "builder error"), net)
    | some url =>
      let headers := (headers? c.options.headers).toOption.getD []
      let (reply, wire) := Wire.exchange (request url headers method params) net.wire
      (reply.outcome c.options.timeout url, ⟨wire⟩)

/-- A wire that leads nowhere. -/
structure Offline where
deriving DecidableEq, Repr, Inhabited

instance : Wire Offline := ⟨fun _ w => (.unreachable, w)⟩

end HostedNode.Http

import HostedNode.Config
import HostedNode.Key.Signer
import HostedNode.World

/-! # The scheduler of the provider

The scheduler registers new nodes, hands out the credentials of nodes that exist, and says where a
node can be reached. Registering and recovering take two calls: the first asks for a challenge, the
second sends the challenge back, signed with the key of the node. -/

namespace HostedNode

open Json Rpc Text

/-- What a challenge is asked for. -/
inductive ChallengeScope where
  | register
  | recover
deriving DecidableEq, Repr

/-- The name of a scope; the second call has the same name. -/
def ChallengeScope.name : ChallengeScope → String
  | register => "register"
  | recover => "recover"

/-! ### Answers -/

/-- The challenge in an answer. -/
def challengeAnswer : Decoder String :=
  RecordReader.decoder "ChallengeResponse" (.required "challenge" decoder)

/-- The credentials in an answer. -/
def credentialsAnswer : Decoder DeviceCredentials :=
  RecordReader.decoder "CredentialsResponse"
    ((fun cert key => ⟨Utf8.encode key, Utf8.encode cert⟩) <$> .required "device_cert" .string
      <*> .required "device_key" .string)

/-- The address of a node in an answer. -/
def scheduleAnswer : Decoder String :=
  RecordReader.decoder "ScheduleResponse" (.required "node_uri" decoder)

/-! ### The scheduler -/

/-- A scheduler, for nodes on one network. -/
structure Scheduler where
  connection : Connection
  network : Network
deriving DecidableEq, Repr, Inhabited

namespace Scheduler

variable {σ κ : Type} [Net σ]

/-- Makes a call and reads the answer. -/
def ask {α : Type} (s : Scheduler) (method : String) (params : Json) (answer : Decoder α) :
    Act σ κ NodeError α := do
  let v ← Act.mapError .ofTransport (Act.call s.connection method [params])
  Act.ofExcept ((decode answer v).mapError fun e => .invalidResponse e.message)

/-- Asks for a challenge. -/
def challenge (s : Scheduler) (nodeId : String) (scope : ChallengeScope) :
    Act σ κ NodeError Bytes := do
  let c ← s.ask "get_challenge"
    (Json.object [("node_id", .str nodeId), ("scope", .str scope.name)]) challengeAnswer
  Act.ofExcept
    ((Hex.decode c).mapError fun e => .invalidResponse ("challenge is not hex: " ++ e.message))

/-- What proves that a node is one's own. -/
def proof (s : Scheduler) (signer : Signer) (challenge : Bytes) : List (String × Json) :=
  [("node_id", .str signer.nodeId), ("network", .str s.network.name),
    ("challenge", .str (Hex.encode challenge)),
    ("signature", .str (signer.signChallenge challenge))]

/-- What entitles to a new node. -/
def entitlement (r : Registration) : List (String × Json) :=
  let code := match r.inviteCode with
    | some c => [("invite_code", Json.str c)]
    | none => []
  let partner := match r.partner with
    | some p =>
      [("partner_cert", Json.str (Utf8.decodeLossy p.cert)),
        ("partner_key", Json.str (Utf8.decodeLossy p.key))]
    | none => []
  code ++ partner

/-- Why a registration cannot be sent, if it cannot: it takes either a partner or an invite code. -/
def registrationFault? (r : Registration) : Option NodeError :=
  match r.partner, r.inviteCode with
  | none, none =>
    some (.credentials "registering a new node requires partner credentials or an invite code")
  | some _, some _ =>
    some (.credentials "cannot specify both invite code and partner credentials")
  | _, _ => none

/-- Asks for a challenge and sends it back signed, with further fields. -/
def exchange (s : Scheduler) (signer : Signer) (scope : ChallengeScope) (doing : String)
    (more : List (String × Json)) : Act σ κ NodeError DeviceCredentials := do
  let c ← s.challenge signer.nodeId scope
  Act.log .info (doing ++ " node " ++ signer.nodeId ++ " on " ++ s.network.name)
  s.ask scope.name (Json.object (s.proof signer c ++ more)) credentialsAnswer

/-- Registers a new node. -/
def register (s : Scheduler) (signer : Signer) (r : Registration) :
    Act σ κ NodeError DeviceCredentials :=
  match registrationFault? r with
  | some e => throw e
  | none => s.exchange signer .register "registering" (entitlement r)

/-- Recovers the credentials of a node. -/
def recover (s : Scheduler) (signer : Signer) : Act σ κ NodeError DeviceCredentials :=
  s.exchange signer .recover "recovering" []

/-- Asks where a node can be reached. -/
def schedule (s : Scheduler) (nodeId : String) : Act σ κ NodeError String := do
  let uri ← s.ask "schedule" (Json.object [("node_id", .str nodeId)]) scheduleAnswer
  if uri.isEmpty then throw (.invalidResponse "scheduler returned an empty node uri")
  else
    Act.log .debug ("node " ++ nodeId ++ " scheduled at " ++ uri)
    return uri

end Scheduler

end HostedNode

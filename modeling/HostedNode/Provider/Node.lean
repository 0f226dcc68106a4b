import HostedNode.Provider.Command
import HostedNode.Provider.CredentialStore
import HostedNode.Provider.Report
import HostedNode.Provider.Scheduler

/-! # A hosted node

A node that the provider hosts. `Node.connect` finds the credentials for it: first those that are
kept, which must have been issued for the same seed, then those that the scheduler has, and if it
can be reached and has none, those of a new node. `Node.start` asks the scheduler where the node is
and opens a connection to it; `Node.pull` and `Node.command` work over the connection of the last
start. Signing needs no connection. -/

namespace HostedNode

open Json Rpc Text

/-- A node that the provider hosts. -/
structure Node where
  config : Config
  signer : Signer
  credentials : DeviceCredentials
  scheduler : Scheduler
  /-- The connection to the node, if it was started. -/
  link : Option Connection
deriving DecidableEq, Repr, Inhabited

namespace Node

variable {σ κ : Type}

/-! ### Connecting -/

/-- The connection to the scheduler. -/
def schedulerConnection (c : Config) : Connection :=
  let options := Options.withTimeout (.ofSeconds c.requestTimeoutSec.toNat)
  ⟨c.schedulerUrl,
    match c.apiKey with
    | some key => options.header "x-api-key" key
    | none => options⟩

/-- The credentials from the scheduler: those of the node, or those of a new node if the scheduler
answers that there is none. -/
def issued [Net σ] (s : Scheduler) (signer : Signer) (r : Registration) :
    Act σ κ NodeError DeviceCredentials := do
  Act.log .info
    ("No credentials found, trying to recover existing node from " ++ s.connection.address)
  match ← Act.attempt (s.recover signer) with
  | .ok c => return c
  | .error (.connectivity m) => throw (.connectivity m)
  | .error e =>
    Act.log .info ("Failed to recover node (" ++ e.message ++ "), registering new one")
    s.register signer r

/-- The credentials that are kept, if they are for this seed, or else those from the scheduler. -/
def resolve [Net σ] (s : Scheduler) (signer : Signer) (r : Registration) :
    Option StoredCredentials → Act σ κ NodeError DeviceCredentials
  | some kept =>
    if kept.seedFingerprint = signer.seedFingerprint then do
      Act.log .info "Initializing greenlight from existing credentials"
      return kept.credentials
    else
      throw (.credentials
        "stored credentials belong to another seed, seed doesn't match existing node")
  | none => issued s signer r

/-- The credentials that are kept. -/
def keptCredentials [CredentialStore κ] : Act σ κ NodeError (Option StoredCredentials) := do
  Act.ofExcept (CredentialStore.get (← get).store)

/-- Keeps credentials. -/
def keepCredentials [CredentialStore κ] (c : StoredCredentials) : Act σ κ NodeError Unit :=
  Act.onStore (CredentialStore.set c)

/-- Connects to the node of a seed. -/
def connect [Net σ] [CredentialStore κ] (config : Config) (seed : Bytes) :
    Act σ κ NodeError Node := do
  let signer ← Act.ofExcept (Signer.ofSeed seed)
  let connection := schedulerConnection config
  Act.mapError .ofTransport (Act.openConnection connection)
  let scheduler : Scheduler := ⟨connection, config.network⟩
  let kept ← keptCredentials
  let credentials ← resolve scheduler signer config.nodeConfig.registration kept
  keepCredentials ⟨credentials, signer.seedFingerprint⟩
  return ⟨config, signer, credentials, scheduler, none⟩

/-! ### Starting -/

/-- The settings of the connection to the node. -/
def linkOptions (n : Node) : Options :=
  ((Options.withTimeout (.ofSeconds n.config.requestTimeoutSec.toNat)).header "x-device-cert"
    (Hex.encode n.credentials.cert)).header "x-device-key" (Hex.encode n.credentials.key)

/-- Has the node started and opens a connection to it. -/
def start [Net σ] (n : Node) : Act σ κ NodeError Node := do
  let uri ← n.scheduler.schedule n.signer.nodeId
  let link : Connection := ⟨uri, n.linkOptions⟩
  Act.mapError .ofTransport (Act.openConnection link)
  Act.log .info ("node " ++ n.signer.nodeId ++ " started at " ++ uri)
  return { n with link := some link }

/-- The connection to the node. -/
def started (n : Node) : Except NodeError Connection :=
  match n.link with
  | some c => .ok c
  | none => .error (.connectivity "node is not started, call start() first")

/-! ### Asking the node -/

/-- Asks the node and reads the answer; a failure is given as one. -/
def ask {α : Type} [Net σ] (c : Connection) (method : String) (answer : Decoder α) :
    Act σ κ NodeError (Except NodeError α) :=
  Act.attempt do
    let v ← Act.mapError .ofTransport (Act.call c method [])
    Act.ofExcept
      ((decode answer v).mapError fun e => .invalidResponse (method ++ ": " ++ e.message))

/-- The state that four answers make, or the first failure among them. The node must be the right
one. -/
def stateOf (n : Node) (info : Except NodeError NodeInfo) (outputs : Except NodeError (List Output))
    (peers : Except NodeError (List Peer)) (channels : Except NodeError (List Channel)) :
    Except NodeError NodeState := do
  let info ← info
  if info.id ≠ n.signer.nodeId then
    throw (.credentials
      ("scheduled node reports id " ++ info.id ++ ", expected " ++ n.signer.nodeId))
  return .ofReport info (← outputs) (← peers) (← channels)

/-- Asks the node for its state. -/
def pull [Net σ] (n : Node) : Act σ κ NodeError NodeState := do
  let c ← Act.ofExcept n.started
  Act.log .debug ("pulling node state from " ++ c.address)
  let info ← ask c "getinfo" NodeInfo.answer
  let outputs ← ask c "listfunds" Output.listAnswer
  let peers ← ask c "listpeers" Peer.listAnswer
  let channels ← ask c "listpeerchannels" Channel.listAnswer
  Act.ofExcept (n.stateOf info outputs peers channels)

/-- Puts a question of the user to the node and gives its answer as it is. -/
def command [Net σ] (n : Node) (text : String) : Act σ κ NodeError String := do
  let command ← Act.ofExcept ((NodeCommand.parse text).mapError fun e => .generic e.message)
  let c ← Act.ofExcept n.started
  Act.log .debug ("executing " ++ command.method ++ " on " ++ c.address)
  let v ← Act.mapError .ofTransport (Act.call c command.method [])
  return v.pretty

/-! ### Messages -/

/-- Signs a message. -/
def signMessage (n : Node) (message : String) : String :=
  n.signer.signMessage (Utf8.encode message)

/-- Whether a signature of a message was made by the owner of a public key. -/
def checkMessage (message key signature : String) : Except NodeError Bool :=
  match Curve.Point.ofHex? key with
  | some p => .ok (verifyMessage (Utf8.encode message) signature p)
  | none => .error (.generic ("invalid public key " ++ key ++ ": malformed public key"))

end Node

end HostedNode

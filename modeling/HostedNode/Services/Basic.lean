import HostedNode.Message
import HostedNode.Services.Backend
import HostedNode.Services.Dispatcher
import HostedNode.Storage

/-! # The services of a node

The services of a node join the node with its storage: a `sync` asks the node for its state, keeps
it, and raises the events that tell what has changed, to a listener that is there. `build` goes from
a seed to services whose first sync is done, or fails at the first stage that fails. After
`disconnect` nothing is asked of the node any more, apart from signing. -/

namespace HostedNode

open Rpc

/-- The services of a node. -/
structure Services (β : Type) where
  node : β
  storage : Storage
  connected : Bool
deriving Repr, Inhabited

namespace Services

variable {σ β : Type} [Backend σ β]

/-! ### Syncing -/

/-- The events that tell how a state has come after another one, or after none. -/
def eventsOf (previous : Option NodeState) (state : NodeState) : List NodeEvent :=
  let block := match previous with
    | some p => if p.blockHeight < state.blockHeight then [.newBlock state.blockHeight] else []
    | none => [.newBlock state.blockHeight]
  let changed := if previous = some state then [] else [.nodeStateChanged state]
  block ++ changed ++ [.synced]

/-- Fails if the services are disconnected. -/
def ensureConnected (s : Services β) : Except ServiceError Unit :=
  if s.connected then .ok () else .error .notConnected

/-- Asks the node for its state, keeps it, and raises events. -/
def sync (s : Services β) : Act σ Disk ServiceError (Services β) := do
  Act.ofExcept s.ensureConnected
  let previous := s.storage.data.nodeState
  let state ← Act.mapError .node (Backend.pull s.node)
  let storage ← s.storage.setNodeState state
  Act.raiseAll (eventsOf previous state)
  Act.log .debug
    ("synced node " ++ state.id ++ " at height " ++ toString state.blockHeight.toNat)
  return { s with storage }

/-! ### Asking -/

/-- The last known state. -/
def nodeInfo (s : Services β) : Except ServiceError NodeState :=
  match s.storage.data.nodeState with
  | some state => .ok state
  | none => .error .notSynced

/-- Signs a message. -/
def signMessage (s : Services β) (r : SignMessageRequest) :
    Act σ Disk ServiceError SignMessageResponse := do
  return ⟨← Act.mapError .node (Backend.sign s.node r.message)⟩

/-- Checks a signature. -/
def checkMessage (s : Services β) (r : CheckMessageRequest) :
    Act σ Disk ServiceError CheckMessageResponse := do
  return ⟨← Act.mapError .node (Backend.check s.node r.message r.pubkey r.signature)⟩

/-- Puts a question of the user to the node. -/
def command (s : Services β) (text : String) : Act σ Disk ServiceError String := do
  Act.ofExcept s.ensureConnected
  Act.mapError .node (Backend.command s.node text)

/-- Disconnects, once. -/
def disconnect (s : Services β) : Act σ Disk ServiceError (Services β) := do
  Act.ofExcept s.ensureConnected
  Act.log .info ("disconnected from node " ++ Backend.nodeId σ s.node)
  return { s with connected := false }

/-! ### Building -/

/-- The storage in the working directory, which is made if it is not there. -/
def openStorage (workingDir : String) : Act σ Disk ServiceError Storage := do
  Act.mapError Storage.diskFault (Act.onStore (Disk.makeDirectories workingDir))
  Storage.openIn workingDir

/-- The services of a seed: over a storage that is given or else opened, with the node that `obtain`
gives. Between the start and the first sync the listener gets a thread of its own; that there is
always one to be had is taken for granted, so this is no stage that can fail. -/
def build (obtain : Act σ Workspace NodeError β) (config : Config) (seed : Bytes)
    (given : Option Storage) : Act σ Disk ServiceError (Services β) := do
  if seed.length < minSeedLength then throw (.invalidSeed seed.length)
  let storage ← match given with
    | some s => pure s
    | none => openStorage config.workingDir
  let (node, storage) ← Workspace.within storage (Act.mapError .node obtain)
  Act.log .info ("starting node " ++ Backend.nodeId σ node)
  let node ← Act.mapError .node (Backend.start node)
  let services ← sync ⟨node, storage, true⟩
  Act.log .info ("connected to node " ++ Backend.nodeId σ node)
  return services

/-- Connects to the hosted node of a seed. -/
def connect [Net σ] (config : Config) (seed : Bytes) : Act σ Disk ServiceError (Services Node) :=
  build (Node.connect config seed) config seed none

end Services

end HostedNode

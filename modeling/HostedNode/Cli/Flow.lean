import HostedNode.Cli.Failure
import HostedNode.Config
import HostedNode.Log.Level
import HostedNode.NodeState

/-! # Connecting on behalf of a user

The steps from a phrase to services and the state of their node: set the log stream, derive the
seed, connect, and ask for the state. The first step that fails ends it, and the failure says which
one that was. What the steps do is up to a `Facade`. -/

namespace HostedNode.Cli

/-- What a flow is built on: a state `ω` and services of type `β`. -/
structure Facade (ω β : Type) where
  setLogStream : Log.Level → EStateM ServiceError ω Unit
  seedOf : String → EStateM ServiceError ω Bytes
  connect : ConnectRequest → EStateM ServiceError ω β
  nodeInfo : β → EStateM ServiceError ω NodeState

/-- What a flow has to know. -/
structure FlowSettings where
  environment : Environment
  /-- The key sent to the scheduler; an empty one counts as none. -/
  apiKey : String
  nodeConfig : NodeConfig
  workingDir : String
  filter : Log.Level
deriving DecidableEq, Repr, Inhabited

namespace FlowSettings

/-- The configuration of the services. -/
def config (s : FlowSettings) : Config :=
  { Config.default s.environment s.apiKey s.nodeConfig with workingDir := s.workingDir }

end FlowSettings

/-- A step that says what it was doing when it fails. -/
def during {ω α : Type} (doing : String) (step : EStateM ServiceError ω α) :
    EStateM Failure ω α := fun w =>
  match step w with
  | .ok a w => .ok a w
  | .error e w => .error (.ofServicesIn doing e) w

/-- The services of a phrase and the state of their node. -/
def connectWith {ω β : Type} (facade : Facade ω β) (phrase : String) (s : FlowSettings) :
    EStateM Failure ω (β × NodeState) := do
  during "failed to set log stream" (facade.setLogStream s.filter)
  let seed ← during "failed to derive seed" (facade.seedOf phrase)
  let services ← during "failed to connect" (facade.connect ⟨s.config, seed⟩)
  let state ← during "failed to get node info" (facade.nodeInfo services)
  return (services, state)

end HostedNode.Cli

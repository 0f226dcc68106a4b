import HostedNode.Phrase.Encoding
import HostedNode.Provider.Error

/-! # Why the services failed

The failures of the services, with their wordings. -/

namespace HostedNode

/-- Why the services failed. -/
inductive ServiceError where
  | invalidMnemonic (cause : Phrase.Error)
  | invalidSeed (length : Nat)
  | node (cause : NodeError)
  | persistence (message : String)
  | logStream
  /-- What was asked for is not there yet. -/
  | notReady (message : String)
  | notConnected
  | generic (message : String)
deriving DecidableEq, Repr

namespace ServiceError

/-- What is said when there is a log stream already. -/
def streamText : String := "log stream already created"

/-- The wording of an error. -/
def message : ServiceError → String
  | invalidMnemonic e => "Invalid mnemonic: " ++ e.message
  | invalidSeed n => "Invalid seed: seed must be at least 32 bytes, got " ++ toString n
  | node e => "Node error: " ++ e.message
  | persistence m => "Persistence: " ++ m
  | logStream => "Log stream: " ++ streamText
  | notReady m => "Not ready: " ++ m
  | notConnected => "Services are not connected"
  | generic m => "Generic: " ++ m

/-- There is no state of the node yet. -/
def notSynced : ServiceError := notReady "node state has not been synced yet"

end ServiceError

end HostedNode

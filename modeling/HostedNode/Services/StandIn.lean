import HostedNode.Rpc.Script
import HostedNode.Services.Backend

/-! # A node that stands in for a hosted one

A `StandIn` answers from a script. It notes what it was asked in the journal. -/

namespace HostedNode

open Json Rpc

/-- A node that stands in for a hosted one. -/
structure StandIn where
  nodeId : String
deriving DecidableEq, Repr, Inhabited

namespace StandIn

/-- The answers of a stand-in. -/
abbrev Answers := ScriptOf (Except NodeError Json)

/-- The name under which the answers are listed. -/
def address : String := "$node"

variable {κ : Type}

/-- Takes the next answer to a question. -/
def answer (question : String) (args : List String) : Act Answers κ NodeError Json := fun w =>
  match w.net.take address question with
  | (some (.ok v), net) => .ok v (World.note { w with net } (.asked question args))
  | (some (.error e), net) => .error e (World.note { w with net } (.asked question args))
  | (none, net) =>
    .error (.generic ("unscripted " ++ question)) (World.note { w with net } (.asked question args))

/-- Takes the next answer to a question and reads it. -/
def answerAs (α : Type) [Coded α] (question : String) (args : List String) :
    Act Answers κ NodeError α := do
  let v ← answer question args
  Act.ofExcept ((decodeAs α v).mapError fun e => .invalidResponse e.message)

instance : Backend Answers StandIn where
  nodeId n := n.nodeId
  start n := do
    let _ ← answer "start" []
    return n
  pull _ := answerAs NodeState "pull" []
  sign _ message := answerAs String "sign" [message]
  check _ message key signature := answerAs Bool "check" [message, key, signature]
  command _ text := answerAs String "exec" [text]

end StandIn

end HostedNode

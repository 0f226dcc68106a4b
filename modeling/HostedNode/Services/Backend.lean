import HostedNode.Provider.Node

/-! # Nodes that services work with

A `Backend` is a node that the services can start, ask for its state and have sign messages: a
hosted node, or one that stands in for it. -/

namespace HostedNode

open Rpc

/-- Nodes that services work with, over the connections `σ`. -/
class Backend (σ β : Type) where
  nodeId : β → String
  start : {κ : Type} → β → Act σ κ NodeError β
  pull : {κ : Type} → β → Act σ κ NodeError NodeState
  sign : {κ : Type} → β → String → Act σ κ NodeError String
  check : {κ : Type} → β → String → String → String → Act σ κ NodeError Bool
  command : {κ : Type} → β → String → Act σ κ NodeError String

instance {σ : Type} [Net σ] : Backend σ Node where
  nodeId n := n.signer.nodeId
  start n := n.start
  pull n := n.pull
  sign n message := pure (n.signMessage message)
  check _ message key signature := Act.ofExcept (Node.checkMessage message key signature)
  command n text := n.command text

end HostedNode

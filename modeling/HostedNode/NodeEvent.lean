import HostedNode.NodeState

/-! # Events

What the services tell a listener about a node. -/

namespace HostedNode

open Json Text

/-- What happened to a node. -/
inductive NodeEvent where
  | newBlock (block : UInt32)
  | nodeStateChanged (state : NodeState)
  | synced
deriving DecidableEq, Repr, Inhabited

namespace NodeEvent

/-- The kinds of events. -/
def variants : List (Variant NodeEvent) :=
  [⟨"newBlock", "NewBlock", newBlock <$> .required "block" decoder⟩,
    ⟨"nodeStateChanged", "NodeStateChanged", nodeStateChanged <$> .required "node_state" decoder⟩,
    ⟨"synced", "Synced", .pure synced⟩]

instance : Coded NodeEvent where
  toJson
    | newBlock b => .obj [(tagName, .str "newBlock"), entry "block" b]
    | nodeStateChanged s => .obj [(tagName, .str "nodeStateChanged"), entry "node_state" s]
    | synced => .obj [(tagName, .str "synced")]
  decoder := .tagged "BreezEvent" variants

instance : Shown NodeEvent :=
  ⟨fun
    | newBlock b => shownRecord "NewBlock" [("block", shown b)]
    | nodeStateChanged s => shownRecord "NodeStateChanged" [("node_state", shown s)]
    | synced => shownRecord "Synced" []⟩

end NodeEvent

end HostedNode

import HostedNode.World

/-! # Events on their way to a listener

Events are raised into a queue, and delivered to a listener from its other end, one by one. A
listener can break down: then it is gone, and receives nothing more. -/

namespace HostedNode

open Text

/-- Raises an event, to a listener that may be gone. -/
def Act.raise {σ κ ε : Type} (gone : Bool) (e : NodeEvent) : Act σ κ ε Unit := do
  Act.log .debug ("raising event " ++ shown e)
  Act.note (.raised e)
  if gone then Act.log .warn "event listener is gone, dropping event"

/-- Raises events, one after the other, to a listener that is there. -/
def Act.raiseAll {σ κ ε : Type} : List NodeEvent → Act σ κ ε Unit
  | [] => pure ()
  | e :: es => do
    Act.raise false e
    Act.raiseAll es

/-- Events on their way to a listener. -/
structure Dispatcher where
  /-- Events that were raised and not delivered yet, oldest first. -/
  queued : List NodeEvent
  /-- Events that the listener has received, oldest first. -/
  received : List NodeEvent
  /-- How many more events the listener receives before it breaks down, if it will. -/
  patience : Option Nat
  broken : Bool
deriving DecidableEq, Repr, Inhabited

namespace Dispatcher

/-- Nothing raised yet. -/
def ofPatience (patience : Option Nat) : Dispatcher := ⟨[], [], patience, false⟩

/-- One more event is raised. It is dropped if the listener is gone. -/
def raise (d : Dispatcher) (e : NodeEvent) : Dispatcher :=
  if d.broken then d else { d with queued := d.queued ++ [e] }

/-- The oldest event is delivered. -/
def deliver (d : Dispatcher) : Dispatcher :=
  match d.queued with
  | [] => d
  | e :: rest =>
    if d.broken then { d with queued := rest }
    else match d.patience with
      | some 0 => { d with queued := rest, broken := true }
      | some (n + 1) =>
        { d with queued := rest, received := d.received ++ [e], patience := some n }
      | none => { d with queued := rest, received := d.received ++ [e] }

/-- All events are delivered, `n` at most. -/
def deliverAll : Nat → Dispatcher → Dispatcher
  | 0, d => d
  | n + 1, d => deliverAll n d.deliver

/-- No more events are raised; those in the queue are delivered. -/
def close (d : Dispatcher) : Dispatcher := d.deliverAll d.queued.length

end Dispatcher

/-- Raises events to a listener and waits until it has received them. -/
def Act.deliver {σ κ ε : Type} (d : Dispatcher) (events : List NodeEvent) :
    Act σ κ ε Dispatcher := do
  Act.raiseAll events
  let d := (events.foldl Dispatcher.raise d).close
  if d.broken then Act.log .error "event listener panicked"
  return d

end HostedNode

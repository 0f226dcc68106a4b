import HostedNode.Services.Basic

/-! # Syncs at the same time

Services are synced by their user and in the background, and these calls run at the same time. A
call of `sync` is a row of steps: the check that the services are connected, the lock, a look at the
last known state, the question to the node, the storage, the events one by one, and the return of
the lock. Only one call at a time holds the lock; all else may come between the steps of a call:
steps of other calls, a disconnect, and the delivery of events to the listener. -/

namespace HostedNode

open Act Rpc

/-- Where a call of `sync` stands. -/
inductive Phase where
  | called
  /-- The services were connected; the lock is asked for. -/
  | waiting
  | holding
  | informed (previous : Option NodeState)
  | pulled (previous : Option NodeState) (state : NodeState)
  /-- The state is kept; these events are still to be raised. -/
  | raising (state : NodeState) (events : List NodeEvent)
  | leaving (result : Except ServiceError Unit)
  | finished (result : Except ServiceError Unit)

/-- Services that are called at the same time. -/
structure Concurrent (σ β : Type) where
  services : Services β
  world : World σ Disk
  dispatcher : Dispatcher
  /-- The calls of `sync`, by their numbers. -/
  calls : Nat → Phase
  /-- The call that holds the lock. -/
  holder : Option Nat
  /-- The calls that have had the lock, in the order in which they got it. -/
  acquired : List Nat

/-- What happens next. -/
inductive Move where
  /-- A call takes its next step, if the lock does not keep it from doing so. -/
  | sync (call : Nat)
  | disconnect
  | deliver

namespace Concurrent

variable {σ β : Type}

/-- Nothing called yet. -/
def start (services : Services β) (world : World σ Disk) (patience : Option Nat) :
    Concurrent σ β :=
  ⟨services, world, .ofPatience patience, fun _ => .called, none, []⟩

/-- A call has come to another phase. -/
def setPhase (c : Concurrent σ β) (call : Nat) (phase : Phase) : Concurrent σ β :=
  { c with calls := fun j => if j = call then phase else c.calls j }

/-- A call does something with the world and goes on with what it has got; if that fails, it has
nothing left to do but leave. -/
def perform {α : Type} (c : Concurrent σ β) (call : Nat) (act : Act σ Disk ServiceError α)
    (next : α → Concurrent σ β → Concurrent σ β) : Concurrent σ β :=
  match act c.world with
  | .ok a world => next a { c with world }
  | .error e world => { c with world }.setPhase call (.leaving (.error e))

variable [Backend σ β]

/-- The next step of a call. -/
def advance (c : Concurrent σ β) (i : Nat) : Concurrent σ β :=
  match c.calls i with
  | .called =>
    match c.services.ensureConnected with
    | .ok () => c.setPhase i .waiting
    | .error e => c.setPhase i (.finished (.error e))
  | .waiting =>
    match c.holder with
    | none => { c.setPhase i .holding with holder := some i, acquired := c.acquired ++ [i] }
    | some _ => c
  | .holding => c.setPhase i (.informed c.services.storage.data.nodeState)
  | .informed previous =>
    c.perform i (mapError .node (Backend.pull c.services.node)) fun state c =>
      c.setPhase i (.pulled previous state)
  | .pulled previous state =>
    c.perform i (c.services.storage.setNodeState state) fun storage c =>
      { c with services := { c.services with storage } }.setPhase i
        (.raising state (Services.eventsOf previous state))
  | .raising state (e :: es) =>
    c.perform i (raise c.dispatcher.broken e) fun _ c =>
      { c with dispatcher := c.dispatcher.raise e }.setPhase i (.raising state es)
  | .raising state [] =>
    c.perform i
      (log .debug ("synced node " ++ state.id ++ " at height " ++ toString state.blockHeight.toNat))
      fun _ c => c.setPhase i (.leaving (.ok ()))
  | .leaving result => { c.setPhase i (.finished result) with holder := none }
  | .finished _ => c

/-- One move. -/
def step (c : Concurrent σ β) : Move → Concurrent σ β
  | .sync i => c.advance i
  | .disconnect =>
    match (c.services.disconnect : Act σ Disk ServiceError (Services β)) c.world with
    | .ok services world => { c with services, world }
    | .error _ world => { c with world }
  | .deliver => { c with dispatcher := c.dispatcher.deliver }

/-- One move after the other. -/
def run (c : Concurrent σ β) (moves : List Move) : Concurrent σ β := moves.foldl step c

end Concurrent

end HostedNode

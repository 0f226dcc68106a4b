import HostedNode.Log.Entry
import HostedNode.NodeEvent
import HostedNode.Rpc.Connection

/-! # What runs act on

A run acts on a `World`: the other end of its connections, a store of its own, and a journal of what
happened, oldest first. Calls, log lines and events stand in one journal, so that it tells their
order; `logs`, `events` and `traffic` are views of it. An `Act` is a step of a run: what it did
before it failed stays done. -/

namespace HostedNode

open Rpc

/-- Something that happened in a run. -/
inductive Happening where
  | opened (connection : Connection)
  | called (connection : Connection) (method : String) (params : List Json)
  /-- A stand-in for a node was asked something. -/
  | asked (question : String) (args : List String)
  | logged (entry : LogEntry)
  | raised (event : NodeEvent)
deriving DecidableEq, Repr

/-- The entry of a line that was logged. -/
def Happening.entry? : Happening → Option LogEntry
  | .logged e => some e
  | _ => none

/-- The event that was raised. -/
def Happening.event? : Happening → Option NodeEvent
  | .raised e => some e
  | _ => none

/-- Whether something went over a connection or to a stand-in. -/
def Happening.isTraffic : Happening → Bool
  | .opened _ => true
  | .called _ _ _ => true
  | .asked _ _ => true
  | _ => false

/-- What runs act on. -/
structure World (σ κ : Type) where
  net : σ
  store : κ
  /-- What happened, oldest first. -/
  journal : List Happening := []

namespace World

variable {σ κ : Type}

/-- The lines logged. -/
def logs (w : World σ κ) : List LogEntry := w.journal.filterMap Happening.entry?

/-- The events raised. -/
def events (w : World σ κ) : List NodeEvent := w.journal.filterMap Happening.event?

/-- The calls made. -/
def traffic (w : World σ κ) : List Happening := w.journal.filter Happening.isTraffic

/-- The world with one more thing happened. -/
def note (w : World σ κ) (h : Happening) : World σ κ := { w with journal := w.journal ++ [h] }

end World

/-- A step of a run: it gives a value or fails, and leaves a world. -/
abbrev Act (σ κ ε α : Type) := EStateM ε (World σ κ) α

namespace Act

variable {σ κ ε α : Type}

/-- Notes that something happened. -/
def note (h : Happening) : Act σ κ ε Unit := modify (·.note h)

/-- Logs a line. -/
def log (severity : Log.Severity) (line : String) : Act σ κ ε Unit :=
  note (.logged (.of severity line))

/-- Fails, or gives what it was given. -/
def ofExcept : Except ε α → Act σ κ ε α
  | .ok a => pure a
  | .error e => throw e

/-- A step whose errors are turned into errors of another type. -/
def mapError {ε' : Type} (f : ε → ε') (act : Act σ κ ε α) : Act σ κ ε' α := fun w =>
  match act w with
  | .ok a w => .ok a w
  | .error e w => .error (f e) w

/-- A step that does not fail: it gives the error instead. -/
def attempt {ε' : Type} (act : Act σ κ ε α) : Act σ κ ε' (Except ε α) := fun w =>
  match act w with
  | .ok a w => .ok (.ok a) w
  | .error e w => .ok (.error e) w

/-- Does something with the store. -/
def onStore (f : EStateM ε κ α) : Act σ κ ε α := fun w =>
  match f w.store with
  | .ok a store => .ok a { w with store }
  | .error e store => .error e { w with store }

/-- Opens a connection. -/
def openConnection [Net σ] (c : Connection) : Act σ κ TransportError Unit := fun w =>
  match Net.opening c w.net with
  | (.ok (), net) => .ok () (World.note { w with net } (.opened c))
  | (.error e, net) => .error e (World.note { w with net } (.opened c))

/-- Makes a call. -/
def call [Net σ] (c : Connection) (method : String) (params : List Json) :
    Act σ κ TransportError Json := fun w =>
  match Net.answer c method params w.net with
  | (.ok v, net) => .ok v (World.note { w with net } (.called c method params))
  | (.error e, net) => .error e (World.note { w with net } (.called c method params))

end Act

end HostedNode

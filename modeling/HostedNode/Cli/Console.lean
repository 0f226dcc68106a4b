import HostedNode.World

/-! # The console

What a user sees of a run: a line for every log entry, except for those of the least severity, and
a line for every event. Listeners write the lines to sinks; copies of a listener have one sink, so
that the log and the events can go to the same one. -/

namespace HostedNode.Cli

open Text

/-- Something that goes to the console. -/
inductive Notice where
  | entry (e : LogEntry)
  | event (e : NodeEvent)
deriving DecidableEq, Repr

namespace Notice

/-- The severity whose entries are not shown. -/
def hiddenSeverity : Log.Severity := .trace

/-- The line that a notice is shown as, if it is shown. -/
def line? : Notice → Option String
  | entry e =>
    if e.level = hiddenSeverity.name then none else some ("[" ++ e.level ++ "] " ++ e.line)
  | event e => some ("received event " ++ shown e)

/-- The text of a sink behind a notice. -/
def writeTo (sink : String) (n : Notice) : String :=
  match n.line? with
  | some line => sink ++ line ++ "\n"
  | none => sink

/-- What goes to the console when something happens, if the log goes there behind a filter. -/
def ofHappening? (filter : Log.Level) : Happening → Option Notice
  | .logged e => if filter.allows e.level then some (entry e) else none
  | .raised e => some (event e)
  | _ => none

end Notice

/-- The text of notices, in their order. -/
def consoleText (ns : List Notice) : String := ns.foldl Notice.writeTo ""

/-- What the console shows of a journal. -/
def consoleOf (filter : Log.Level) (journal : List Happening) : String :=
  consoleText (journal.filterMap (Notice.ofHappening? filter))

/-! ### Listeners -/

/-- The texts of all sinks. -/
abbrev Sinks := List String

/-- A listener writes to a sink. -/
structure Listener where
  /-- The place of the sink among all sinks. -/
  sink : Nat
deriving DecidableEq, Repr

namespace Listener

/-- A listener with a sink of its own, besides the sinks that there are. -/
def new (sinks : Sinks) : Listener × Sinks := (⟨sinks.length⟩, sinks ++ [""])

/-- Another listener with the same sink. -/
def copy (l : Listener) : Listener := ⟨l.sink⟩

/-- Writes what a listener is told to its sink. -/
def tell (sinks : Sinks) (l : Listener) (n : Notice) : Sinks :=
  sinks.modify l.sink (Notice.writeTo · n)

/-- Tells listeners one thing after the other. -/
def tellAll (sinks : Sinks) (told : List (Listener × Notice)) : Sinks :=
  told.foldl (fun sinks t => tell sinks t.1 t.2) sinks

end Listener

end HostedNode.Cli

import HostedNode.Log.Event

/-! # Log streams

A filter in front of a listener: of the events that happen, the listener gets the entries that the
filter lets pass. A `Stream` has at most one listener, the first that is installed, and keeps it. -/

namespace HostedNode.Log

/-- What a listener behind a filter gets when an event happens. -/
def Level.entry? (filter : Level) (e : Event) : Option LogEntry :=
  if filter.allows e.severity.name then some e.entry else none

/-- What a listener behind a filter gets of some events. -/
def Level.pass (filter : Level) (events : List Event) : List LogEntry :=
  events.filterMap filter.entry?

/-- A listener of type `ι` behind a filter, once there is one. -/
structure Stream (ι : Type) where
  /-- The listener and its filter. -/
  installed : Option (ι × Level)
deriving Repr, Inhabited

namespace Stream

variable {ι : Type}

/-- No listener yet. -/
def empty : Stream ι := ⟨none⟩

/-- Installs a listener behind a filter, if there is none yet. -/
def install? (s : Stream ι) (listener : ι) (filter : Level) : Option (Stream ι) :=
  match s.installed with
  | none => some ⟨some (listener, filter)⟩
  | some _ => none

/-- Who gets what when an event happens. -/
def emit (s : Stream ι) (e : Event) : Option (ι × LogEntry) :=
  match s.installed with
  | some (listener, filter) => (filter.entry? e).map (listener, ·)
  | none => none

end Stream

end HostedNode.Log

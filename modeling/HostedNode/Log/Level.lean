import HostedNode.Json.Coded
import HostedNode.Name
import HostedNode.Text.Case

/-! # Severities and log levels

A `Severity` says how grave an event is. A `Level` is a filter: it lets the entries of its own
severity and of all graver ones pass, and `off` lets none pass. Entries carry the name of their
severity as a text, so `allows` works on any text; one that is no severity never passes. -/

namespace HostedNode.Log

open Json Text

/-- How much of a log is kept. -/
inductive Level where
  | off
  | error
  | warn
  | info
  | debug
  | trace
deriving DecidableEq, Repr

namespace Level

instance : Inhabited Level := ⟨debug⟩

/-- How much a level lets pass, as a number. -/
def rank : Level → Nat
  | off => 0
  | error => 1
  | warn => 2
  | info => 3
  | debug => 4
  | trace => 5

instance : LE Level := ⟨fun a b => a.rank ≤ b.rank⟩
instance (a b : Level) : Decidable (a ≤ b) := inferInstanceAs (Decidable (a.rank ≤ b.rank))
instance : Ord Level := ⟨fun a b => compare a.rank b.rank⟩

/-- The name of a level. -/
def name : Level → String
  | off => "off"
  | error => "error"
  | warn => "warn"
  | info => "info"
  | debug => "debug"
  | trace => "trace"

/-- All levels with their names. -/
def names : List (String × Level) :=
  [("off", off), ("error", error), ("warn", warn), ("info", info), ("debug", debug),
    ("trace", trace)]

instance : Coded Level := ⟨fun l => .str l.name, Decoder.name names⟩

instance : Shown Level :=
  ⟨fun
    | off => "Off"
    | error => "Error"
    | warn => "Warn"
    | info => "Info"
    | debug => "Debug"
    | trace => "Trace"⟩

end Level

/-! ### Severities -/

/-- How grave an event is. -/
inductive Severity where
  | error
  | warn
  | info
  | debug
  | trace
deriving DecidableEq, Repr, Inhabited

namespace Severity

/-- The name of a severity, as entries carry it. -/
def name : Severity → String
  | error => "ERROR"
  | warn => "WARN"
  | info => "INFO"
  | debug => "DEBUG"
  | trace => "TRACE"

/-- All severities with their names. -/
def names : List (String × Severity) :=
  [error, warn, info, debug, trace].map fun s => (s.name, s)

/-- The least of the levels that let a severity pass. -/
def level : Severity → Level
  | error => .error
  | warn => .warn
  | info => .info
  | debug => .debug
  | trace => .trace

/-- The severity that a text names, in any letter case. -/
def parse? (s : String) : Option Severity := names.lookup (upper s)

end Severity

namespace Level

/-- Whether entries whose severity has this name pass. -/
def allows (filter : Level) (severity : String) : Bool :=
  match Severity.parse? severity with
  | some s => s.level ≤ filter
  | none => false

/-- Reads the name of a level in any letter case. -/
def parse (s : String) : Except NameError Level :=
  if lower s = "off" then .ok off
  else match Severity.parse? s with
    | some v => .ok v.level
    | none => .error (.level s)

end Level

end HostedNode.Log

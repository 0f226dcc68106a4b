import HostedNode.Services.Basic

/-! # Services over time

While services are connected they are synced in the background, at every whole multiple of an
interval after they were built. A `Session` holds at most one set of services and the time; time
passes in `advance` alone. What ends in a step says so at the end of the step. -/

namespace HostedNode

/-- Services with the times of their background syncs. -/
structure Running (β : Type) where
  services : Services β
  /-- When they were built, in milliseconds. -/
  since : Nat
  /-- The time between two syncs, in milliseconds. -/
  interval : Nat
deriving Repr, Inhabited

namespace Running

/-- The time between two syncs of a configuration, at least a second. -/
def intervalOf (c : Config) : Nat := max c.syncIntervalSec.toNat 1 * 1000

/-- How many background syncs are due after one time and not after another. -/
def dueBetween {β : Type} (r : Running β) (now later : Nat) : Nat :=
  (later - r.since) / r.interval - (now - r.since) / r.interval

end Running

/-- At most one set of services, and the time. -/
structure Session (β : Type) where
  running : Option (Running β)
  /-- The time, in milliseconds. -/
  now : Nat
deriving Repr, Inhabited

namespace Session

variable {σ β : Type} {ε α : Type}

/-- A step with the services. -/
abbrev Step (σ ε α : Type) := Act σ Disk ε α

/-- Nothing running yet. -/
def start : Session β := ⟨none, 0⟩

/-- Whether a background sync is waiting for its time. -/
def isWaiting (s : Session β) : Bool :=
  match s.running with
  | some r => r.services.connected
  | none => false

/-- Says that the background syncs have ended, if they have. -/
def noteEnd (ended : Bool) : Step σ ε Unit :=
  if ended then Act.log .debug "background sync stopped" else pure ()

/-- Ends what is running. -/
def drop (s : Session β) : Step σ ε (Session β) := do
  noteEnd s.isWaiting
  return { s with running := none }

/-- Ends what is running and builds services in its place. -/
def connect (s : Session β) (config : Config) (building : Step σ ε (Services β)) :
    Step σ ε (Except ε Unit × Session β) := do
  let result ← Act.attempt building
  noteEnd s.isWaiting
  match result with
  | .ok services =>
    return (.ok (), { s with running := some ⟨services, s.now, Running.intervalOf config⟩ })
  | .error e => return (.error e, { s with running := none })

/-- One background sync. -/
def tick [Backend σ β] (services : Services β) : Step σ ε (Services β) := do
  match ← Act.attempt services.sync with
  | .ok services => return services
  | .error e =>
    Act.log .warn ("background sync failed: " ++ e.message)
    return services

/-- Some background syncs. -/
def ticks [Backend σ β] : Nat → Services β → Step σ ε (Services β)
  | 0, services => pure services
  | n + 1, services => do ticks n (← tick services)

/-- Lets time pass. -/
def advance [Backend σ β] (s : Session β) (milliseconds : Nat) : Step σ ε (Session β) := do
  let later := s.now + milliseconds
  match s.running with
  | none => return { s with now := later }
  | some r =>
    let due := if r.services.connected then r.dueBetween s.now later else 0
    let services ← ticks due r.services
    return ⟨some { r with services }, later⟩

/-- Disconnects, and ends the background syncs. -/
def disconnect [Backend σ β] (s : Session β) (r : Running β) :
    Step σ ServiceError (Session β) := do
  let services ← r.services.disconnect
  noteEnd true
  return { s with running := some { r with services } }

end Session

end HostedNode

import HostedNode.Cli.Run
import HostedNode.Http.Exchange

/-! # The program

Runs a command on the files of the user. The files that a run can touch are read beforehand, the run
works on what was read, and what it has changed is written afterwards. Nothing is sent anywhere: the
wire of the program leads nowhere. -/

namespace HostedNode.Program

open Cli

/-- How the program is called. -/
def usage : String :=
  "Usage: lnsdk [--data-dir DIR] [--config FILE] COMMAND\n\n"
    ++ "Commands:\n"
    ++ "  set-api-key KEY\n"
    ++ "  set-env production|staging\n"
    ++ "  connect [--partner-cert FILE] [--partner-key FILE] [--invite-code CODE]\n"
    ++ "  node-info\n"
    ++ "  sync\n"
    ++ "  mnemonic\n"
    ++ "  sign-message MESSAGE\n"
    ++ "  check-message MESSAGE PUBKEY SIGNATURE\n"
    ++ "  execute-command COMMAND\n"

/-- The path of a place. -/
def pathOf (p : Place) : String := "/" ++ "/".intercalate p

/-- What stands at a place where a file cannot be opened. A file is told from a directory by what is
behind it. -/
def probeBarred (p : Place) (error : DiskError) (e : IO.Error) : IO (Option DiskEntry) := do
  try
    let _ ← IO.FS.readBinFile (pathOf p ++ "/.")
    throw e
  catch behind =>
    match behind with
    | .inappropriateType _ _ "Not a directory" => return some (.barred error)
    | _ => throw e

/-- What stands at a place, if there is anything. -/
def probe (p : Place) : IO (Option DiskEntry) := do
  try
    return some (.file (← IO.FS.readBinFile (pathOf p)).toList)
  catch e =>
    match e with
    | .noFileOrDirectory _ _ _ => return none
    | .inappropriateType _ _ details =>
      return if details = "Is a directory" then some .directory else none
    | .permissionDenied _ _ _ => probeBarred p .denied e
    | .hardwareFault _ _ => probeBarred p .broken e
    | e => throw e

/-- The places on the way to a place, and the place. -/
def waysTo (p : Place) : List Place := (List.range p.length).map fun n => p.take (n + 1)

/-- The place of a path as its names say. -/
def placeOf (d : Disk) (path : String) : Place :=
  (Path.names path).foldl (fun p n => if n = ".." then p.dropLast else p ++ [n])
    (if Path.isAbsolute path then [] else d.current)

/-- Reads what stands on the way to a path and at its end. -/
def fetch (d : Disk) (path : String) : IO Disk :=
  (waysTo (placeOf d path)).foldlM
    (fun d p => do
      match ← probe p with
      | some e => return d.put p e
      | none => return d) d

/-- The paths that a run with some settings can touch. -/
def pathsOf (inv : Invocation) (s : Settings) : List String :=
  let s := withOptions s inv.command
  [phrasePath inv.dataDir, Storage.documentPath inv.dataDir, Storage.draftPath inv.dataDir]
    ++ s.partnerCert.toList ++ s.partnerKey.toList ++ s.logging.file.toList

/-- Writes what is not as it was. -/
def store (old new : Disk) : IO Unit := do
  for (p, _) in old.entries do
    if (new.at? p).isNone then IO.FS.removeFile (pathOf p)
  let changed := new.entries.filter fun e => old.at? e.1 ≠ some e.2
  for (p, e) in changed.mergeSort fun a b => a.1.length ≤ b.1.length do
    match e with
    | .directory => IO.FS.createDirAll (pathOf p)
    | .file bs => IO.FS.writeBinFile (pathOf p) ⟨bs.toArray⟩
    | .barred _ => pure ()

/-- Runs a command. -/
def execute (inv : Invocation) : IO Exit := do
  let random ← IO.getRandomBytes 16
  let around : Surroundings :=
    ⟨← IO.getEnv "XDG_CONFIG_HOME", ← IO.getEnv "HOME", random.toList⟩
  let empty : Disk := ⟨[], Path.names (toString (← IO.currentDir)), []⟩
  let disk ← (waysTo empty.current).foldlM (fun d p => return d.put p .directory) empty
  match settingsPath around inv with
  | .error f => return .failed f
  | .ok path =>
    let disk ← fetch disk path
    let settings := (loadSettings disk path).toOption.getD default
    let disk ← (pathsOf inv settings).foldlM fetch disk
    let world : World (Http.Over Http.Offline) Disk := ⟨⟨⟨⟩⟩, disk, []⟩
    let (exit, world) := run around inv world
    store disk world.store
    return exit

/-- Runs what the arguments ask for, and gives the exit code. -/
def start (args : List String) : IO UInt32 := do
  match Invocation.parse args with
  | .error .help =>
    IO.print usage
    return 0
  | .error .version =>
    IO.println "lnsdk 0.1.0"
    return 0
  | .error .usage =>
    IO.eprint usage
    return 2
  | .ok inv =>
    let exit ← execute inv
    IO.print exit.out
    IO.eprint exit.err
    return exit.code.toUInt32

end HostedNode.Program

/-- The program. -/
def main (args : List String) : IO UInt32 := HostedNode.Program.start args

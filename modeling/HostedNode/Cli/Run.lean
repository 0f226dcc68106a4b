import HostedNode.Cli.Args
import HostedNode.Cli.Console
import HostedNode.Cli.Flow
import HostedNode.Phrase.Seed
import HostedNode.Services.Basic
import HostedNode.Settings.File

/-! # Running a command

A run starts from a command line and leaves an exit code and two texts. It loads the settings, does
what is asked for, and keeps the phrase: the phrase in the data directory is used as it is, and made
only if there is none. A run that connects goes through the flow, answers, and disconnects. Log
lines and events go to the second text, or else to the log file that the settings name. -/

namespace HostedNode.Cli

open Json Rpc

/-- What a run finds. -/
structure Surroundings where
  settingsDir : Option String
  home : Option String
  /-- Bytes that nobody can foresee. -/
  random : Bytes
deriving DecidableEq, Repr, Inhabited

/-- What a run leaves. -/
structure Exit where
  code : Nat
  out : String
  err : String
deriving DecidableEq, Repr, Inhabited

namespace Exit

/-- The end of a run that gave an answer. -/
def answered (out : String) : Exit := ⟨0, out, ""⟩

/-- The end of a run that failed. -/
def failed (f : Failure) : Exit := ⟨1, "", "Error: " ++ f.message ++ "\n"⟩

/-- The end of a run that came to this. -/
def ofExcept : Except Failure String → Exit
  | .ok out => answered out
  | .error f => failed f

end Exit

/-- A step on the disk that says what it was doing when it fails. -/
def onDisk {α : Type} (doing : String) (act : DiskAct α) : EStateM Failure Disk α := fun d =>
  match act d with
  | .ok a d => .ok a d
  | .error e d => .error (.ofDiskIn doing e) d

/-! ### Settings -/

/-- The path of the settings file. -/
def settingsPath (around : Surroundings) (inv : Invocation) : Except Failure String :=
  match inv.settingsFile with
  | some path => .ok path
  | none => (Settings.defaultPath around.settingsDir around.home).mapError .ofSettings

/-- The settings in a file, or the defaults if there is no file. -/
def loadSettings (d : Disk) (path : String) : Except Failure Settings :=
  (Settings.loadOrDefault d path).mapError (.ofSettingsIn ("failed to load " ++ path))

/-- Saves settings and says so. -/
def saveSettings (s : Settings) (path said : String) : EStateM Failure Disk String := fun d =>
  match s.save path d with
  | .ok () d => .ok (said ++ "\n") d
  | .error e d => .error (.ofSettings (.file e)) d

/-! ### The phrase -/

/-- The path of the phrase in a data directory. -/
def phrasePath (dataDir : String) : String := Path.join dataDir "phrase"

/-- The number of words of a new phrase. -/
def phraseLength : Nat := 12

/-- Makes a phrase and keeps it. -/
def createPhrase (dataDir : String) (random : Bytes) : EStateM Failure Disk String := do
  onDisk ("failed to create " ++ dataDir) (Disk.makeDirectories dataDir)
  match Phrase.generate phraseLength random with
  | .error e => throw (.ofServices (.invalidMnemonic e))
  | .ok phrase =>
    onDisk ("failed to write " ++ phrasePath dataDir)
      (Disk.write (phrasePath dataDir) (Text.Utf8.encode phrase))
    return phrase

/-- The phrase in a data directory, or a new one if there is none. -/
def loadPhrase (dataDir : String) (random : Bytes) : EStateM Failure Disk String := fun d =>
  match d.readText (phrasePath dataDir) with
  | .ok text => .ok (Text.trim text) d
  | .error .notFound => createPhrase dataDir random d
  | .error e => .error (.ofDiskIn ("failed to read " ++ phrasePath dataDir) e) d

/-! ### Connecting -/

/-- Opens the file that the log goes to. -/
def openLog : Option String → EStateM Failure Disk Unit
  | none => pure ()
  | some path => onDisk ("failed to open log file " ++ path) (Disk.append path [])

/-- What comes before a flow: its phrase and what it has to know. -/
def prepare (around : Surroundings) (dataDir : String) (s : Settings) :
    EStateM Failure Disk (String × FlowSettings) := do
  let phrase ← loadPhrase dataDir around.random
  let d ← get
  match s.registration d with
  | .error e => throw (.ofSettingsIn "invalid registration settings" e)
  | .ok registration =>
    openLog s.logging.file
    return (phrase, ⟨s.environment, s.apiKey.getD "", .greenlight registration, dataDir,
      s.logging.level⟩)

variable {σ : Type} [Net σ]

/-- The library, as a flow uses it. -/
def library : Facade (World σ Disk) (Services Node) where
  setLogStream _ := pure ()
  seedOf phrase := Act.ofExcept ((Phrase.toSeed phrase).mapError .invalidMnemonic)
  connect r := Services.connect r.config r.seed
  nodeInfo s := Act.ofExcept s.nodeInfo

/-- The settings with what the command line says of registration. -/
def withOptions (s : Settings) : Command → Settings
  | .connect cert key code =>
    { s with
      partnerCert := cert <|> s.partnerCert
      partnerKey := key <|> s.partnerKey
      inviteCode := code <|> s.inviteCode }
  | _ => s

/-- A step whose failures need no more words. -/
def plainly {α : Type} (act : Act σ Disk ServiceError α) : Act σ Disk Failure α :=
  Act.mapError .ofServices act

/-- The answer to a command that needs services, from the services and the state of their node. -/
def answer (c : Command) (services : Services Node) (state : NodeState) :
    Act σ Disk Failure (Services Node × String) := do
  match c with
  | .nodeInfo => return (services, (toJson state).pretty)
  | .sync =>
    let services ← during "failed to sync" services.sync
    let state ← plainly (Act.ofExcept services.nodeInfo)
    return (services,
      "Node id: " ++ state.id ++ ", block height: " ++ toString state.blockHeight.toNat)
  | .signMessage r => return (services, (← plainly (services.signMessage r)).signature)
  | .checkMessage r =>
    let checked ← plainly (services.checkMessage r)
    return (services, "Valid: " ++ Text.shown checked.isValid)
  | .execute text => return (services, ← during ("failed to run " ++ text) (services.command text))
  | _ => return (services, "Node id: " ++ state.id)

/-- Connects, answers and disconnects. -/
def converse (c : Command) (phrase : String) (flow : FlowSettings) : Act σ Disk Failure String := do
  let (services, state) ← connectWith library phrase flow
  let (services, said) ← answer c services state
  let _ ← plainly services.disconnect
  return said ++ "\n"

/-- Where the console is: what it shows goes to the log file if there is one. -/
def Exit.withConsole (e : Exit) (file : Option String) (shown : String) (d : Disk) : Exit × Disk :=
  match file with
  | none => ({ e with err := shown ++ e.err }, d)
  | some path =>
    match Disk.append path (Text.Utf8.encode shown) d with
    | .ok () d => (e, d)
    | .error _ d => (e, d)

/-- Runs a command that needs services. -/
def runConnected (around : Surroundings) (inv : Invocation) (s : Settings) (w : World σ Disk) :
    Exit × World σ Disk :=
  match prepare around inv.dataDir s w.store with
  | .error f d => (.failed f, { w with store := d })
  | .ok (phrase, flow) d =>
    let (r, after) : Except Failure String × World σ Disk :=
      match converse inv.command phrase flow { w with store := d, journal := [] } with
      | .ok said after => (.ok said, after)
      | .error f after => (.error f, after)
    let shown := consoleOf s.logging.level after.journal
    let (exit, d) := (Exit.ofExcept r).withConsole s.logging.file shown after.store
    (exit, { after with store := d, journal := w.journal ++ after.journal })

/-! ### Runs -/

/-- Runs what only needs the disk. -/
def runAlone (act : EStateM Failure Disk String) (w : World σ Disk) : Exit × World σ Disk :=
  match act w.store with
  | .ok out d => (.answered out, { w with store := d })
  | .error f d => (.failed f, { w with store := d })

/-- Runs a command with the settings of a file. -/
def runWith (around : Surroundings) (inv : Invocation) (path : String) (s : Settings) :
    World σ Disk → Exit × World σ Disk :=
  match inv.command with
  | .setApiKey key =>
    runAlone (saveSettings { s with apiKey := some key } path ("API key saved to " ++ path))
  | .setEnvironment env =>
    runAlone (saveSettings { s with environment := env } path ("Environment set to " ++ env.name))
  | .mnemonic =>
    runAlone do
      let phrase ← loadPhrase inv.dataDir around.random
      return phrase ++ "\n"
  | c => runConnected around inv (withOptions s c)

/-- Runs a command. -/
def run (around : Surroundings) (inv : Invocation) (w : World σ Disk) : Exit × World σ Disk :=
  match settingsPath around inv with
  | .error f => (.failed f, w)
  | .ok path =>
    match loadSettings w.store path with
    | .error f => (.failed f, w)
    | .ok s => runWith around inv path s w

end HostedNode.Cli

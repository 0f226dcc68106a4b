import HostedNode.Cli.Run
import HostedNode.Proofs.Settings.File
import HostedNode.Rpc.Script

/-! # Commands that change settings

A user types command lines in surroundings that may change from one to the next (`Turn`); one that
cannot be read runs nothing. One that sets the deployment or the API key loads the settings, changes
the one of them, and saves all. However many of these are typed, the file ends up with the settings
it had at first, but for the last deployment and the last key that were given (`Edit.edited`); this
is the run lemma `folds_runAll` over the step lemma `run_of_loaded`. On a file that holds no
settings they all fail and change nothing (`runAll_of_unloaded`). -/

namespace HostedNode.Cli

open Rpc Settings

/-! ### Command lines, one after the other -/

/-- A command line that is typed somewhere. -/
structure Turn where
  around : Surroundings
  args : List String
deriving DecidableEq, Repr

variable {σ : Type} [Net σ]

namespace Turn

/-- What a command line comes to. -/
def run (t : Turn) (w : World σ Disk) : Except ArgsError Exit × World σ Disk :=
  match Invocation.parse t.args with
  | .error e => (.error e, w)
  | .ok inv => ((.ok (Cli.run t.around inv w).1), (Cli.run t.around inv w).2)

/-- What command lines come to, one after the other. -/
def runAll : List Turn → World σ Disk → List (Except ArgsError Exit) × World σ Disk
  | [], w => ([], w)
  | t :: ts, w => ((t.run w).1 :: (runAll ts (t.run w).2).1, (runAll ts (t.run w).2).2)

@[simp] theorem runAll_nil (w : World σ Disk) : runAll [] w = ([], w) := rfl

@[simp] theorem runAll_cons (t : Turn) (ts : List Turn) (w : World σ Disk) :
    runAll (t :: ts) w =
      ((t.run w).1 :: (runAll ts (t.run w).2).1, (runAll ts (t.run w).2).2) := rfl

theorem run_of_parse {t : Turn} {inv : Invocation} (h : Invocation.parse t.args = .ok inv)
    (w : World σ Disk) :
    t.run w = (.ok (Cli.run t.around inv w).1, (Cli.run t.around inv w).2) := by
  rw [run, h]

end Turn

/-! ### Changes of the settings -/

/-- A change of the settings that a command line can ask for. -/
inductive Edit where
  | apiKey (key : String)
  | environment (e : Environment)
deriving DecidableEq, Repr

namespace Edit

/-- The command that asks for the change. -/
def command : Edit → Command
  | apiKey key => .setApiKey key
  | environment e => .setEnvironment e

/-- What is said when the change is made. -/
def said (path : String) : Edit → String
  | apiKey _ => "API key saved to " ++ path
  | environment e => "Environment set to " ++ e.name

/-- The settings after the change. -/
def apply (s : Settings) : Edit → Settings
  | apiKey key => { s with apiKey := some key }
  | environment e => { s with environment := e }

/-- The key that is given. -/
def key? : Edit → Option String
  | apiKey key => some key
  | environment _ => none

/-- The deployment that is given. -/
def environment? : Edit → Option Environment
  | apiKey _ => none
  | environment e => some e

/-- The settings after changes: the last deployment and the last key that are given count, and all
other settings stay. -/
def edited (s : Settings) (es : List Edit) : Settings :=
  { s with
    environment := (es.filterMap environment?).getLast?.getD s.environment
    apiKey := (es.filterMap key?).getLast? <|> s.apiKey }

theorem edited_cons (s : Settings) (e : Edit) (es : List Edit) :
    edited s (e :: es) = edited (e.apply s) es := by
  cases e with
  | apiKey key =>
    have hlast : ((key :: es.filterMap key?).getLast? <|> s.apiKey) =
        ((es.filterMap key?).getLast? <|> some key) := by
      rw [List.getLast?_cons]
      cases (es.filterMap key?).getLast? <;> rfl
    simp only [edited, apply, List.filterMap_cons, environment?, key?, hlast]
  | environment env =>
    have hlast : (env :: es.filterMap environment?).getLast?.getD s.environment =
        (es.filterMap environment?).getLast?.getD env := by
      rw [List.getLast?_cons]
      rfl
    simp only [edited, apply, List.filterMap_cons, environment?, key?, hlast]

/-- Changes made one by one come to this. -/
theorem foldl_apply (s : Settings) (es : List Edit) : es.foldl apply s = edited s es := by
  induction es generalizing s with
  | nil =>
    cases s
    rfl
  | cons e es ih => rw [List.foldl_cons, ih, edited_cons]

end Edit

/-- The command line asks for a change of the settings in the file at a path. -/
def Turn.Makes (path : String) (t : Turn) (e : Edit) : Prop :=
  ∃ inv, Invocation.parse t.args = .ok inv ∧ inv.command = e.command ∧
    settingsPath t.around inv = .ok path

variable {path : String} {t : Turn} {e : Edit} {w : World σ Disk}

namespace Turn

/-! ### One command line -/

theorem run_of_makes (h : t.Makes path e) (w : World σ Disk) :
    t.run w = match loadSettings w.store path with
      | .error f => (.ok (.failed f), w)
      | .ok s =>
        let r := runAlone (saveSettings (e.apply s) path (e.said path)) w
        (.ok r.1, r.2) := by
  obtain ⟨inv, hparse, hcommand, hpath⟩ := h
  rw [run_of_parse hparse, Cli.run, hpath]
  cases hload : loadSettings w.store path with
  | error f => simp only [hload]
  | ok s =>
    simp only [hload, runWith, hcommand]
    cases e <;> rfl

/-- **A command line that changes settings which load makes its change and nothing else.** -/
theorem run_of_loaded (h : t.Makes path e) {s : Settings}
    (hload : loadOrDefault w.store path = .ok s) (hw : Disk.Writable w.store path) :
    ∃ d, t.run w = (.ok (.answered (e.said path ++ "\n")), { w with store := d }) ∧
      d.read path = .ok (Text.Utf8.encode (e.apply s).document) ∧
      load d path = .ok (e.apply s) ∧ Disk.Writable d path := by
  obtain ⟨d, hsave, hread, hload', hw'⟩ := load_save hw (e.apply s)
  refine ⟨d, ?_, hread, hload', hw'⟩
  rw [run_of_makes h, loadSettings, hload]
  simp only [Except.mapError, runAlone, saveSettings, hsave]

theorem run_of_unloaded (h : t.Makes path e) {err : SettingsError}
    (hload : loadOrDefault w.store path = .error err) :
    t.run w = (.ok (.failed (.ofSettingsIn ("failed to load " ++ path) err)), w) := by
  rw [run_of_makes h, loadSettings, hload]
  rfl

/-! ### Any number of them -/

/-- What changes come to, from settings that load: all of them are made, and nothing else. If there
is one at all, the file is there in the end and holds the document of the settings. -/
structure Folds (path : String) (s : Settings) (es : List Edit)
    (out : List (Except ArgsError Exit) × World σ Disk) : Prop where
  succeed : out.1 = es.map fun e => .ok (.answered (e.said path ++ "\n"))
  loads : loadOrDefault out.2.store path = .ok (Edit.edited s es)
  present : es ≠ [] → load out.2.store path = .ok (Edit.edited s es)
  bytes : es ≠ [] → out.2.store.read path = .ok (Text.Utf8.encode (Edit.edited s es).document)

omit [Net σ] in
/-- One more change before others. -/
theorem Folds.cons {s : Settings} {es : List Edit} {d : Disk}
    {out : List (Except ArgsError Exit) × World σ Disk}
    (hread : d.read path = .ok (Text.Utf8.encode (e.apply s).document))
    (hnone : es = [] → out.2.store = d) (h : Folds path (e.apply s) es out) :
    Folds path s (e :: es) (.ok (.answered (e.said path ++ "\n")) :: out.1, out.2) := by
  have hbytes : out.2.store.read path =
      .ok (Text.Utf8.encode (Edit.edited s (e :: es)).document) := by
    rw [Edit.edited_cons]
    by_cases hes : es = []
    · rw [hnone hes, hread, hes, ← Edit.foldl_apply]
      rfl
    · exact h.bytes hes
  have hload := load_of_read hbytes
  constructor
  case succeed => rw [h.succeed, List.map_cons]
  case loads => exact loadOrDefault_of_load hload
  case present => exact fun _ => hload
  case bytes => exact fun _ => hbytes

theorem folds_runAll {ts : List Turn} {es : List Edit} (h : List.Forall₂ (Makes path) ts es)
    {s : Settings} (hload : loadOrDefault w.store path = .ok s)
    (hw : Disk.Writable w.store path) : Folds path s es (runAll ts w) := by
  induction h generalizing w s with
  | nil =>
    refine ⟨rfl, ?_, fun hne => absurd rfl hne, fun hne => absurd rfl hne⟩
    rw [← Edit.foldl_apply]
    exact hload
  | @cons t e ts es ht hts ih =>
    obtain ⟨d, hrun, hread, hload', hw'⟩ := run_of_loaded ht hload hw
    have hrest : Folds path (e.apply s) es (runAll ts { w with store := d }) :=
      ih (loadOrDefault_of_load hload') hw'
    have hnone : es = [] → (runAll ts { w with store := d }).2.store = d := by
      rintro rfl
      cases hts
      rfl
    rw [runAll_cons, hrun]
    exact hrest.cons hread hnone

theorem runAll_of_unloaded {ts : List Turn} {es : List Edit} (h : List.Forall₂ (Makes path) ts es)
    {err : SettingsError} (hload : loadOrDefault w.store path = .error err) :
    runAll ts w =
      (es.map fun _ => .ok (.failed (.ofSettingsIn ("failed to load " ++ path) err)), w) := by
  induction h with
  | nil => rfl
  | cons ht hts ih =>
    rw [runAll_cons, run_of_unloaded ht hload, ih]
    rfl

/-- **Commands that set the deployment or the API key are a fold over the settings in a file.** From
settings that load, all changes are made and all else stays, whatever the texts hold; on a file that
holds no settings all commands fail and change nothing. Changes of different settings commute, to
the bytes of the file. -/
theorem settings_commands_fold (σ : Type) [Net σ] (path : String) (w : World σ Disk) :
    (∀ ts es, List.Forall₂ (Makes path) ts es →
      (∀ s, loadOrDefault w.store path = .ok s → Disk.Writable w.store path →
        Folds path s es (runAll ts w)) ∧
      ∀ err, loadOrDefault w.store path = .error err →
        runAll ts w =
          (es.map fun _ => .ok (.failed (.ofSettingsIn ("failed to load " ++ path) err)), w)) ∧
    ∀ t t' key env, Makes path t (.apiKey key) → Makes path t' (.environment env) →
      Disk.Writable w.store path →
        (runAll [t, t'] w).2.store.read path = (runAll [t', t] w).2.store.read path := by
  refine ⟨fun ts es h => ⟨fun s hload hw => folds_runAll h hload hw, fun err => ?_⟩, ?_⟩
  · exact runAll_of_unloaded h
  · intro t t' key env ht ht' hw
    have hpair : List.Forall₂ (Makes path) [t, t'] [.apiKey key, .environment env] :=
      .cons ht (.cons ht' .nil)
    have hpair' : List.Forall₂ (Makes path) [t', t] [.environment env, .apiKey key] :=
      .cons ht' (.cons ht .nil)
    cases hload : loadOrDefault w.store path with
    | error err => rw [runAll_of_unloaded hpair hload, runAll_of_unloaded hpair' hload]
    | ok s =>
      have hbytes := (folds_runAll hpair hload hw).bytes (by simp)
      have hbytes' := (folds_runAll hpair' hload hw).bytes (by simp)
      rw [hbytes, hbytes']
      rfl

/-- A file with an invite code and nothing else. -/
def invited : World Script Disk :=
  ⟨[], ⟨[(["c.toml"], .file (Text.Utf8.encode "invite_code = 'x'\n"))], [], []⟩, []⟩

theorem settings_commands_fold_invited :
    Folds "c.toml" { (default : Settings) with inviteCode := some "x" }
      [.environment .staging, .apiKey "a\"\nb"]
      (runAll
        [⟨⟨none, none, []⟩, ["--config", "c.toml", "set-env", "Staging"]⟩,
          ⟨⟨none, none, []⟩, ["set-api-key", "a\"\nb", "--config=c.toml"]⟩] invited) := by
  have hlocate : invited.store.locate "c.toml" = .ok ["c.toml"] := by decide +kernel
  have hend : Path.endsInDirectory "c.toml" = false := by decide +kernel
  have hup : Path.parent? "c.toml" = some "" := by decide +kernel
  have hload : loadOrDefault invited.store "c.toml" =
      .ok { (default : Settings) with inviteCode := some "x" } := by
    have hdocument : ofDocument? "invite_code = 'x'\n" =
        some { (default : Settings) with inviteCode := some "x" } := by decide +kernel
    apply loadOrDefault_of_load
    rw [load, Disk.readText_of_read (Disk.read_eq_ok.mpr ⟨_, hlocate, rfl, hend⟩)]
    simp only [hdocument]
  have hwritable : Disk.Writable invited.store "c.toml" := by
    refine ⟨by decide, invited.store, _, ?_,
      Disk.fileToWrite_eq_ok.mpr ⟨hlocate, by decide, Disk.opens_of_file rfl, hend⟩⟩
    rw [Disk.makeParents, hup]
    rfl
  have hfirst : Invocation.parse ["--config", "c.toml", "set-env", "Staging"] =
      .ok ⟨.setEnvironment .staging, ".data", some "c.toml"⟩ := by decide +kernel
  have hsecond : Invocation.parse ["set-api-key", "a\"\nb", "--config=c.toml"] =
      .ok ⟨.setApiKey "a\"\nb", ".data", some "c.toml"⟩ := by decide +kernel
  exact ((settings_commands_fold Script "c.toml" invited).1 _ _
    (.cons ⟨_, hfirst, rfl, rfl⟩ (.cons ⟨_, hsecond, rfl, rfl⟩ .nil))).1 _ hload hwritable

end Turn

end HostedNode.Cli

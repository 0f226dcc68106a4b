import HostedNode.Cli.Run
import HostedNode.Proofs.Phrase.Encoding
import HostedNode.Proofs.Services.Footprint

/-! # The phrase of a run

A run that needs the phrase of a data directory finds it and goes on with it (`run_eq`): `goOn` is
the rest of the run, which is given the phrase and looks at its file no more. What is found is the
trimmed text of the file (`loadPhrase_of_text`); only if there is no file a new phrase is made, and
then the file holds it, unless the write breaks off (`created_createPhrase`). A run that connects
does so with the seed that the phrase stands for, and the phrase has no other part in it
(`converse_eq`). What comes after reading the phrase leaves the file as it is (`retains_goOn`), if
the log goes elsewhere. -/

namespace HostedNode.Cli

open Act Disk Rpc

/-! ### Finding the phrase -/

theorem foreign_phrase : Storage.Foreign "phrase" where
  plain :=
    { notAbsolute := by decide
      names_eq := by decide
      ne_parent := by decide
      noNul := by decide
      short := by decide }
  ne_document := by decide
  ne_draft := by decide

theorem storeOutcome_onDisk {α : Type} (doing : String) (act : DiskAct α) (d : Disk) :
    (storeOutcome (onDisk doing act) d).2 = (storeOutcome act d).2 := by
  unfold storeOutcome onDisk
  cases act d <;> rfl

/-- What is left if a phrase was to be made and is not: there are more directories at most; or the
write broke off, and the file holds what was written before that. -/
def Failed (dataDir : String) (d d' : Disk) : Prop :=
  (∀ p, d'.at? p = d.at? p ∨ d.at? p = none ∧ d'.at? p = some .directory) ∨
    ∃ m bs, some m ∈ d.mishaps ∧ m.left = some bs ∧ d'.read (phrasePath dataDir) = .ok bs

/-- What comes of making a phrase on a disk: the phrase, which is then in its file, or a failure. -/
def Created (dataDir : String) (d : Disk) : EStateM.Result Failure Disk String → Prop
  | .ok phrase d' => Phrase.IsPhrase phraseLength phrase ∧
      d'.readText (phrasePath dataDir) = .ok phrase ∧ d'.current = d.current
  | .error _ d' => Failed dataDir d d'

theorem created_createPhrase (dataDir : String) {random : Bytes}
    (hrandom : phraseLength / 3 * 4 ≤ random.length) (d : Disk) :
    Created dataDir d (createPhrase dataDir random d) := by
  obtain ⟨phrase, hgenerate, hphrase⟩ := Phrase.isPhrase_generate (by decide) hrandom
  have hmade := extends_makeDirectories dataDir d
  unfold createPhrase
  simp only [bind, EStateM.bind, onDisk, hgenerate]
  cases hd : makeDirectories dataDir d with
  | error e d1 =>
    rw [storeOutcome_of_error hd] at hmade
    exact Or.inl hmade.place
  | ok u d1 =>
    rw [storeOutcome_of_ok hd] at hmade
    cases hw : write (phrasePath dataDir) (Text.Utf8.encode phrase) d1 with
    | error e d2 =>
      simp only [hw]
      rcases write_error_cases hw with hplace | ⟨m, bs, hm, hleft, hread⟩
      · refine Or.inl fun p => ?_
        rw [hplace]
        exact hmade.place p
      · rw [hmade.mishaps] at hm
        exact Or.inr ⟨m, bs, hm, hleft, hread⟩
    | ok u d2 =>
      have hcurrent : d2.current = d1.current := by
        obtain ⟨p, ms, -, rfl⟩ := write_leaves hw
        rfl
      simp only [hw]
      exact ⟨hphrase, readText_of_write hw, hcurrent.trans hmade.current⟩

/-- A phrase is made if its directory can be made, a file can stand at its path, and no mishap is to
come. -/
theorem createPhrase_of_calm {dataDir : String} {random : Bytes}
    (hrandom : phraseLength / 3 * 4 ≤ random.length) {d d1 : Disk} {p : Place}
    (hcalm : ∀ m ∈ d.mishaps, m = none) (hmake : makeDirectories dataDir d = .ok () d1)
    (hfile : d1.fileToWrite (phrasePath dataDir) = .ok p) :
    ∃ phrase d', createPhrase dataDir random d = .ok phrase d' := by
  obtain ⟨phrase, hgenerate, -⟩ := Phrase.isPhrase_generate (by decide) hrandom
  have hcalm' : ∀ m ∈ d1.mishaps, m = none := by
    rw [(makeDirectories_ok hmake).1.mishaps]
    exact hcalm
  obtain ⟨ms, -, hwrite⟩ := write_of_calm hcalm' hfile (Text.Utf8.encode phrase)
  refine ⟨phrase, (d1.expecting ms).put p (.file (Text.Utf8.encode phrase)), ?_⟩
  simp only [createPhrase, bind, EStateM.bind, onDisk, hgenerate, hmake, hwrite]
  rfl

theorem loadPhrase_of_text {dataDir text : String} {d : Disk}
    (h : d.readText (phrasePath dataDir) = .ok text) (random : Bytes) :
    loadPhrase dataDir random d = .ok (Text.trim text) d := by
  delta loadPhrase
  simp only [h]

theorem loadPhrase_of_unreadable {dataDir : String} {d : Disk} {e : DiskError}
    (h : d.readText (phrasePath dataDir) = .error e) (he : e ≠ .notFound) (random : Bytes) :
    loadPhrase dataDir random d =
      .error (.ofDiskIn ("failed to read " ++ phrasePath dataDir) e) d := by
  delta loadPhrase
  cases e with
  | notFound => exact absurd rfl he
  | _ => simp only [h]

theorem loadPhrase_of_absent {dataDir : String} {d : Disk}
    (h : d.readText (phrasePath dataDir) = .error .notFound) (random : Bytes) :
    loadPhrase dataDir random d = createPhrase dataDir random d := by
  delta loadPhrase
  simp only [h]

/-! ### Going on with it -/

/-- The settings are turned into what a flow has to know, and the log is opened. -/
def settle (dataDir : String) (s : Settings) : EStateM Failure Disk FlowSettings := do
  let d ← get
  match s.registration d with
  | .error e => throw (.ofSettingsIn "invalid registration settings" e)
  | .ok registration =>
    openLog s.logging.file
    return ⟨s.environment, s.apiKey.getD "", .greenlight registration, dataDir, s.logging.level⟩

theorem get_eq (d : Disk) : (get : EStateM Failure Disk Disk) d = .ok d d := rfl

theorem prepare_eq (around : Surroundings) (dataDir : String) (s : Settings) :
    prepare around dataDir s = (do
      let phrase ← loadPhrase dataDir around.random
      let flow ← settle dataDir s
      return (phrase, flow)) := by
  funext d
  simp only [prepare, settle, bind, EStateM.bind, get_eq]
  cases loadPhrase dataDir around.random d with
  | error f d1 => rfl
  | ok phrase d1 =>
    dsimp only
    cases s.registration d1 with
    | error e => rfl
    | ok registration =>
      simp only [EStateM.bind]
      cases openLog s.logging.file d1 <;> rfl

variable {σ : Type} [Net σ]

/-- Connecting with a seed, answering and disconnecting. Without a seed it fails. -/
def converseFrom (c : Command) (seed : Except Phrase.Error Bytes) (flow : FlowSettings) :
    Act σ Disk Failure String := do
  match seed with
  | .error e => throw (.ofServicesIn "failed to derive seed" (.invalidMnemonic e))
  | .ok seed =>
    let services ← during "failed to connect" (Services.connect flow.config seed)
    let state ← during "failed to get node info" (Act.ofExcept services.nodeInfo)
    let (services, said) ← answer c services state
    let _ ← plainly services.disconnect
    return said ++ "\n"

/-- **A run that connects does so with the seed of its phrase**, and knows nothing else of it. -/
theorem converse_eq (c : Command) (phrase : String) (flow : FlowSettings) :
    (converse c phrase flow : Act σ Disk Failure String) =
      converseFrom c (Phrase.toSeed phrase) flow := by
  unfold converse connectWith library converseFrom
  simp only [bind_assoc, pure_bind]
  cases Phrase.toSeed phrase <;> rfl

/-- What a conversation leaves of a run: its answer or failure, and what the console showed. -/
def conclude (s : Settings) (conversation : Act σ Disk Failure String) (w : World σ Disk) :
    Exit × World σ Disk :=
  let out := conversation.outcome { w with journal := [] }
  let shown := consoleOf s.logging.level out.2.journal
  let (exit, d) := (Exit.ofExcept out.1).withConsole s.logging.file shown out.2.store
  (exit, { out.2 with store := d, journal := w.journal ++ out.2.journal })

/-- A run that connects, from the seed on. -/
def converseOver (inv : Invocation) (s : Settings) (seed : Except Phrase.Error Bytes)
    (w : World σ Disk) : Exit × World σ Disk :=
  match settle inv.dataDir s w.store with
  | .error f d => (.failed f, { w with store := d })
  | .ok flow d => conclude s (converseFrom inv.command seed flow) { w with store := d }

/-- A run that needs a phrase, from the phrase on. -/
def goOn (inv : Invocation) (s : Settings) (phrase : String) (w : World σ Disk) :
    Exit × World σ Disk :=
  match inv.command with
  | .mnemonic => (.answered (phrase ++ "\n"), w)
  | c => converseOver inv (withOptions s c) (Phrase.toSeed phrase) w

/-- Whether a command needs the phrase: all do but those that change the settings. -/
def Command.needsPhrase : Command → Bool
  | .setApiKey _ => false
  | .setEnvironment _ => false
  | _ => true

/-- Whether a command connects: all that need the phrase do but the one that shows it. -/
def Command.connects : Command → Bool
  | .mnemonic => false
  | c => c.needsPhrase

theorem goOn_of_connects {inv : Invocation} (h : inv.command.connects = true) (s : Settings)
    (phrase : String) (w : World σ Disk) :
    goOn inv s phrase w =
      converseOver inv (withOptions s inv.command) (Phrase.toSeed phrase) w := by
  unfold goOn
  split
  · next hmnemonic =>
    rw [hmnemonic] at h
    cases h
  · rfl

/-- The settings of a run. -/
def settingsOf (around : Surroundings) (inv : Invocation) (d : Disk) : Except Failure Settings := do
  loadSettings d (← settingsPath around inv)

theorem runConnected_eq (around : Surroundings) (inv : Invocation) (s : Settings)
    (w : World σ Disk) :
    runConnected around inv s w =
      match loadPhrase inv.dataDir around.random w.store with
      | .error f d => (.failed f, { w with store := d })
      | .ok phrase d => converseOver inv s (Phrase.toSeed phrase) { w with store := d } := by
  delta runConnected
  simp only [prepare_eq, bind, EStateM.bind]
  cases loadPhrase inv.dataDir around.random w.store with
  | error f d => rfl
  | ok phrase d =>
    simp only [converseOver, conclude, Act.outcome, ← converse_eq]
    cases settle inv.dataDir s d with
    | error f d1 => rfl
    | ok flow d1 =>
      simp only [pure, EStateM.pure]
      cases converse inv.command phrase flow { w with store := d1, journal := [] } <;> rfl

/-- **A run that needs a phrase finds it and goes on with it.** -/
theorem run_eq {inv : Invocation} (h : inv.command.needsPhrase = true) (around : Surroundings)
    (w : World σ Disk) :
    run around inv w =
      match settingsOf around inv w.store with
      | .error f => (.failed f, w)
      | .ok s =>
        match loadPhrase inv.dataDir around.random w.store with
        | .error f d => (.failed f, { w with store := d })
        | .ok phrase d => goOn inv s phrase { w with store := d } := by
  rw [run, settingsOf]
  cases settingsPath around inv with
  | error f => rfl
  | ok path =>
    simp only [bind, Except.bind]
    cases loadSettings w.store path with
    | error f => rfl
    | ok s =>
      simp only [runWith, goOn]
      cases hc : inv.command with
      | setApiKey key => simp [hc, Command.needsPhrase] at h
      | setEnvironment env => simp [hc, Command.needsPhrase] at h
      | mnemonic =>
        simp only [runAlone, bind, EStateM.bind]
        cases loadPhrase inv.dataDir around.random w.store <;> rfl
      | _ => exact runConnected_eq around inv _ w

/-! ### What the rest of a run leaves alone -/

omit [Net σ] in
theorem writesOnly_during {α : Type} {act : Act σ Disk ServiceError α} (doing : String)
    (h : WritesOnly act) : WritesOnly (during doing act : Act σ Disk Failure α) := by
  have hduring : during doing act = Act.mapError (Failure.ofServicesIn doing) act := by
    funext w
    unfold during Act.mapError
    cases act w <;> rfl
  rw [hduring]
  exact writesOnly_mapError _ h

theorem writesOnly_answer (c : Command) (services : Services Node) (state : NodeState) :
    WritesOnly (answer c services state : Act σ Disk Failure (Services Node × String)) := by
  cases c with
  | sync =>
    exact writesOnly_bind (writesOnly_during _ services.writesOnly_sync) fun _ =>
      writesOnly_bind (writesOnly_mapError _ (writesOnly_ofExcept _)) fun _ => writesOnly_pure _
  | signMessage r =>
    exact writesOnly_bind (writesOnly_mapError _ (services.writesOnly_signMessage r)) fun _ =>
      writesOnly_pure _
  | checkMessage r =>
    exact writesOnly_bind (writesOnly_mapError _ (services.writesOnly_checkMessage r)) fun _ =>
      writesOnly_pure _
  | execute text =>
    exact writesOnly_bind (writesOnly_during _ (services.writesOnly_command text)) fun _ =>
      writesOnly_pure _
  | _ => exact writesOnly_pure _

theorem writesOnly_converseFrom (c : Command) (seed : Except Phrase.Error Bytes)
    (flow : FlowSettings) : WritesOnly (converseFrom c seed flow : Act σ Disk Failure String) := by
  cases seed with
  | error e => exact writesOnly_throw _
  | ok seed =>
    exact writesOnly_bind (writesOnly_during _ (Services.writesOnly_connect _ _)) fun _ =>
      writesOnly_bind (writesOnly_during _ (writesOnly_ofExcept _)) fun _ =>
        writesOnly_bind (writesOnly_answer c _ _) fun _ =>
          writesOnly_bind (writesOnly_mapError _ (Services.writesOnly_disconnect _)) fun _ =>
            writesOnly_pure _

/-- The log goes to no file, or to one at another place than a path leads to. -/
def LogsElsewhere (path : String) (s : Settings) (d : Disk) : Prop :=
  ∀ file, s.logging.file = some file → Program.placeOf d path ≠ Program.placeOf d file

variable {path : String} {s : Settings} {d d' : Disk}

theorem LogsElsewhere.of_current (h : LogsElsewhere path s d) (hd : d'.current = d.current) :
    LogsElsewhere path s d' := by
  intro file hfile
  rw [placeOf_congr hd, placeOf_congr hd]
  exact h file hfile

theorem retains_openLog (h : LogsElsewhere path s d) :
    Retains path d (storeOutcome (openLog s.logging.file) d).2 := by
  cases hfile : s.logging.file with
  | none => exact .refl path d
  | some file =>
    rw [openLog, storeOutcome_onDisk]
    exact retains_writeWith (distinct_of_place (h file hfile)) _

theorem retains_settle (h : LogsElsewhere path s d) (dataDir : String) :
    Retains path d (storeOutcome (settle dataDir s) d).2 := by
  have hopen := retains_openLog h
  unfold storeOutcome
  simp only [settle, bind, EStateM.bind, get_eq]
  cases s.registration d with
  | error e => exact .refl path d
  | ok registration =>
    cases ho : openLog s.logging.file d with
    | error f d1 =>
      rw [storeOutcome_of_error ho] at hopen
      simp only [EStateM.bind, ho]
      exact hopen
    | ok u d1 =>
      rw [storeOutcome_of_ok ho] at hopen
      simp only [EStateM.bind, ho]
      exact hopen

theorem retains_withConsole (h : LogsElsewhere path s d) (e : Exit) (shown : String) :
    Retains path d (e.withConsole s.logging.file shown d).2 := by
  unfold Exit.withConsole
  cases hfile : s.logging.file with
  | none => exact .refl path d
  | some file =>
    have happend : Retains path d (storeOutcome (append file (Text.Utf8.encode shown)) d).2 :=
      retains_writeWith (distinct_of_place (h file hfile)) _
    simp only
    cases ha : append file (Text.Utf8.encode shown) d with
    | error e d1 =>
      rw [storeOutcome_of_error ha] at happend
      exact happend
    | ok u d1 =>
      rw [storeOutcome_of_ok ha] at happend
      exact happend

theorem retains_converseOver {dataDir : String} {w : World σ Disk}
    (h : LogsElsewhere (phrasePath dataDir) s w.store) (inv : Invocation)
    (seed : Except Phrase.Error Bytes) :
    Retains (phrasePath dataDir) w.store (converseOver inv s seed w).2.store := by
  have hsettle := retains_settle h inv.dataDir
  unfold converseOver
  cases hs : settle inv.dataDir s w.store with
  | error f d =>
    rw [storeOutcome_of_error hs] at hsettle
    exact hsettle
  | ok flow d =>
    rw [storeOutcome_of_ok hs] at hsettle
    have hconverse := (writesOnly_converseFrom inv.command seed flow
      { w with store := d, journal := [] }).retains foreign_phrase dataDir
    have hall := hsettle.trans hconverse
    exact hall.trans (retains_withConsole (h.of_current hall.current) _ _)

/-- **The rest of a run leaves the phrase as it is.** -/
theorem retains_goOn {dataDir : String} {w : World σ Disk}
    (h : LogsElsewhere (phrasePath dataDir) s w.store) (inv : Invocation) (phrase : String) :
    Retains (phrasePath dataDir) w.store (goOn inv s phrase w).2.store := by
  have hlog : ∀ c, LogsElsewhere (phrasePath dataDir) (withOptions s c) w.store := by
    intro c
    cases c <;> exact h
  unfold goOn
  cases inv.command with
  | mnemonic => exact .refl _ _
  | _ => exact retains_converseOver (hlog _) inv (Phrase.toSeed phrase)

end HostedNode.Cli

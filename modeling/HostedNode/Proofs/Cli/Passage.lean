import HostedNode.Proofs.Cli.Phrase
import HostedNode.Rpc.Script

/-! # A phrase that is found stays

In the life of a data directory command lines are run, one after the other, and in between others
change the world, but for the phrase (`Passage`). A run heeds the phrase (`Stage.Heeds`): it goes on
with what is in the file, it fails if that cannot be read, and it makes a phrase only if there is no
file. And it leaves a phrase that is there as it is (`Stage.read_outcome`). By induction over the
passage all runs that get past reading the phrase have the same one, and all that connect do so with
the seed that it stands for (`found_phrase_stays`).

A new phrase is written in its place at once, and not beside it first. So it may be lost in two
ways (`phrase_lost_in_place`). A write that breaks off leaves the first part of a phrase, which all
later runs take for the phrase. And a path through a directory that is missing finds no file, but
may lead to one as soon as the directory is made: then the phrase there is replaced. This is why
below the file is meant by its path, and why a run that fails to make a phrase may leave something
in it. -/

namespace HostedNode.Cli

open Act Disk Rpc

theorem readText_of_notText {d : Disk} {path : String} {bs : Bytes} (h : d.read path = .ok bs)
    (hbs : Text.Utf8.decode? bs = none) : d.readText path = .error .notText := by
  unfold readText
  simp only [h, bind, Except.bind, hbs]
  rfl

theorem readText_eq_ok {d : Disk} {path text : String} :
    d.readText path = .ok text ↔
      ∃ bs, d.read path = .ok bs ∧ Text.Utf8.decode? bs = some text := by
  simp only [readText_eq_ok_iff, Text.Utf8.decode?_eq_some_iff, exists_eq_right]

/-- A command line that is run, and the world in which it is. -/
structure Stage (σ : Type) where
  around : Surroundings
  inv : Invocation
  world : World σ Disk

namespace Stage

variable {σ : Type} [Net σ]

/-- What the run comes to. -/
def outcome (s : Stage σ) : Exit × World σ Disk := run s.around s.inv s.world

/-- The settings of the run. -/
def settings (s : Stage σ) : Except Failure Settings := settingsOf s.around s.inv s.world.store

/-- What there is to read of the phrase when the run begins. -/
def text (s : Stage σ) : Except DiskError String :=
  s.world.store.readText (phrasePath s.inv.dataDir)

/-- The run needs the phrase of a data directory; there are random bytes enough for a new one, and
the log goes elsewhere. -/
structure Needs (dataDir : String) (s : Stage σ) : Prop where
  command : s.inv.command.needsPhrase = true
  directory : s.inv.dataDir = dataDir
  random : phraseLength / 3 * 4 ≤ s.around.random.length
  log : ∀ settings, s.settings = .ok settings →
    LogsElsewhere (phrasePath dataDir) settings s.world.store

/-- The run gets past reading the phrase, and goes on with this one. -/
def Uses (s : Stage σ) (phrase : String) : Prop :=
  ∃ settings d, s.settings = .ok settings ∧
    loadPhrase s.inv.dataDir s.around.random s.world.store = .ok phrase d ∧
    s.outcome = goOn s.inv settings phrase { s.world with store := d }

/-- The run gets as far as having a seed derived, and this is what it gets. -/
def Derives (s : Stage σ) (seed : Except ServiceError Bytes) : Prop :=
  s.inv.command.connects = true ∧ ∃ settings phrase flow d, s.settings = .ok settings ∧
    prepare s.around s.inv.dataDir (withOptions settings s.inv.command) s.world.store =
      .ok (phrase, flow) d ∧
    seed =
      (Act.outcome ((library (σ := σ)).seedOf phrase) { s.world with store := d, journal := [] }).1

/-- The run connects with a seed: once all is prepared, it is to connect with this seed, and with
nothing else that would depend on the phrase. Without a seed it fails. -/
def Connects (s : Stage σ) (seed : Except Phrase.Error Bytes) : Prop :=
  ∃ settings phrase flow d, s.settings = .ok settings ∧
    prepare s.around s.inv.dataDir (withOptions settings s.inv.command) s.world.store =
      .ok (phrase, flow) d ∧
    s.outcome = conclude (withOptions settings s.inv.command)
      (converseFrom s.inv.command seed flow) { s.world with store := d }

/-- How a run goes by the phrase. -/
structure Heeds (s : Stage σ) : Prop where
  /-- Without settings the phrase is not looked at. -/
  unsettled : ∀ f, s.settings = .error f → s.outcome = (.failed f, s.world)
  /-- What is in the file is what the run goes on with, but for blanks around it. -/
  reads : ∀ settings text, s.settings = .ok settings → s.text = .ok text →
    s.outcome = goOn s.inv settings (Text.trim text) s.world
  /-- A file that cannot be read ends the run. -/
  refuses : ∀ e, s.text = .error e → e ≠ .notFound → ∃ f, s.outcome = (.failed f, s.world)
  /-- If there is no file, the run goes on with a new phrase, which is in the file from then on, or
  fails since it cannot keep one. Then it leaves more directories at most, or else what was written
  of the phrase before the write broke off. -/
  creates : ∀ settings, s.settings = .ok settings → s.text = .error .notFound →
    (∃ f d, createPhrase s.inv.dataDir s.around.random s.world.store = .error f d ∧
      s.outcome = (.failed f, { s.world with store := d }) ∧
      Failed s.inv.dataDir s.world.store d) ∨
    ∃ phrase d, Phrase.IsPhrase phraseLength phrase ∧
      s.outcome = goOn s.inv settings phrase { s.world with store := d } ∧
      d.readText (phrasePath s.inv.dataDir) = .ok phrase ∧
      s.outcome.2.store.readText (phrasePath s.inv.dataDir) = .ok phrase
  /-- It can keep one if the directory can be made and the file be written. -/
  keeps : ∀ d p, (∀ m ∈ s.world.store.mishaps, m = none) →
    makeDirectories s.inv.dataDir s.world.store = .ok () d →
    d.fileToWrite (phrasePath s.inv.dataDir) = .ok p →
    ∃ phrase d', createPhrase s.inv.dataDir s.around.random s.world.store = .ok phrase d'
  /-- Only then does it matter which bytes nobody could foresee. -/
  foreseeable : s.text ≠ .error .notFound →
    ∀ random, run { s.around with random } s.inv s.world = s.outcome

variable {dataDir : String} {s : Stage σ}

/-! ### One run -/

theorem outcome_eq (h : s.Needs dataDir) :
    s.outcome = match s.settings with
      | .error f => (.failed f, s.world)
      | .ok settings =>
        match loadPhrase s.inv.dataDir s.around.random s.world.store with
        | .error f d => (.failed f, { s.world with store := d })
        | .ok phrase d => goOn s.inv settings phrase { s.world with store := d } :=
  run_eq h.command s.around s.world

/-- A phrase that was made is in its file when the run ends. -/
theorem readText_of_created {settings : Settings} {phrase : String} {d : Disk}
    (h : s.Needs dataDir) (hsettings : s.settings = .ok settings)
    (hcreated : Created s.inv.dataDir s.world.store (.ok phrase d)) :
    (goOn s.inv settings phrase { s.world with store := d }).2.store.readText
      (phrasePath s.inv.dataDir) = .ok phrase := by
  obtain ⟨-, hread, hcurrent⟩ := hcreated
  have hlog := (h.log settings hsettings).of_current hcurrent
  rw [← h.directory] at hlog
  obtain ⟨bs, hbs, htext⟩ := readText_eq_ok.mp hread
  have hkept := retains_goOn (w := { s.world with store := d }) hlog s.inv phrase
  exact readText_eq_ok.mpr ⟨bs, hkept.read bs hbs, htext⟩

/-- **A run heeds the phrase.** -/
theorem heeds (h : s.Needs dataDir) : s.Heeds where
  unsettled f hf := by
    rw [outcome_eq h, hf]
  reads settings text hsettings htext := by
    rw [outcome_eq h, hsettings]
    simp only [loadPhrase_of_text htext]
  refuses e htext he := by
    rw [outcome_eq h]
    cases s.settings with
    | error f => exact ⟨f, rfl⟩
    | ok settings =>
      refine ⟨.ofDiskIn ("failed to read " ++ phrasePath s.inv.dataDir) e, ?_⟩
      simp only [loadPhrase_of_unreadable htext he]
  creates settings hsettings htext := by
    have hcreated := created_createPhrase s.inv.dataDir h.random s.world.store
    have hout := outcome_eq h
    rw [hsettings] at hout
    simp only [loadPhrase_of_absent htext] at hout
    cases hc : createPhrase s.inv.dataDir s.around.random s.world.store with
    | error f d =>
      rw [hc] at hout hcreated
      exact Or.inl ⟨f, d, rfl, hout, hcreated⟩
    | ok phrase d =>
      rw [hc] at hout hcreated
      refine Or.inr ⟨phrase, d, hcreated.1, hout, hcreated.2.1, ?_⟩
      rw [hout]
      exact readText_of_created h hsettings hcreated
  keeps d p hcalm hmake hfile := createPhrase_of_calm h.random hcalm hmake hfile
  foreseeable htext random := by
    have hload : loadPhrase s.inv.dataDir random s.world.store =
        loadPhrase s.inv.dataDir s.around.random s.world.store := by
      cases ht : s.text with
      | ok text => rw [loadPhrase_of_text ht, loadPhrase_of_text ht]
      | error e =>
        have he : e ≠ .notFound := by
          rintro rfl
          exact htext ht
        rw [loadPhrase_of_unreadable ht he, loadPhrase_of_unreadable ht he]
    rw [outcome, run_eq h.command, run_eq h.command, hload]
    rfl

/-- **A run leaves a phrase that is there as it is.** -/
theorem read_outcome (h : s.Needs dataDir) {bs : Bytes}
    (hbs : s.world.store.read (phrasePath dataDir) = .ok bs) :
    s.outcome.2.store.read (phrasePath dataDir) = .ok bs := by
  have hheeds := heeds h
  obtain rfl := h.directory
  cases hsettings : s.settings with
  | error f => rwa [hheeds.unsettled f hsettings]
  | ok settings =>
    cases htext : Text.Utf8.decode? bs with
    | some text =>
      rw [hheeds.reads settings text hsettings (readText_eq_ok.mpr ⟨bs, hbs, htext⟩)]
      exact (retains_goOn (h.log settings hsettings) s.inv _).read bs hbs
    | none =>
      obtain ⟨f, hout⟩ := hheeds.refuses _ (readText_of_notText hbs htext) (by decide)
      rwa [hout]

/-- A run that found no file and still gets past reading the phrase has made it, and leaves it in
the file. -/
theorem text_of_absent (h : s.Needs dataDir) (htext : s.text = .error .notFound) {phrase : String}
    (huses : s.Uses phrase) : s.outcome.2.store.readText (phrasePath dataDir) = .ok phrase ∧
      Phrase.IsPhrase phraseLength phrase := by
  obtain ⟨settings, d, hsettings, hload, hout⟩ := huses
  obtain rfl := h.directory
  have hcreated := created_createPhrase s.inv.dataDir h.random s.world.store
  rw [loadPhrase_of_absent htext] at hload
  rw [hload] at hcreated
  rw [hout]
  exact ⟨readText_of_created h hsettings hcreated, hcreated.1⟩

/-- The phrase that a run goes on with is the text of the file when the run ends, but for blanks
around it. -/
theorem text_of_uses (h : s.Needs dataDir) {phrase : String} (huses : s.Uses phrase) :
    ∃ text, s.outcome.2.store.readText (phrasePath dataDir) = .ok text ∧
      Text.trim text = phrase := by
  cases htext : s.text with
  | ok text =>
    obtain ⟨settings, d, -, hload, -⟩ := huses
    obtain rfl := h.directory
    obtain ⟨bs, hbs, hdecode⟩ := readText_eq_ok.mp htext
    rw [loadPhrase_of_text htext] at hload
    exact ⟨text, readText_eq_ok.mpr ⟨bs, read_outcome h hbs, hdecode⟩,
      (EStateM.Result.ok.inj hload).1⟩
  | error e =>
    by_cases he : e = .notFound
    · rw [he] at htext
      obtain ⟨hread, hphrase⟩ := text_of_absent h htext huses
      exact ⟨phrase, hread, hphrase.trimmed⟩
    · obtain ⟨settings, d, -, hload, -⟩ := huses
      rw [loadPhrase_of_unreadable htext he] at hload
      cases hload

/-- A run that derives a seed has found a phrase, derives the seed of this phrase, and connects with
it. -/
theorem connects_of_derives (h : s.Needs dataDir) {seed : Except ServiceError Bytes}
    (hderives : s.Derives seed) : ∃ phrase, s.Uses phrase ∧
      seed = (Phrase.toSeed phrase).mapError .invalidMnemonic ∧
      s.Connects (Phrase.toSeed phrase) := by
  obtain ⟨hconnects, settings, phrase, flow, d, hsettings, hprepare, rfl⟩ := hderives
  have hout := outcome_eq h
  rw [hsettings] at hout
  have hsteps := hprepare
  rw [prepare_eq] at hsteps
  simp only [bind, EStateM.bind] at hsteps
  cases hload : loadPhrase s.inv.dataDir s.around.random s.world.store with
  | error f d1 => simp [hload] at hsteps
  | ok found d1 =>
    simp only [hload] at hsteps hout
    cases hsettle : settle s.inv.dataDir (withOptions settings s.inv.command) d1 with
    | error f d2 => simp [hsettle] at hsteps
    | ok known d2 =>
      simp only [hsettle, pure, EStateM.pure, EStateM.Result.ok.injEq, Prod.mk.injEq] at hsteps
      obtain ⟨⟨rfl, rfl⟩, rfl⟩ := hsteps
      refine ⟨found, ⟨settings, d1, hsettings, hload, hout⟩, ?_,
        settings, found, known, d2, hsettings, hprepare, ?_⟩
      · exact congrArg Prod.fst (outcome_ofExcept _ _)
      · rw [hout, goOn_of_connects hconnects, converseOver, hsettle]

end Stage

/-! ### A passage of runs -/

variable {σ : Type} [Net σ]

/-- A passage in the life of a data directory, from one world to another: runs that need its phrase,
in order, and in between others, who may do anything but change a phrase that is there. -/
inductive Passage (dataDir : String) : World σ Disk → List (Stage σ) → World σ Disk → Prop where
  | ends (w : World σ Disk) : Passage dataDir w [] w
  | others {w v w' : World σ Disk} {stages : List (Stage σ)} :
      (∀ bs, w.store.read (phrasePath dataDir) = .ok bs →
        v.store.read (phrasePath dataDir) = .ok bs) →
      Passage dataDir v stages w' → Passage dataDir w stages w'
  | runs {s : Stage σ} {w' : World σ Disk} {stages : List (Stage σ)} :
      s.Needs dataDir → Passage dataDir s.outcome.2 stages w' →
      Passage dataDir s.world (s :: stages) w'

namespace Passage

variable {dataDir : String} {w w' : World σ Disk} {stages : List (Stage σ)}

theorem needs (h : Passage dataDir w stages w') : ∀ s ∈ stages, s.Needs dataDir := by
  induction h with
  | ends w => exact fun _ hs => absurd hs List.not_mem_nil
  | others _ _ ih => exact ih
  | runs hneeds _ ih =>
    intro s hs
    rcases List.mem_cons.mp hs with rfl | hs
    · exact hneeds
    · exact ih s hs

/-- A phrase that is there stays there, through all runs and to the end. -/
theorem read (h : Passage dataDir w stages w') {bs : Bytes}
    (hbs : w.store.read (phrasePath dataDir) = .ok bs) :
    (∀ s ∈ stages, s.world.store.read (phrasePath dataDir) = .ok bs) ∧
      w'.store.read (phrasePath dataDir) = .ok bs := by
  induction h with
  | ends w => exact ⟨fun _ hs => absurd hs List.not_mem_nil, hbs⟩
  | others hothers _ ih => exact ih (hothers bs hbs)
  | runs hneeds _ ih =>
    obtain ⟨hrest, hend⟩ := ih (Stage.read_outcome hneeds hbs)
    refine ⟨fun s hs => ?_, hend⟩
    rcases List.mem_cons.mp hs with rfl | hs
    · exact hbs
    · exact hrest s hs

/-- What is in the file after a run is there in all later ones. -/
theorem lasting (h : Passage dataDir w stages w') :
    stages.Pairwise fun s s' => ∀ bs, s.outcome.2.store.read (phrasePath dataDir) = .ok bs →
      s'.world.store.read (phrasePath dataDir) = .ok bs := by
  induction h with
  | ends w => exact .nil
  | others _ _ ih => exact ih
  | runs _ hrest ih => exact .cons (fun s' hs' bs hbs => (hrest.read hbs).1 s' hs') ih

/-- A phrase that was made is read back by all later runs. -/
theorem readBack (h : Passage dataDir w stages w') :
    stages.Pairwise fun s s' => ∀ phrase, s.text = .error .notFound → s.Uses phrase →
      s'.text = .ok phrase := by
  have hneeds := h.needs
  refine h.lasting.imp_of_mem fun {s s'} hs hs' hlasting phrase htext huses => ?_
  have hread := (Stage.text_of_absent (hneeds s hs) htext huses).1
  obtain ⟨bs, hbs, hdecode⟩ := readText_eq_ok.mp hread
  rw [Stage.text, (hneeds s' hs').directory]
  exact readText_eq_ok.mpr ⟨bs, hlasting bs hbs, hdecode⟩

/-- The phrase that a run went on with is what the file says in the end, but for blanks around
it. -/
theorem text_of_uses (h : Passage dataDir w stages w') {s : Stage σ} (hs : s ∈ stages)
    {phrase : String} (huses : s.Uses phrase) :
    ∃ text, w'.store.readText (phrasePath dataDir) = .ok text ∧ Text.trim text = phrase := by
  induction h with
  | ends w => exact absurd hs List.not_mem_nil
  | others _ _ ih => exact ih hs
  | runs hneeds hrest ih =>
    rcases List.mem_cons.mp hs with rfl | hs
    · obtain ⟨text, htext, htrim⟩ := Stage.text_of_uses hneeds huses
      obtain ⟨bs, hbs, hdecode⟩ := readText_eq_ok.mp htext
      exact ⟨text, readText_eq_ok.mpr ⟨bs, (hrest.read hbs).2, hdecode⟩, htrim⟩
    · exact ih hs

end Passage

/-- What is true of a passage: its runs heed the phrase, one that is found stays, all that get past
reading it have the same one, and all that connect do so with its seed. -/
structure KeepsPhrase (dataDir : String) (w : World σ Disk) (stages : List (Stage σ))
    (w' : World σ Disk) : Prop where
  heeds : ∀ s ∈ stages, s.Heeds
  kept : ∀ bs, w.store.read (phrasePath dataDir) = .ok bs →
    (∀ s ∈ stages, s.world.store.read (phrasePath dataDir) = .ok bs) ∧
      w'.store.read (phrasePath dataDir) = .ok bs
  lasting : stages.Pairwise fun s s' =>
    ∀ bs, s.outcome.2.store.read (phrasePath dataDir) = .ok bs →
      s'.world.store.read (phrasePath dataDir) = .ok bs
  readBack : stages.Pairwise fun s s' => ∀ phrase, s.text = .error .notFound → s.Uses phrase →
    s'.text = .ok phrase
  /-- The phrase of a run is the trimmed text of the file, and stands for the same seed as it. -/
  phrase : ∀ s ∈ stages, ∀ phrase, s.Uses phrase →
    ∃ text, w'.store.readText (phrasePath dataDir) = .ok text ∧ phrase = Text.trim text ∧
      Phrase.toSeed phrase = Phrase.toSeed text
  /-- The seed that a run derives and connects with is that of the text of the file. -/
  seed : ∀ s ∈ stages, ∀ seed, s.Derives seed →
    ∃ text, w'.store.readText (phrasePath dataDir) = .ok text ∧
      seed = (Phrase.toSeed text).mapError .invalidMnemonic ∧ s.Connects (Phrase.toSeed text)
  same : ∀ s ∈ stages, ∀ s' ∈ stages, ∀ phrase phrase', s.Uses phrase → s'.Uses phrase' →
    phrase = phrase' ∧ Phrase.toSeed phrase = Phrase.toSeed phrase'
  sameSeed : ∀ s ∈ stages, ∀ s' ∈ stages, ∀ seed seed', s.Derives seed → s'.Derives seed' →
    seed = seed'

/-- **A phrase that is found stays**, whatever runs and however they end, and all runs derive and
use the one seed that it stands for. -/
theorem found_phrase_stays (σ : Type) [Net σ] (dataDir : String) (w w' : World σ Disk)
    (stages : List (Stage σ)) (h : Passage dataDir w stages w') :
    KeepsPhrase dataDir w stages w' := by
  have hseed : ∀ s ∈ stages, ∀ seed, s.Derives seed →
      ∃ text, w'.store.readText (phrasePath dataDir) = .ok text ∧
        seed = (Phrase.toSeed text).mapError .invalidMnemonic ∧
        s.Connects (Phrase.toSeed text) := by
    intro s hs seed hderives
    obtain ⟨phrase, huses, hderived, hconnects⟩ :=
      Stage.connects_of_derives (h.needs s hs) hderives
    obtain ⟨text, htext, rfl⟩ := h.text_of_uses hs huses
    rw [Phrase.toSeed_trim] at hderived hconnects
    exact ⟨text, htext, hderived, hconnects⟩
  constructor
  case heeds => exact fun s hs => Stage.heeds (h.needs s hs)
  case kept => exact fun bs hbs => h.read hbs
  case lasting => exact h.lasting
  case readBack => exact h.readBack
  case phrase =>
    intro s hs phrase huses
    obtain ⟨text, htext, rfl⟩ := h.text_of_uses hs huses
    exact ⟨text, htext, rfl, Phrase.toSeed_trim text⟩
  case seed => exact hseed
  case same =>
    intro s hs s' hs' phrase phrase' huses huses'
    obtain ⟨text, htext, rfl⟩ := h.text_of_uses hs huses
    obtain ⟨text', htext', rfl⟩ := h.text_of_uses hs' huses'
    rw [htext] at htext'
    obtain rfl := Except.ok.inj htext'
    exact ⟨rfl, rfl⟩
  case sameSeed =>
    intro s hs s' hs' seed seed' hderives hderives'
    obtain ⟨text, htext, rfl, -⟩ := hseed s hs seed hderives
    obtain ⟨text', htext', rfl, -⟩ := hseed s' hs' seed' hderives'
    rw [htext] at htext'
    obtain rfl := Except.ok.inj htext'
    rfl

/-- A directory `d` with a phrase in it that has blanks around it. -/
def kept : World Script Disk :=
  ⟨[], ⟨[(["d"], .directory), (["d", "phrase"], .file (Text.Utf8.encode " any text at all\n"))], [],
    []⟩, []⟩

/-- A run on this directory, with settings from a file that is not there. -/
def keptStage (c : Command) : Stage Script :=
  ⟨⟨none, none, List.replicate 16 0⟩, ⟨c, "d", some "c.toml"⟩, kept⟩

theorem found_phrase_stays_kept :
    KeepsPhrase "d" kept [keptStage .mnemonic, keptStage .nodeInfo]
      (keptStage .nodeInfo).outcome.2 := by
  have hread : kept.store.read (phrasePath "d") = .ok (Text.Utf8.encode " any text at all\n") :=
    read_eq_ok.mpr ⟨["d", "phrase"], by decide +kernel, rfl, by decide +kernel⟩
  have habsent : kept.store.readText "c.toml" = .error .notFound := by decide +kernel
  have hsettings : ∀ c, (keptStage c).settings = .ok default := by
    intro c
    show loadSettings kept.store "c.toml" = .ok default
    rw [loadSettings, Settings.loadOrDefault, Settings.load, habsent]
    rfl
  have hneeds : ∀ c, c.needsPhrase = true → (keptStage c).Needs "d" := by
    intro c hc
    refine ⟨hc, rfl, Nat.le_refl 16, fun settings hs file hfile => ?_⟩
    rw [hsettings] at hs
    obtain rfl := Except.ok.inj hs
    cases hfile
  have hsame : (keptStage .mnemonic).outcome.2 = kept := by
    have hout := (Stage.heeds (hneeds .mnemonic rfl)).reads _ _ (hsettings _)
      (readText_of_read hread)
    rw [hout]
    rfl
  have hrest : Passage "d" (keptStage .mnemonic).outcome.2 [keptStage .nodeInfo]
      (keptStage .nodeInfo).outcome.2 := by
    rw [hsame]
    exact .runs (hneeds .nodeInfo rfl) (.ends _)
  exact found_phrase_stays Script "d" kept _ _ (.runs (hneeds .mnemonic rfl) hrest)

/-! ### How a phrase is lost -/

/-- A command line that shows the phrase of a data directory, with settings from a file that is not
there. -/
def showPhrase (dataDir : String) (w : World Script Disk) : Exit × World Script Disk :=
  run ⟨none, none, List.replicate 16 0⟩ ⟨.mnemonic, dataDir, some "c.toml"⟩ w

/-- The bytes of a phrase that repeats a word and ends with another one. -/
def phraseOf (n : Nat) (last : String) : Bytes :=
  Text.Utf8.encode (" ".intercalate (List.replicate n "abandon" ++ [last]))

/-- A directory `d` with a phrase of 24 words in it. -/
def owned : World Script Disk :=
  ⟨[], ⟨[(["d"], .directory), (["d", "phrase"], .file (phraseOf 23 "art"))], [], []⟩, []⟩

/-- An empty directory `d`, on a disk where the next write breaks off. -/
def breaking : World Script Disk :=
  ⟨[], ⟨[(["d"], .directory)], [],
    [some ⟨.noSpace, some (Text.Utf8.encode "abandon abandon aba")⟩]⟩, []⟩

/-- **A phrase can be lost.** A run that is given the directory of a phrase by a way that is not
there yet makes the way, and puts a new phrase in the place of the one at its end. And where a write
breaks off, a run fails, and the next one takes what is left for the phrase. -/
theorem phrase_lost_in_place :
    (owned.store.read "d/phrase" = .ok (phraseOf 23 "art") ∧
      (showPhrase "new/../d" owned).1.code = 0 ∧
      (showPhrase "new/../d" owned).2.store.read "d/phrase" = .ok (phraseOf 11 "about")) ∧
    ((showPhrase "d" breaking).1.code = 1 ∧
      (showPhrase "d" (showPhrase "d" breaking).2).1 = .answered "abandon abandon aba\n") := by
  refine ⟨⟨?_, ?_, ?_⟩, ?_, ?_⟩ <;> decide +kernel

end HostedNode.Cli

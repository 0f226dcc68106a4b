import HostedNode.Proofs.Provider.Link
import HostedNode.Proofs.Secrets.Services
import HostedNode.Proofs.Secrets.Shown
import HostedNode.Proofs.Services.Live

/-! # Runs tell nothing of the secrets

Two runs that differ in the secrets alone, with a hosted node (`HostedStep`) or with services over
time (`SessionStep`), cannot be told apart: they reply the same but for issued and kept credentials,
log the same lines, raise the same events and send the same but for the secrets in headers and
parameters (`secrets_stay_covered`). What carries this is that every step covers itself, so that the
run over the covered world is the covered run (`HostedRun.serve_covered`,
`SessionRun.serve_covered`). -/

namespace HostedNode

open Act Rpc Text

/-! ### One step after the other -/

section

variable {S T R S' T' R' : Type}

/-- The replies to steps that are made one after the other, and what is left at the end. -/
def transcript (serve : S → T → R × S) (s : S) : List T → List R × S
  | [] => ([], s)
  | t :: ts =>
    ((serve s t).1 :: (transcript serve (serve s t).2 ts).1, (transcript serve (serve s t).2 ts).2)

/-- If each step goes as its image, so does the run. -/
theorem transcript_map {serve : S → T → R × S} {serve' : S' → T' → R' × S'} {s' : S → S'}
    {t' : T → T'} {r' : R → R'} (h : ∀ s t, serve' (s' s) (t' t) = Prod.map r' s' (serve s t))
    (s : S) (ts : List T) :
    transcript serve' (s' s) (ts.map t') =
      Prod.map (List.map r') s' (transcript serve s ts) := by
  induction ts generalizing s with
  | nil => rfl
  | cons t ts ih =>
    have hrest : (serve' (s' s) (t' t)).2 = s' (serve s t).2 := congrArg Prod.snd (h s t)
    have hreply : (serve' (s' s) (t' t)).1 = r' (serve s t).1 := congrArg Prod.fst (h s t)
    rw [List.map_cons, transcript, transcript, hrest, hreply, ih]
    rfl

end

/-! ### Other replies to come -/

/-- **Replies that are put into a covered script are put in covered.** -/
theorem override_coveredScript (s t : Script) :
    ScriptOf.override (coveredScript s) (coveredScript t) =
      coveredScript (ScriptOf.override s t) := by
  unfold ScriptOf.override
  rw [coveredScript.eq_def t, List.foldl_map]
  refine List.foldl_hom coveredScript fun s e => ?_
  obtain ⟨address, methods⟩ := e
  have hempty : (coveredMethods methods).isEmpty = methods.isEmpty := List.isEmpty_map
  have hmethods : ((List.lookup address (coveredScript s)).getD []) =
      coveredMethods ((List.lookup address s).getD []) := by
    rw [lookup_coveredScript]
    cases List.lookup address s <;> rfl
  dsimp only
  rw [hempty, hmethods]
  split
  · exact put_map (fun _ => coveredMethods) _ s
  · rw [coveredMethods, List.foldl_map]
    exact List.foldl_hom coveredScript fun s m => setReplies_coveredScript s address m.1 m.2

/-- The world with other replies to come. -/
def World.rescripted {κ : Type} (w : World Script κ) (script : Script) : World Script κ :=
  { w with net := ScriptOf.override w.net script }

theorem World.rescripted_covered {κ : Type} [HasSecrets κ] (w : World Script κ) (script : Script) :
    w.covered.rescripted (coveredScript script) = (w.rescripted script).covered := by
  have hnet : ScriptOf.override w.covered.net (coveredScript script) =
      coveredScript (ScriptOf.override w.net script) := override_coveredScript w.net script
  unfold rescripted
  rw [hnet]
  rfl

/-! ### A hosted node over time -/

/-- What is done with a hosted node over time. -/
inductive HostedStep where
  | connect (seed : Bytes)
  | tellKept
  | tellId
  | ask (request : NodeRequest)
  /-- Other replies are to come. -/
  | rescript (script : Script)

/-- A step with the secrets in the replies to come covered. -/
def HostedStep.covered : HostedStep → HostedStep
  | rescript script => rescript (coveredScript script)
  | step => step

/-- The reply to such a step. -/
inductive HostedReply where
  | connected (credentials : DeviceCredentials)
  | kept (credentials : Option StoredCredentials)
  | id (nodeId : String)
  | told (reply : NodeReply)
  | failed (cause : NodeError)
  /-- There is no node to ask. -/
  | absent
  | done

/-- A reply with the credentials in it covered. -/
def HostedReply.covered : HostedReply → HostedReply
  | connected c => connected c.covered
  | kept c => kept (c.map StoredCredentials.covered)
  | reply => reply

/-- A hosted node, if it was connected to, and the world. -/
structure HostedRun (κ : Type) where
  node : Option Node
  world : World Script κ

namespace HostedRun

variable {κ : Type}

/-- What connecting leaves: a node, if it succeeds. -/
def connected : Except NodeError Node × World Script κ → HostedReply × HostedRun κ
  | (.ok n, w) => (.connected n.credentials, ⟨some n, w⟩)
  | (.error e, w) => (.failed e, ⟨none, w⟩)

/-- What is told of the credentials that are kept. -/
def told : Except NodeError (Option StoredCredentials) → HostedReply
  | .ok c => .kept c
  | .error e => .failed e

/-- What is left by a request to a node. -/
def asked (out : NodeReply × Hosted Script κ) : HostedReply × HostedRun κ :=
  (.told out.1, ⟨some out.2.node, out.2.world⟩)

/-- A step with a node that may be there. -/
def serve [CredentialStore κ] (config : Config) (h : HostedRun κ) :
    HostedStep → HostedReply × HostedRun κ
  | .connect seed => connected ((Node.connect config seed).outcome h.world)
  | .tellKept => (told (CredentialStore.get h.world.store), h)
  | .tellId =>
    match h.node with
    | some n => (.id n.signer.nodeId, h)
    | none => (.absent, h)
  | .ask request =>
    match h.node with
    | some n => asked (Hosted.serve ⟨n, h.world⟩ request)
    | none => (.absent, h)
  | .rescript script => (.done, { h with world := h.world.rescripted script })

variable [HasSecrets κ]

/-- The node and the world with their secrets covered. -/
def covered (h : HostedRun κ) : HostedRun κ := ⟨h.node.map Node.covered, h.world.covered⟩

end HostedRun

namespace Hosted

variable {κ : Type} [HasSecrets κ]

/-- A node in its world with the secrets of both covered. -/
def covered (h : Hosted Script κ) : Hosted Script κ := ⟨h.node.covered, h.world.covered⟩

theorem told_covered {α : Type} (n : Node) (reply : α → NodeReply)
    (out : Except NodeError α × World Script κ) :
    told n.covered reply (out.1.map id, out.2.covered) =
      Prod.map id covered (told n reply out) := by
  rcases out with ⟨_ | _, _⟩ <;> rfl

theorem restarted_covered (n : Node) (out : Except NodeError Node × World Script κ) :
    restarted n.covered (out.1.map Node.covered, out.2.covered) =
      Prod.map id covered (restarted n out) := by
  rcases out with ⟨_ | _, _⟩ <;> rfl

/-- **A request is served in the same way whatever the secrets are.** -/
theorem serve_covered (h : Hosted Script κ) (request : NodeRequest) :
    h.covered.serve request = Prod.map id covered (h.serve request) := by
  obtain ⟨n, w⟩ := h
  cases request with
  | start =>
    have hstart := covers_iff.mp n.covers_start w
    exact (congrArg (restarted n.covered) hstart).trans (restarted_covered n _)
  | pull =>
    have hpull := covers_iff.mp n.covers_pull w
    exact (congrArg (told n.covered NodeReply.state) hpull).trans (told_covered n _ _)
  | command text =>
    have hserve : ∀ h : Hosted Script κ, h.serve (.command text) =
      told h.node .answer ((h.node.command text).outcome h.world) := fun _ => rfl
    have hcommand := covers_iff.mp (n.covers_command text) w
    rw [hserve, hserve]
    exact (congrArg (told n.covered NodeReply.answer) hcommand).trans (told_covered n _ _)
  | sign message =>
    have hsigned : n.covered.signMessage message = n.signMessage message := by
      rw [Node.signMessage, Node.signMessage]
      rfl
    exact Prod.ext (congrArg NodeReply.signed hsigned) rfl
  | check message key signature =>
    unfold serve
    dsimp only [covered]
    cases Node.checkMessage message key signature <;> rfl

end Hosted

namespace HostedRun

variable {κ : Type} [HasSecrets κ] [CredentialStore κ] [CoveredStore κ]

omit [CredentialStore κ] [CoveredStore κ] in
theorem connected_covered (out : Except NodeError Node × World Script κ) :
    connected (out.1.map Node.covered, out.2.covered) =
      Prod.map HostedReply.covered covered (connected out) := by
  rcases out with ⟨_ | _, _⟩ <;> rfl

theorem told_covered (kept : Except NodeError (Option StoredCredentials)) :
    told (kept.map (Option.map StoredCredentials.covered)) = (told kept).covered := by
  cases kept <;> rfl

/-- **A step goes in the same way whatever the secrets are.** -/
theorem serve_covered (config : Config) (h : HostedRun κ) (step : HostedStep) :
    h.covered.serve config.covered step.covered =
      Prod.map HostedReply.covered covered (h.serve config step) := by
  obtain ⟨node, w⟩ := h
  cases step with
  | connect seed =>
    have hconnect := covers_iff.mp (Node.covers_connect (κ := κ) config seed) w
    exact (congrArg connected hconnect).trans (connected_covered _)
  | tellKept =>
    have hget := CoveredStore.get w.store
    exact Prod.ext ((congrArg told hget).trans (told_covered _)) rfl
  | tellId => cases node <;> rfl
  | ask request =>
    cases node with
    | none => rfl
    | some n =>
      exact congrArg asked (Hosted.serve_covered ⟨n, w⟩ request)
  | rescript script =>
    exact Prod.ext rfl (congrArg (HostedRun.mk _) (w.rescripted_covered script))

/-- Steps that are made one after the other, from no node on. -/
def run (config : Config) (w : World Script κ) (steps : List HostedStep) :
    List HostedReply × HostedRun κ := transcript (serve config) ⟨none, w⟩ steps

/-- **A run goes in the same way whatever the secrets are.** -/
theorem run_covered (config : Config) (w : World Script κ) (steps : List HostedStep) :
    run config.covered w.covered (steps.map HostedStep.covered) =
      Prod.map (List.map HostedReply.covered) covered (run config w steps) :=
  transcript_map (serve_covered config) ⟨none, w⟩ steps

end HostedRun

/-! ### Services over time -/

/-- What is done with services over time. -/
inductive SessionStep where
  /-- Services are built, over the storage of a directory if one is given. -/
  | connect (seed : Bytes) (directory : Option String)
  | tellId
  | ask (request : ServiceRequest)
  | drop
  | advance (milliseconds : Nat)
  /-- Other replies are to come. -/
  | rescript (script : Script)

/-- A step with the secrets in the replies to come covered. -/
def SessionStep.covered : SessionStep → SessionStep
  | rescript script => rescript (coveredScript script)
  | step => step

/-- A reply to a request, or none if there are no services to reply. -/
abbrev SessionReply := Option ServiceReply

namespace Session

/-- The storage of a directory, if one is given. -/
def given : Option String → Act Script Disk ServiceError (Option Storage)
  | none => pure none
  | some directory => do return some (← Storage.openIn directory)

/-- What comes of building services. -/
def built : Except ServiceError Unit → ServiceReply
  | .ok _ => .done
  | .error e => .failed e

/-- What comes of a request to the services that are running. -/
def ask (s : Session Node) (r : Running Node) :
    ServiceRequest → Act Script Disk ServiceError (SessionReply × Session Node)
  | .sync => do
    let services ← r.services.sync
    return (some .done, { s with running := some { r with services } })
  | .disconnect => do return (some .done, ← s.disconnect r)
  | .tellState => do return (some (.state (← Act.ofExcept r.services.nodeInfo)), s)
  | .sign request => do return (some (.signed (← r.services.signMessage request)), s)
  | .check request => do return (some (.checked (← r.services.checkMessage request)), s)
  | .command text => do return (some (.answer (← r.services.command text)), s)

/-- A step of a session. -/
def act (config : Config) (s : Session Node) :
    SessionStep → Act Script Disk ServiceError (SessionReply × Session Node)
  | .connect seed directory => do
    let storage ← given directory
    let out ← s.connect config (Services.build (Node.connect config seed) config seed storage)
    return (some (built out.1), out.2)
  | .tellId => pure (s.running.map fun r => .answer r.services.node.signer.nodeId, s)
  | .ask request =>
    match s.running with
    | some r => s.ask r request
    | none => pure (none, s)
  | .drop => do return (s.running.map fun _ => .done, ← s.drop)
  | .advance milliseconds => do return (some .done, ← s.advance milliseconds)
  | .rescript script => do
    modify (·.rescripted script)
    return (some .done, s)

variable (s : Session Node)

theorem covers_given (directory : Option String) :
    Covers (Option.map Storage.covered) (given directory) (given directory) := by
  cases directory with
  | none => exact covers_pure (Option.map Storage.covered) none
  | some directory =>
    exact covers_bind (Storage.covers_openIn directory) fun storage =>
      covers_pure (Option.map Storage.covered) (some storage)

theorem covers_ask (r : Running Node) (request : ServiceRequest) :
    Covers (Prod.map id covered) (s.ask r request)
      (s.covered.ask { r with services := r.services.covered } request) := by
  cases request with
  | sync =>
    exact covers_bind r.services.covers_sync fun _ => covers_pure (Prod.map id covered) _
  | disconnect =>
    exact covers_bind (s.covers_disconnect r) fun _ => covers_pure (Prod.map id covered) _
  | tellState =>
    exact covers_bind (covers_result r.services.nodeInfo) fun _ =>
      covers_pure (Prod.map id covered) _
  | sign request =>
    exact covers_bind (r.services.covers_signMessage request) fun _ =>
      covers_pure (Prod.map id covered) _
  | check request =>
    exact covers_bind (r.services.covers_checkMessage request) fun _ =>
      covers_pure (Prod.map id covered) _
  | command text =>
    exact covers_bind (r.services.covers_command text) fun _ => covers_pure (Prod.map id covered) _

theorem covers_rescript (script : Script) :
    Covers id (modify (·.rescripted script) : Act Script Disk ServiceError Unit)
      (modify (·.rescripted (coveredScript script))) := by
  rw [covers_iff]
  exact fun w => Prod.ext rfl (w.rescripted_covered script)

/-- **A step of a session covers itself.** -/
theorem covers_act (config : Config) (step : SessionStep) :
    Covers (Prod.map id covered) (s.act config step)
      (s.covered.act config.covered step.covered) := by
  cases step with
  | connect seed directory =>
    exact covers_bind (covers_given directory) fun storage =>
      covers_bind (s.covers_connect config (Services.covers_build config seed storage)) fun _ =>
      covers_pure (Prod.map id covered) _
  | tellId =>
    obtain ⟨_ | r, now⟩ := s
    · exact covers_pure (Prod.map id covered) _
    · exact covers_pure (Prod.map id covered) _
  | ask request =>
    obtain ⟨_ | r, now⟩ := s
    · exact covers_pure (Prod.map id covered) _
    · exact covers_ask _ r request
  | drop =>
    have hreply : (s.covered.running.map fun _ => ServiceReply.done) =
        s.running.map fun _ => ServiceReply.done := by
      obtain ⟨_ | r, now⟩ := s <;> rfl
    have hdrop : SessionStep.drop.covered = .drop := rfl
    unfold act
    rw [hdrop, hreply]
    exact covers_bind s.covers_drop fun _ => covers_pure (Prod.map id covered) _
  | advance milliseconds =>
    exact covers_bind (s.covers_advance milliseconds) fun _ => covers_pure (Prod.map id covered) _
  | rescript script =>
    exact covers_bind (covers_rescript script) fun _ => covers_pure (Prod.map id covered) _

end Session

/-- A session and the world that its services run in. -/
structure SessionRun where
  session : Session Node
  world : World Script Disk

namespace SessionRun

/-- What comes of a step: if it fails, the session is as it was. -/
def settle (before : Session Node) :
    Except ServiceError (SessionReply × Session Node) × World Script Disk →
      SessionReply × SessionRun
  | (.ok out, w) => (out.1, ⟨out.2, w⟩)
  | (.error e, w) => (some (.failed e), ⟨before, w⟩)

/-- A step. -/
def serve (config : Config) (run : SessionRun) (step : SessionStep) : SessionReply × SessionRun :=
  settle run.session ((run.session.act config step).outcome run.world)

/-- The session and the world with their secrets covered. -/
def covered (run : SessionRun) : SessionRun := ⟨run.session.covered, run.world.covered⟩

/-- **A step goes in the same way whatever the secrets are.** -/
theorem serve_covered (config : Config) (run : SessionRun) (step : SessionStep) :
    run.covered.serve config.covered step.covered =
      Prod.map id covered (run.serve config step) := by
  have hact := covers_iff.mp (run.session.covers_act config step) run.world
  refine (congrArg (settle run.session.covered) hact).trans ?_
  unfold serve
  rcases (run.session.act config step).outcome run.world with ⟨_ | _, _⟩ <;> rfl

/-- Steps that are made one after the other, from no services on. -/
def run (config : Config) (w : World Script Disk) (steps : List SessionStep) :
    List SessionReply × SessionRun := transcript (serve config) ⟨Session.start, w⟩ steps

/-- **A run goes in the same way whatever the secrets are.** -/
theorem run_covered (config : Config) (w : World Script Disk) (steps : List SessionStep) :
    run config.covered w.covered (steps.map SessionStep.covered) =
      Prod.map (List.map id) covered (run config w steps) :=
  transcript_map (serve_covered config) ⟨Session.start, w⟩ steps

end SessionRun

/-! ### What a world shows -/

/-- What two worlds show is the same: the lines that were logged, the events, and what was sent, but
for the secrets in it. -/
structure World.ShowsSame {κ κ' : Type} (w : World Script κ) (w' : World Script κ') : Prop where
  logs : w.logs = w'.logs
  events : w.events = w'.events
  traffic : w.traffic.map Happening.covered = w'.traffic.map Happening.covered

namespace World

variable {κ : Type} [HasSecrets κ] (w : World Script κ)

theorem logs_covered : w.covered.logs = w.logs := by
  have hentry : Happening.entry? ∘ Happening.covered = Happening.entry? := by
    funext h
    cases h <;> rfl
  rw [logs, covered, List.filterMap_map, hentry]
  rfl

theorem events_covered : w.covered.events = w.events := by
  have hevent : Happening.event? ∘ Happening.covered = Happening.event? := by
    funext h
    cases h <;> rfl
  rw [events, covered, List.filterMap_map, hevent]
  rfl

theorem traffic_covered : w.covered.traffic = w.traffic.map Happening.covered := by
  have htraffic : Happening.isTraffic ∘ Happening.covered = Happening.isTraffic := by
    funext h
    cases h <;> rfl
  rw [traffic, covered, List.filter_map, htraffic]
  rfl

/-- Worlds that are the same but for the secrets show the same. -/
theorem showsSame_of_covered {w w' : World Script κ} (h : w.covered = w'.covered) :
    w.ShowsSame w' where
  logs := by rw [← w.logs_covered, h, w'.logs_covered]
  events := by rw [← w.events_covered, h, w'.events_covered]
  traffic := by rw [← w.traffic_covered, h, w'.traffic_covered]

end World

/-! ### Two runs -/

/-- **Secrets stay covered.** Two runs with a hosted node, and two runs of services over time, that
differ in nothing but the key of the user, the credentials of the partner, those that are kept and
those that replies issue, reply the same but for credentials, and their worlds show the same: the
same lines and events, and the same traffic but for the headers and the parameters that hold
secrets. Shown forms tell of credentials how long the certificate is and nothing else. -/
theorem secrets_stay_covered {config config' : Config} (hconfig : config.covered = config'.covered)
    {w w' : World Script CredentialSlot} (hw : w.covered = w'.covered)
    {steps steps' : List HostedStep}
    (hsteps : steps.map HostedStep.covered = steps'.map HostedStep.covered)
    {v v' : World Script Disk} (hv : v.covered = v'.covered)
    {acts acts' : List SessionStep}
    (hacts : acts.map SessionStep.covered = acts'.map SessionStep.covered) :
    ((HostedRun.run config w steps).1.map HostedReply.covered =
        (HostedRun.run config' w' steps').1.map HostedReply.covered ∧
      (HostedRun.run config w steps).2.world.ShowsSame
        (HostedRun.run config' w' steps').2.world) ∧
    ((SessionRun.run config v acts).1 = (SessionRun.run config' v' acts').1 ∧
      (SessionRun.run config v acts).2.world.ShowsSame (SessionRun.run config' v' acts').2.world) ∧
    (∀ c c' : DeviceCredentials, c.masked = c'.masked → shown c = shown c') ∧
    (∀ r r' : Registration, r.masked = r'.masked → shown r = shown r') ∧
    (∀ c c' : NodeConfig, c.masked = c'.masked → shown c = shown c') ∧
    (∀ s s' : StoredCredentials, s.masked = s'.masked → shown s = shown s') ∧
    (∀ c c' : Config, c.masked = c'.masked → shown c = shown c') ∧
    (∀ r r' : ConnectRequest, r.masked = r'.masked → shown r = shown r') := by
  have hhosted : Prod.map (List.map HostedReply.covered) HostedRun.covered
        (HostedRun.run config w steps) =
      Prod.map (List.map HostedReply.covered) HostedRun.covered
        (HostedRun.run config' w' steps') := by
    rw [← HostedRun.run_covered, ← HostedRun.run_covered, hconfig, hw, hsteps]
  have hsession : Prod.map (List.map id) SessionRun.covered (SessionRun.run config v acts) =
      Prod.map (List.map id) SessionRun.covered (SessionRun.run config' v' acts') := by
    rw [← SessionRun.run_covered, ← SessionRun.run_covered, hconfig, hv, hacts]
  obtain ⟨hhostedReplies, hhostedRun⟩ := Prod.mk.inj hhosted
  obtain ⟨hsessionReplies, hsessionRun⟩ := Prod.mk.inj hsession
  rw [List.map_id, List.map_id] at hsessionReplies
  refine ⟨⟨hhostedReplies, World.showsSame_of_covered (congrArg HostedRun.world hhostedRun)⟩,
    ⟨hsessionReplies, World.showsSame_of_covered (congrArg SessionRun.world hsessionRun)⟩,
    fun c c' h => ?_, fun r r' h => ?_, fun c c' h => ?_, fun s s' h => ?_, fun c c' h => ?_,
    fun r r' h => ?_⟩
  · rw [← c.shown_masked, h, c'.shown_masked]
  · rw [← r.shown_masked, h, r'.shown_masked]
  · rw [← c.shown_masked, h, c'.shown_masked]
  · rw [← s.shown_masked, h, s'.shown_masked]
  · rw [← c.shown_masked, h, c'.shown_masked]
  · rw [← r.shown_masked, h, r'.shown_masked]

/-- Credentials that are a secret twice over. -/
def secretCredentials (secret : String) : DeviceCredentials :=
  ⟨Utf8.encode secret, Utf8.encode secret⟩

/-- A configuration with a secret as the key of the user and the credentials of the partner. -/
def secretConfig (secret : String) : Config :=
  { (default : Config) with
    apiKey := some secret
    nodeConfig := .greenlight ⟨some (secretCredentials secret), none⟩ }

/-- A script in which the credentials of a new node are a secret. -/
def secretScript (secret : String) : Script :=
  [("", [("get_challenge", [.ok (.obj [("challenge", .str "00")])]),
    ("register", [.ok (.obj [("device_cert", .str secret), ("device_key", .str secret)])])])]

/-- A disk with a storage that keeps a secret for the credentials. -/
def secretDisk (secret : String) : Disk :=
  ⟨[(["storage.json"], .file
    (StorageData.document ⟨some ⟨secretCredentials secret, ""⟩, none⟩))], [], []⟩

theorem secretDisk_covered (secret secret' : String) :
    (HasSecrets.covered (secretDisk secret) : Disk) = HasSecrets.covered (secretDisk secret') := by
  have hfile : ∀ secret, coveredFile
      (StorageData.document ⟨some ⟨secretCredentials secret, ""⟩, none⟩) =
      StorageData.document ⟨some ⟨⟨[], []⟩, ""⟩, none⟩ := fun _ => coveredFile_document _
  show Disk.mapFiles coveredFile (secretDisk secret) =
    Disk.mapFiles coveredFile (secretDisk secret')
  simp only [Disk.mapFiles, secretDisk, List.map_cons, List.map_nil, DiskEntry.mapFile, hfile]

/-- A node is connected to, and started. -/
def firstSteps : List HostedStep :=
  [.connect (List.replicate minSeedLength 0), .tellKept, .ask .start]

/-- Services are built over the storage on the disk, then over a new one, and synced. -/
def firstActs : List SessionStep :=
  [.connect (List.replicate minSeedLength 0) (some ""),
    .connect (List.replicate minSeedLength 0) (some "/new"), .ask .sync]

theorem secrets_stay_covered_secret :
    secretConfig "a" ≠ secretConfig "b" ∧
    (HostedRun.run (secretConfig "a") ⟨secretScript "a", (default : CredentialSlot), []⟩
        firstSteps).2.world.ShowsSame
      (HostedRun.run (secretConfig "b") ⟨secretScript "b", (default : CredentialSlot), []⟩
        firstSteps).2.world ∧
    (SessionRun.run (secretConfig "a") ⟨secretScript "a", secretDisk "a", []⟩ firstActs).1 =
      (SessionRun.run (secretConfig "b") ⟨secretScript "b", secretDisk "b", []⟩ firstActs).1 := by
  have hdiffer : secretConfig "a" ≠ secretConfig "b" := fun h =>
    absurd (congrArg Config.apiKey h) (by decide)
  have hconfig : (secretConfig "a").covered = (secretConfig "b").covered := rfl
  have hw : World.covered ⟨secretScript "a", (default : CredentialSlot), []⟩ =
    World.covered ⟨secretScript "b", (default : CredentialSlot), []⟩ := rfl
  have hsteps : firstSteps.map HostedStep.covered = firstSteps.map HostedStep.covered := rfl
  have hv : World.covered ⟨secretScript "a", secretDisk "a", []⟩ =
      World.covered ⟨secretScript "b", secretDisk "b", []⟩ := by
    unfold World.covered
    dsimp only
    rw [secretDisk_covered "a" "b"]
    rfl
  have hacts : firstActs.map SessionStep.covered = firstActs.map SessionStep.covered := rfl
  have hsame := secrets_stay_covered hconfig hw hsteps hv hacts
  exact ⟨hdiffer, hsame.1.2, hsame.2.1.1⟩

end HostedNode

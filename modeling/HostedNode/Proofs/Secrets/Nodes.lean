import HostedNode.Proofs.Secrets.Records
import HostedNode.Proofs.Secrets.Stores
import HostedNode.Provider.Node

/-! # A hosted node with its secrets covered

Whatever is done with a hosted node covers itself: connecting to it (`Node.covers_connect`),
starting it (`Node.covers_start`), pulling its state (`Node.covers_pull`) and putting commands to it
(`Node.covers_command`). A node with its secrets covered sends the headers and the parameters of the
node, covered. -/

namespace HostedNode

open Act Json Rpc Text

variable {κ : Type} [HasSecrets κ]

/-! ### The scheduler -/

/-- A scheduler with the secrets in its connection covered. -/
def Scheduler.covered (s : Scheduler) : Scheduler := { s with connection := s.connection.covered }

namespace Scheduler

/-- Asking the scheduler covers itself, if the answer is read with its secrets covered as it is
without. -/
theorem covers_ask {α : Type} {c : α → α} (s : Scheduler) (method : String) (params : Json)
    (answer : Decoder α)
    (h : ∀ v, decode answer (coveredAnswer method v) = (decode answer v).map c) :
    Covers c (s.ask method params answer : Act Script κ NodeError α)
      (s.covered.ask method (coveredParam params) answer) := by
  refine covers_bind (covers_mapError _ (covers_call s.connection method [params])) fun v =>
    covers_ofExcept ?_
  rw [h]
  cases decode answer v <;> rfl

/-- Asking for something that is no secret. -/
theorem covers_ask_plain {α : Type} (s : Scheduler) {method : String}
    (hmethod : method ∉ issuingMethods) {fs : List (String × Json)}
    (hparams : ∀ f ∈ fs, f.1 ∉ secretParams) (answer : Decoder α) :
    Covers id (s.ask method (Json.object fs) answer : Act Script κ NodeError α)
      (s.covered.ask method (Json.object fs) answer) := by
  have hcovered : coveredParam (Json.object fs) = Json.object fs := by
    rw [coveredParam_object, coveredFields_of_notMem hparams]
  have hask := covers_ask (κ := κ) (c := id) s method (Json.object fs) answer fun v => by
    rw [coveredAnswer_of_notMem hmethod, id, Except.map_id, id]
  rwa [hcovered] at hask

theorem covers_challenge (s : Scheduler) (nodeId : String) (scope : ChallengeScope) :
    Covers id (s.challenge nodeId scope : Act Script κ NodeError Bytes)
      (s.covered.challenge nodeId scope) := by
  exact covers_bind (covers_ask_plain s (by decide) (by simp [secretParams]) challengeAnswer)
    fun _ => covers_result _

/-- **An exchange covers itself: it sends the fields covered and issues covered credentials.** -/
theorem covers_exchange (s : Scheduler) (signer : Signer) (scope : ChallengeScope) (doing : String)
    (more : List (String × Json)) :
    Covers DeviceCredentials.covered
      (s.exchange signer scope doing more : Act Script κ NodeError DeviceCredentials)
      (s.covered.exchange signer scope doing (coveredFields secretParams more)) := by
  refine covers_bind (covers_challenge s signer.nodeId scope) fun c =>
    covers_bind (covers_log _ _) fun _ => ?_
  have hproof : coveredFields secretParams (s.proof signer c ++ more) =
      s.proof signer c ++ coveredFields secretParams more := by
    have hplain : ∀ f ∈ s.proof signer c, f.1 ∉ secretParams := by
      simp [proof, secretParams]
    rw [coveredFields_append, coveredFields_of_notMem hplain]
  have hissuing : scope.name ∈ issuingMethods := by cases scope <;> decide
  have hask := covers_ask (κ := κ) s scope.name (Json.object (s.proof signer c ++ more))
    credentialsAnswer fun v => by rw [coveredAnswer, if_pos hissuing, decode_coveredIssue]
  rw [coveredParam_object, hproof] at hask
  exact hask

theorem entitlement_covered (r : Registration) :
    entitlement r.covered = coveredFields secretParams (entitlement r) := by
  have hempty : Utf8.decodeLossy [] = "" := by decide +kernel
  obtain ⟨_ | p, _ | c⟩ := r
  · rfl
  · rfl
  all_goals
    simp only [entitlement, Registration.covered, DeviceCredentials.covered, Option.map_some,
      hempty]
    rfl

theorem covers_register (s : Scheduler) (signer : Signer) (r : Registration) :
    Covers DeviceCredentials.covered
      (s.register signer r : Act Script κ NodeError DeviceCredentials)
      (s.covered.register signer r.covered) := by
  have hfault : registrationFault? r.covered = registrationFault? r := by
    obtain ⟨_ | p, _ | c⟩ := r <;> rfl
  have hentitled := entitlement_covered r
  unfold register
  rw [hfault]
  cases registrationFault? r with
  | some e => exact covers_throw _ _
  | none =>
    rw [hentitled]
    exact covers_exchange s signer .register "registering" (entitlement r)

theorem covers_recover (s : Scheduler) (signer : Signer) :
    Covers DeviceCredentials.covered
      (s.recover signer : Act Script κ NodeError DeviceCredentials) (s.covered.recover signer) :=
  covers_exchange s signer .recover "recovering" []

theorem covers_schedule (s : Scheduler) (nodeId : String) :
    Covers id (s.schedule nodeId : Act Script κ NodeError String) (s.covered.schedule nodeId) := by
  refine covers_bind (covers_ask_plain s (by decide) (by simp [secretParams]) scheduleAnswer)
    fun uri => ?_
  unfold id
  split
  · exact covers_throw _ _
  · exact covers_bind (covers_log _ _) fun _ => covers_pure _ _

end Scheduler

/-! ### Connecting -/

/-- A node with the secrets that it has covered. -/
def Node.covered (n : Node) : Node :=
  { n with
    config := n.config.covered
    credentials := n.credentials.covered
    scheduler := n.scheduler.covered
    link := n.link.map Connection.covered }

namespace Node

theorem schedulerConnection_covered (config : Config) :
    schedulerConnection config.covered = (schedulerConnection config).covered := by
  unfold schedulerConnection
  have hkey : config.covered.apiKey = config.apiKey.map fun _ => "" := rfl
  rw [hkey]
  cases config.apiKey <;> rfl

theorem covers_issued (s : Scheduler) (signer : Signer) (r : Registration) :
    Covers DeviceCredentials.covered
      (issued s signer r : Act Script κ NodeError DeviceCredentials)
      (issued s.covered signer r.covered) := by
  refine covers_bind (covers_log _ _) fun _ =>
    covers_bind (covers_attempt (s.covers_recover signer)) fun result => ?_
  rcases result with e | c
  · have hregister : Covers DeviceCredentials.covered
        (do
          log .info ("Failed to recover node (" ++ e.message ++ "), registering new one")
          s.register signer r : Act Script κ NodeError DeviceCredentials)
        (do
          log .info ("Failed to recover node (" ++ e.message ++ "), registering new one")
          s.covered.register signer r.covered) :=
      covers_bind (covers_log _ _) fun _ => s.covers_register signer r
    cases e with
    | connectivity m => exact covers_throw _ _
    | _ => exact hregister
  · exact covers_pure _ c

theorem covers_resolve (s : Scheduler) (signer : Signer) (r : Registration)
    (kept : Option StoredCredentials) :
    Covers DeviceCredentials.covered
      (resolve s signer r kept : Act Script κ NodeError DeviceCredentials)
      (resolve s.covered signer r.covered (kept.map StoredCredentials.covered)) := by
  cases kept with
  | none => exact covers_issued s signer r
  | some k =>
    unfold resolve
    have hseed : k.covered.seedFingerprint = k.seedFingerprint := rfl
    simp only [Option.map_some, hseed]
    split
    · exact covers_bind (covers_log _ _) fun _ => covers_pure _ k.credentials
    · exact covers_throw _ _

section

variable [CredentialStore κ] [CoveredStore κ]

theorem covers_keptCredentials :
    Covers (Option.map StoredCredentials.covered)
      (keptCredentials : Act Script κ NodeError (Option StoredCredentials)) keptCredentials := by
  rw [covers_iff]
  intro w
  unfold keptCredentials
  rw [outcome_bind, outcome_bind, outcome_get, outcome_get]
  dsimp only
  rw [outcome_ofExcept, outcome_ofExcept]
  exact Prod.ext (CoveredStore.get w.store) rfl

/-- **Connecting to a node covers itself.** -/
theorem covers_connect (config : Config) (seed : Bytes) :
    Covers covered (connect config seed : Act Script κ NodeError Node)
      (connect config.covered seed) := by
  have hconnection := schedulerConnection_covered config
  unfold connect
  rw [hconnection]
  refine covers_bind (covers_result _) fun signer =>
    covers_bind (covers_mapError _ (covers_openConnection _)) fun _ =>
    covers_bind covers_keptCredentials fun kept =>
    covers_bind (covers_resolve _ signer config.nodeConfig.registration kept) fun c =>
    covers_bind (covers_onStore (CoveredStore.set ⟨c, signer.seedFingerprint⟩)) fun _ =>
    covers_pure covered _

end

/-! ### Starting and asking -/

theorem linkOptions_covered (n : Node) : n.covered.linkOptions = n.linkOptions.covered := by
  have hempty : Hex.encode [] = "" := by decide +kernel
  unfold linkOptions
  simp only [covered, DeviceCredentials.covered, hempty]
  rfl

theorem covers_start (n : Node) :
    Covers covered (n.start : Act Script κ NodeError Node) n.covered.start := by
  refine covers_bind (n.scheduler.covers_schedule n.signer.nodeId) fun uri => ?_
  have hlink : (⟨id uri, n.covered.linkOptions⟩ : Connection) =
      Connection.covered ⟨uri, n.linkOptions⟩ := by
    rw [linkOptions_covered]
    rfl
  rw [hlink]
  exact covers_bind (covers_mapError _ (covers_openConnection _)) fun _ =>
    covers_bind (covers_log _ _) fun _ => covers_pure covered _

theorem started_covered (n : Node) : n.covered.started = n.started.map Connection.covered := by
  unfold started
  have hlink : n.covered.link = n.link.map Connection.covered := rfl
  rw [hlink]
  cases n.link <;> rfl

/-- Putting a question to the node covers itself. -/
theorem covers_ask {α : Type} (c : Connection) {method : String}
    (hmethod : method ∉ issuingMethods) (answer : Decoder α) :
    Covers id (ask c method answer : Act Script κ NodeError (Except NodeError α))
      (ask c.covered method answer) := by
  have hcall := covers_call (κ := κ) c method []
  rw [coveredAnswer_of_notMem hmethod] at hcall
  exact covers_attempt_id (covers_bind (covers_mapError _ hcall) fun _ => covers_result _)

/-- **Pulling the state of a node covers itself.** -/
theorem covers_pull (n : Node) :
    Covers id (n.pull : Act Script κ NodeError NodeState) n.covered.pull := by
  exact covers_bind (covers_ofExcept n.started_covered) fun c =>
    covers_bind (covers_log _ _) fun _ =>
    covers_bind (covers_ask c (by decide) NodeInfo.answer) fun info =>
    covers_bind (covers_ask c (by decide) Output.listAnswer) fun outputs =>
    covers_bind (covers_ask c (by decide) Peer.listAnswer) fun peers =>
    covers_bind (covers_ask c (by decide) Channel.listAnswer) fun channels =>
    covers_result (n.stateOf info outputs peers channels)

/-- **Putting a command to a node covers itself.** -/
theorem covers_command (n : Node) (text : String) :
    Covers id (n.command text : Act Script κ NodeError String) (n.covered.command text) := by
  refine covers_bind (covers_result _) fun command =>
    covers_bind (covers_ofExcept n.started_covered) fun c =>
    covers_bind (covers_log _ _) fun _ => ?_
  have hmethod : command.method ∉ issuingMethods := by cases command <;> decide
  have hcall := covers_call (κ := κ) c command.method []
  rw [coveredAnswer_of_notMem hmethod] at hcall
  exact covers_bind (covers_mapError _ hcall) fun v => covers_pure id v.pretty

end Node

end HostedNode

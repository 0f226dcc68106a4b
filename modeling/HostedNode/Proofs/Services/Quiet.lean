import HostedNode.Proofs.World.Keeps
import HostedNode.Services.StandIn

/-! # Backends leave the services alone

Whatever a backend is asked, it neither touches the store of the services nor raises events
(`QuietBackend`): events come from the services alone. -/

namespace HostedNode

open Act Json Rpc

/-- Backends that neither touch the store nor raise events. -/
class QuietBackend (σ β : Type) [Backend σ β] : Prop where
  start : ∀ {κ : Type} (n : β), Keeps storeAndEvents (Backend.start n : Act σ κ NodeError β)
  pull : ∀ {κ : Type} (n : β), Keeps storeAndEvents (Backend.pull n : Act σ κ NodeError NodeState)
  sign : ∀ {κ : Type} (n : β) (message : String),
    Keeps storeAndEvents (Backend.sign n message : Act σ κ NodeError String)
  check : ∀ {κ : Type} (n : β) (message key signature : String),
    Keeps storeAndEvents (Backend.check n message key signature : Act σ κ NodeError Bool)
  command : ∀ {κ : Type} (n : β) (text : String),
    Keeps storeAndEvents (Backend.command n text : Act σ κ NodeError String)

/-! ### Hosted nodes -/

section

variable {σ κ γ : Type} [Net σ] {view : World σ κ → γ}

theorem keeps_ask {α : Type} (hv : Apart view) (s : Scheduler) (method : String) (params : Json)
    (answer : Decoder α) : Keeps view (s.ask method params answer : Act σ κ NodeError α) :=
  keeps_bind (keeps_mapError _ (keeps_call hv _ _ _)) fun _ => keeps_ofExcept _

theorem keeps_schedule (hv : Apart view) (s : Scheduler) (nodeId : String) :
    Keeps view (s.schedule nodeId : Act σ κ NodeError String) := by
  refine keeps_bind (keeps_ask hv s _ _ _) fun uri => ?_
  split
  · exact keeps_throw _
  · exact keeps_bind (keeps_log hv _ _) fun _ => keeps_pure _

theorem keeps_start (hv : Apart view) (n : Node) :
    Keeps view (n.start : Act σ κ NodeError Node) :=
  keeps_bind (keeps_schedule hv _ _) fun _ =>
    keeps_bind (keeps_mapError _ (keeps_openConnection hv _)) fun _ =>
      keeps_bind (keeps_log hv _ _) fun _ => keeps_pure _

theorem keeps_askNode {α : Type} (hv : Apart view) (c : Connection) (method : String)
    (answer : Decoder α) :
    Keeps view (Node.ask c method answer : Act σ κ NodeError (Except NodeError α)) :=
  keeps_attempt (keeps_bind (keeps_mapError _ (keeps_call hv _ _ _)) fun _ => keeps_ofExcept _)

theorem keeps_pull (hv : Apart view) (n : Node) :
    Keeps view (n.pull : Act σ κ NodeError NodeState) :=
  keeps_bind (keeps_ofExcept _) fun c =>
    keeps_bind (keeps_log hv _ _) fun _ =>
      keeps_bind (keeps_askNode hv c _ _) fun _ =>
        keeps_bind (keeps_askNode hv c _ _) fun _ =>
          keeps_bind (keeps_askNode hv c _ _) fun _ =>
            keeps_bind (keeps_askNode hv c _ _) fun _ => keeps_ofExcept _

theorem keeps_command (hv : Apart view) (n : Node) (text : String) :
    Keeps view (n.command text : Act σ κ NodeError String) :=
  keeps_bind (keeps_ofExcept _) fun _ =>
    keeps_bind (keeps_ofExcept _) fun _ =>
      keeps_bind (keeps_log hv _ _) fun _ =>
        keeps_bind (keeps_mapError _ (keeps_call hv _ _ _)) fun _ => keeps_pure _

theorem keeps_exchange (hv : Apart view) (s : Scheduler) (signer : Signer) (scope : ChallengeScope)
    (doing : String) (more : List (String × Json)) :
    Keeps view (s.exchange signer scope doing more : Act σ κ NodeError DeviceCredentials) :=
  keeps_bind (keeps_bind (keeps_ask hv s _ _ _) fun _ => keeps_ofExcept _) fun _ =>
    keeps_bind (keeps_log hv _ _) fun _ => keeps_ask hv s _ _ _

theorem keeps_register (hv : Apart view) (s : Scheduler) (signer : Signer) (r : Registration) :
    Keeps view (s.register signer r : Act σ κ NodeError DeviceCredentials) := by
  unfold Scheduler.register
  split
  · exact keeps_throw _
  · exact keeps_exchange hv s _ _ _ _

theorem keeps_issued (hv : Apart view) (s : Scheduler) (signer : Signer) (r : Registration) :
    Keeps view (Node.issued s signer r : Act σ κ NodeError DeviceCredentials) := by
  refine keeps_bind (keeps_log hv _ _) fun _ =>
    keeps_bind (keeps_attempt (keeps_exchange hv s _ _ _ _)) fun result => ?_
  split
  · exact keeps_pure _
  · exact keeps_throw _
  · exact keeps_bind (keeps_log hv _ _) fun _ => keeps_register hv s signer r

theorem keeps_resolve (hv : Apart view) (s : Scheduler) (signer : Signer) (r : Registration)
    (kept : Option StoredCredentials) :
    Keeps view (Node.resolve s signer r kept : Act σ κ NodeError DeviceCredentials) := by
  cases kept with
  | none => exact keeps_issued hv s signer r
  | some k =>
    rw [Node.resolve]
    split
    · exact keeps_bind (keeps_log hv _ _) fun _ => keeps_pure _
    · exact keeps_throw _

/-- Connecting keeps what the keeping of credentials keeps. -/
theorem keeps_connect [CredentialStore κ] (hv : Apart view)
    (hkeep : ∀ c, Keeps view (Node.keepCredentials c : Act σ κ NodeError Unit)) (config : Config)
    (seed : Bytes) : Keeps view (Node.connect config seed : Act σ κ NodeError Node) :=
  keeps_bind (keeps_ofExcept _) fun _ =>
    keeps_bind (keeps_mapError _ (keeps_openConnection hv _)) fun _ =>
      keeps_bind (keeps_bind keeps_get fun _ => keeps_ofExcept _) fun _ =>
        keeps_bind (keeps_resolve hv _ _ _ _) fun _ =>
          keeps_bind (hkeep _) fun _ => keeps_pure _

end

instance {σ : Type} [Net σ] : QuietBackend σ Node where
  start n := keeps_start apart_storeAndEvents n
  pull n := keeps_pull apart_storeAndEvents n
  sign _ _ := keeps_pure _
  check _ _ _ _ := keeps_ofExcept _
  command n text := keeps_command apart_storeAndEvents n text

/-! ### Stand-ins -/

theorem keeps_answer {κ γ : Type} {view : World StandIn.Answers κ → γ} (hv : Apart view)
    (question : String) (args : List String) :
    Keeps view (StandIn.answer question args : Act StandIn.Answers κ NodeError Json) := by
  intro w
  unfold outcome StandIn.answer
  rcases w.net.take StandIn.address question with ⟨_ | _ | _, net⟩
  all_goals exact (hv.note _ _ rfl).trans (hv.net w net)

theorem keeps_answerAs {κ γ : Type} {view : World StandIn.Answers κ → γ} (hv : Apart view)
    (α : Type) [Coded α] (question : String) (args : List String) :
    Keeps view (StandIn.answerAs α question args : Act StandIn.Answers κ NodeError α) :=
  keeps_bind (keeps_answer hv _ _) fun _ => keeps_ofExcept _

instance : QuietBackend StandIn.Answers StandIn where
  start _ := keeps_bind (keeps_answer apart_storeAndEvents _ _) fun _ => keeps_pure _
  pull _ := keeps_answerAs apart_storeAndEvents _ _ _
  sign _ _ := keeps_answerAs apart_storeAndEvents _ _ _
  check _ _ _ _ := keeps_answerAs apart_storeAndEvents _ _ _
  command _ _ := keeps_answerAs apart_storeAndEvents _ _ _

end HostedNode

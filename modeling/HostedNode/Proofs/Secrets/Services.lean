import HostedNode.Proofs.Secrets.Nodes
import HostedNode.Proofs.Services.Sync
import HostedNode.Services.Session

/-! # Services with their secrets covered

Whatever services of a hosted node do covers itself: building them (`Services.covers_build`),
syncing (`Services.covers_sync`), and the steps of a session, background syncs among them
(`Session.covers_connect`, `Session.covers_advance`). -/

namespace HostedNode

open Act Rpc

/-! ### Events -/

theorem Act.covers_raiseAll {κ ε : Type} [HasSecrets κ] (es : List NodeEvent) :
    Covers id (raiseAll es : Act Script κ ε Unit) (raiseAll es) := by
  induction es with
  | nil => exact covers_pure id ()
  | cons e es ih =>
    have hraise : Covers id (raise false e : Act Script κ ε Unit) (raise false e) :=
      covers_bind (covers_log _ _) fun _ =>
        covers_bind (covers_note (.raised e)) fun _ => covers_pure id ()
    exact covers_bind hraise fun _ => ih

/-! ### A disk with a storage -/

/-- What covers itself on a disk with a storage covers itself on the disk. -/
theorem Workspace.covers_within {ε α β : Type} {c : α → β} {act : Act Script Workspace ε α}
    {act' : Act Script Workspace ε β} (storage : Storage) (h : Covers c act act') :
    Covers (Prod.map c Storage.covered) (within storage act) (within storage.covered act') := by
  rw [covers_iff]
  intro w
  have hact := covers_iff.mp h { w with store := { disk := w.store, storage } }
  have hworld : World.covered { w with store := ({ disk := w.store, storage } : Workspace) } =
      { w.covered with store := { disk := w.covered.store, storage := storage.covered } } := rfl
  rw [hworld] at hact
  rw [Services.outcome_within, Services.outcome_within]
  dsimp only
  rw [hact]
  rcases act.outcome { w with store := { disk := w.store, storage } } with ⟨_ | a, v⟩ <;> rfl

namespace Services

/-- Services with the secrets of their node and of their storage covered. -/
def covered (s : Services Node) : Services Node :=
  { s with node := s.node.covered, storage := s.storage.covered }

variable (s : Services Node)

/-! ### Syncing and asking -/

/-- **A sync covers itself.** -/
theorem covers_sync :
    Covers covered (s.sync : Act Script Disk ServiceError (Services Node)) s.covered.sync := by
  exact covers_bind (covers_result s.ensureConnected) fun _ =>
    covers_bind (covers_mapError _ s.node.covers_pull) fun state =>
    covers_bind (s.storage.covers_setNodeState state) fun storage =>
    covers_bind (covers_raiseAll _) fun _ =>
    covers_bind (covers_log _ _) fun _ => covers_pure covered { s with storage }

theorem covers_signMessage (r : SignMessageRequest) :
    Covers id (s.signMessage r : Act Script Disk ServiceError SignMessageResponse)
      (s.covered.signMessage r) := by
  exact covers_bind (covers_mapError _ (covers_pure id (s.node.signMessage r.message))) fun _ =>
    covers_pure id _

theorem covers_checkMessage (r : CheckMessageRequest) :
    Covers id (s.checkMessage r : Act Script Disk ServiceError CheckMessageResponse)
      (s.covered.checkMessage r) := by
  exact covers_bind (covers_mapError _
      (covers_result (Node.checkMessage r.message r.pubkey r.signature))) fun _ =>
    covers_pure id _

theorem covers_command (text : String) :
    Covers id (s.command text : Act Script Disk ServiceError String) (s.covered.command text) :=
  covers_bind (covers_result s.ensureConnected) fun _ =>
    covers_mapError _ (s.node.covers_command text)

theorem covers_disconnect :
    Covers covered (s.disconnect : Act Script Disk ServiceError (Services Node))
      s.covered.disconnect :=
  covers_bind (covers_result s.ensureConnected) fun _ =>
    covers_bind (covers_log _ _) fun _ => covers_pure covered _

/-! ### Building -/

theorem covers_openStorage (workingDir : String) :
    Covers Storage.covered (openStorage workingDir : Act Script Disk ServiceError Storage)
      (openStorage workingDir) :=
  covers_bind (covers_mapError _ (covers_onStore (Disk.mirrors_makeDirectories _ _)))
    fun _ => Storage.covers_openIn workingDir

/-- **Building services covers itself.** -/
theorem covers_build (config : Config) (seed : Bytes) (given : Option Storage) :
    Covers covered
      (build (Node.connect config seed) config seed given :
        Act Script Disk ServiceError (Services Node))
      (build (Node.connect config.covered seed) config.covered seed
        (given.map Storage.covered)) := by
  unfold build
  by_cases hshort : seed.length < minSeedLength
  · simp only [if_pos hshort]
    exact covers_throw _ _
  · simp only [if_neg hshort]
    cases given
    case' none => refine covers_bind (covers_openStorage config.workingDir) fun storage => ?_
    case' some given => refine covers_bind (covers_pure Storage.covered given) fun storage => ?_
    all_goals
      refine covers_bind
        (Workspace.covers_within storage (covers_mapError _ (Node.covers_connect config seed))) ?_
      rintro ⟨node, storage⟩
      exact covers_bind (covers_log _ _) fun _ =>
        covers_bind (covers_mapError _ node.covers_start) fun node =>
        covers_bind (covers_sync ⟨node, storage, true⟩) fun services =>
        covers_bind (covers_log _ _) fun _ => covers_pure covered services

end Services

/-! ### Sessions -/

namespace Session

/-- A session with the secrets of its services covered. -/
def covered (s : Session Node) : Session Node :=
  { s with running := s.running.map fun r => { r with services := r.services.covered } }

variable (s : Session Node)

theorem isWaiting_covered : s.covered.isWaiting = s.isWaiting := by
  obtain ⟨_ | r, now⟩ := s <;> rfl

theorem covers_noteEnd (ended : Bool) {ε : Type} :
    Covers id (noteEnd ended : Step Script ε Unit) (noteEnd ended) := by
  unfold noteEnd
  split
  · exact covers_log _ _
  · exact covers_pure id ()

theorem covers_drop :
    Covers covered (s.drop : Step Script ServiceError (Session Node)) s.covered.drop := by
  unfold drop
  rw [isWaiting_covered]
  exact covers_bind (covers_noteEnd _) fun _ => covers_pure covered { s with running := none }

/-- **Connecting covers itself.** -/
theorem covers_connect (config : Config)
    {building building' : Step Script ServiceError (Services Node)}
    (h : Covers Services.covered building building') :
    Covers (Prod.map id covered) (s.connect config building)
      (s.covered.connect config.covered building') := by
  unfold connect
  rw [isWaiting_covered]
  refine covers_bind (covers_attempt h) fun result => covers_bind (covers_noteEnd _) fun _ => ?_
  cases result with
  | ok services => exact covers_pure (Prod.map id covered) _
  | error e => exact covers_pure (Prod.map id covered) _

theorem covers_tick (services : Services Node) {ε : Type} :
    Covers Services.covered (tick services : Step Script ε (Services Node))
      (tick services.covered) := by
  refine covers_bind (covers_attempt services.covers_sync) fun result => ?_
  cases result with
  | ok services => exact covers_pure Services.covered services
  | error e => exact covers_bind (covers_log _ _) fun _ => covers_pure Services.covered services

theorem covers_ticks (n : Nat) (services : Services Node) {ε : Type} :
    Covers Services.covered (ticks n services : Step Script ε (Services Node))
      (ticks n services.covered) := by
  induction n generalizing services with
  | zero => exact covers_pure Services.covered services
  | succ n ih => exact covers_bind (covers_tick services) fun services => ih services

/-- **Letting time pass covers itself.** -/
theorem covers_advance (milliseconds : Nat) {ε : Type} :
    Covers covered (s.advance milliseconds : Step Script ε (Session Node))
      (s.covered.advance milliseconds) := by
  obtain ⟨_ | r, now⟩ := s
  · exact covers_pure covered _
  · exact covers_bind (covers_ticks _ r.services) fun _ => covers_pure covered _

theorem covers_disconnect (r : Running Node) :
    Covers covered (s.disconnect r)
      (s.covered.disconnect { r with services := r.services.covered } :
        Step Script ServiceError (Session Node)) :=
  covers_bind r.services.covers_disconnect fun _ =>
    covers_bind (covers_noteEnd true) fun _ => covers_pure covered _

end Session

end HostedNode

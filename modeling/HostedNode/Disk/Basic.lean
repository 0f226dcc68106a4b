import HostedNode.Disk.Path
import HostedNode.Text.Utf8

/-! # A disk

A disk holds files and directories by place, a place being the names on the way from the root. What
is not there, or not of the right kind, makes an operation fail with the error that says so. There
are also failures with other reasons: a file may be one that the system lets nobody open, and then it
is neither read nor written; and `mishaps` says what becomes of the coming changes. -/

namespace HostedNode

/-- Why an operation on a disk failed. -/
inductive DiskError where
  | notFound
  | alreadyExists
  | notDirectory
  | isDirectory
  | nameTooLong
  | nulInPath
  | notText
  | denied
  | noSpace
  | broken
deriving DecidableEq, Repr, Inhabited

/-- The wording of an error. -/
def DiskError.message : DiskError → String
  | notFound => "No such file or directory (os error 2)"
  | alreadyExists => "File exists (os error 17)"
  | notDirectory => "Not a directory (os error 20)"
  | isDirectory => "Is a directory (os error 21)"
  | nameTooLong => "File name too long (os error 36)"
  | nulInPath => "file name contained an unexpected NUL byte"
  | notText => "stream did not contain valid UTF-8"
  | denied => "Permission denied (os error 13)"
  | noSpace => "No space left on device (os error 28)"
  | broken => "Input/output error (os error 5)"

/-- What stands at a place. -/
inductive DiskEntry where
  | file (content : Bytes)
  | directory
  /-- A file that cannot be opened, and the error that says why. -/
  | barred (error : DiskError)
deriving DecidableEq, Repr, Inhabited

/-- The names on the way from the root. -/
abbrev Place := List String

/-- What becomes of a change that fails. -/
structure Mishap where
  error : DiskError
  /-- What it leaves in the file that was to be written, if it touches the file. -/
  left : Option Bytes
deriving DecidableEq, Repr

/-- A disk. -/
structure Disk where
  /-- What there is, by place. The root is always there. -/
  entries : List (Place × DiskEntry)
  current : Place
  /-- What becomes of the changes of files to come; those beyond the end of the list succeed. -/
  mishaps : List (Option Mishap) := []
deriving DecidableEq, Repr, Inhabited

namespace Disk

/-! ### Places -/

/-- What stands at a place. -/
def at? (d : Disk) (p : Place) : Option DiskEntry :=
  if p = [] then some .directory else d.entries.lookup p

/-- Takes away what stands at a place. -/
def without (d : Disk) (p : Place) : Disk :=
  { d with entries := d.entries.filter (·.1 ≠ p) }

/-- Puts something at a place. -/
def put (d : Disk) (p : Place) (e : DiskEntry) : Disk :=
  { d with entries := (p, e) :: (d.without p).entries }

/-- Checks that one may go on from a place. -/
def enter (d : Disk) (p : Place) : Except DiskError Unit :=
  match d.at? p with
  | none => .error .notFound
  | some .directory => .ok ()
  | some _ => .error .notDirectory

/-- The place that names lead to. All places on the way must be directories; the last one is not
looked at. -/
def walk (d : Disk) (p : Place) : List String → Except DiskError Place
  | [] => .ok p
  | n :: rest => do
    d.enter p
    if 255 < n.utf8ByteSize then throw .nameTooLong
    d.walk (if n = ".." then p.dropLast else p ++ [n]) rest

/-- The place of a path. -/
def locate (d : Disk) (path : String) : Except DiskError Place :=
  if path.toList.contains '\x00' then .error .nulInPath
  else if path = "" then .error .notFound
  else if 4096 ≤ path.utf8ByteSize then .error .nameTooLong
  else d.walk (if Path.isAbsolute path then [] else d.current) (Path.names path)

/-! ### Reading -/

/-- The content of a file. -/
def read (d : Disk) (path : String) : Except DiskError Bytes := do
  match d.at? (← d.locate path) with
  | none => throw .notFound
  | some .directory => throw .isDirectory
  | some (.file bs) => if Path.endsInDirectory path then throw .notDirectory else return bs
  | some (.barred e) => if Path.endsInDirectory path then throw .notDirectory else throw e

/-- The content of a file as text. -/
def readText (d : Disk) (path : String) : Except DiskError String := do
  match Text.Utf8.decode? (← d.read path) with
  | some s => return s
  | none => throw .notText

/-- Whether there is a directory at the end of a path. -/
def isDirectory (d : Disk) (path : String) : Bool :=
  match d.locate path with
  | .ok p => d.at? p = some .directory
  | .error _ => false

/-- The name of a place in a directory, if it is right in it. -/
def nameIn? (directory p : Place) : Option String :=
  if directory.isPrefixOf p then
    match p.drop directory.length with
    | [n] => some n
    | _ => none
  else none

/-- The names in a directory, sorted. -/
def list (d : Disk) (path : String) : Except DiskError (List String) := do
  let p ← d.locate path
  d.enter p
  return (d.entries.filterMap fun e => nameIn? p e.1).mergeSort

end Disk

/-- An operation on a disk. What it did before it failed stays done. -/
abbrev DiskAct (α : Type) := EStateM DiskError Disk α

namespace Disk

/-! ### Changing -/

/-- Does something that cannot leave anything half done. -/
def change (f : Disk → Except DiskError Disk) : DiskAct Unit := fun d =>
  match f d with
  | .ok d => .ok () d
  | .error e => .error e d

/-- What becomes of the next change of a file. -/
def nextMishap : DiskAct (Option Mishap) := fun d =>
  match d.mishaps with
  | [] => .ok none d
  | m :: rest => .ok m { d with mishaps := rest }

/-- The place of a file that is to be replaced, or to come there. -/
def fileToReplace (d : Disk) (path : String) : Except DiskError Place := do
  let p ← d.locate path
  match d.at? p with
  | some .directory => throw .isDirectory
  | some _ => if Path.endsInDirectory path then throw .notDirectory else return p
  | none => if Path.endsInDirectory path then throw .isDirectory else return p

/-- The place of a file that is to be written: one that is there has to be opened. -/
def fileToWrite (d : Disk) (path : String) : Except DiskError Place := do
  let p ← d.fileToReplace path
  match d.at? p with
  | some (.barred e) => throw e
  | _ => return p

/-- Sets the content of a file; `content` gives it from the content that the file has, if there is
one. -/
def writeWith (path : String) (content : Option Bytes → Bytes) : DiskAct Unit := do
  let mishap ← nextMishap
  fun d =>
    match d.fileToWrite path with
    | .error e => .error e d
    | .ok p =>
      let old := match d.at? p with
        | some (.file bs) => some bs
        | _ => none
      match mishap with
      | none => .ok () (d.put p (.file (content old)))
      | some m =>
        match m.left with
        | none => .error m.error d
        | some bs => .error m.error (d.put p (.file bs))

/-- Writes a file, in place of what it held. -/
def write (path : String) (bs : Bytes) : DiskAct Unit := writeWith path fun _ => bs

/-- Writes behind the end of a file, which is made if it is not there. -/
def append (path : String) (bs : Bytes) : DiskAct Unit :=
  writeWith path fun old => old.getD [] ++ bs

/-- Gives a file another path, in place of a file that is there. -/
def rename (old new : String) : DiskAct Unit := do
  let mishap ← nextMishap
  match mishap with
  | some m => throw m.error
  | none =>
    change fun d => do
      let p ← d.locate old
      match d.at? p with
      | none => throw .notFound
      | some e =>
        if e = .directory then throw .isDirectory
        let q ← d.fileToReplace new
        return (d.without p).put q e

/-- Makes a directory. -/
def makeDirectory (path : String) : DiskAct Unit :=
  change fun d => do
    let p ← d.locate path
    match d.at? p with
    | some _ => throw .alreadyExists
    | none => return d.put p .directory

/-- Makes a directory and those it lies in, `n` levels at most. -/
def makeDirectoriesFrom : Nat → String → DiskAct Unit
  | 0, _ => throw .notFound
  | n + 1, path =>
    if path = "" then pure ()
    else fun d =>
      match makeDirectory path d with
      | .ok () d => .ok () d
      | .error .notFound d =>
        match Path.parent? path with
        | none => .error .notFound d
        | some up =>
          match makeDirectoriesFrom n up d with
          | .error e d => .error e d
          | .ok () d =>
            match makeDirectory path d with
            | .ok () d => .ok () d
            | .error e d => if d.isDirectory path then .ok () d else .error e d
      | .error e d => if d.isDirectory path then .ok () d else .error e d

/-- Makes a directory and those it lies in, so far as they are not there. -/
def makeDirectories (path : String) : DiskAct Unit :=
  makeDirectoriesFrom ((Path.pieces path).length + 2) path

/-- Takes away a file, or a directory with all that is in it. -/
def remove (path : String) : DiskAct Unit :=
  change fun d => do
    let p ← d.locate path
    match d.at? p with
    | none => throw .notFound
    | some _ => return { d with entries := d.entries.filter fun e => !p.isPrefixOf e.1 }

end Disk

end HostedNode

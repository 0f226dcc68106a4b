import HostedNode.Proofs.Disk.Directories
import HostedNode.Proofs.World.Mirrors

/-! # Operations do not look into files

If the contents of all files are changed, those in mishaps to come as well, then the operations on
the disk go as before (`mirrors_write`, `mirrors_rename`, `mirrors_makeDirectories`), and a file is
read with its content changed (`read_mapFiles`). -/

namespace HostedNode

open Act

/-- What stands at a place, with the content of a file changed. -/
def DiskEntry.mapFile (f : Bytes → Bytes) : DiskEntry → DiskEntry
  | .file bs => .file (f bs)
  | .directory => .directory
  | .barred e => .barred e

theorem DiskEntry.mapFile_eq_directory {f : Bytes → Bytes} {e : DiskEntry} :
    e.mapFile f = .directory ↔ e = .directory := by
  cases e <;> simp [DiskEntry.mapFile]

/-- A mishap, with what it leaves changed. -/
def Mishap.mapFile (f : Bytes → Bytes) (m : Mishap) : Mishap := { m with left := m.left.map f }

namespace Disk

variable (f : Bytes → Bytes)

/-- A disk with the contents of files changed. -/
def mapFiles (d : Disk) : Disk :=
  { d with
    entries := d.entries.map fun e => (e.1, e.2.mapFile f)
    mishaps := d.mishaps.map (Option.map (Mishap.mapFile f)) }

/-! ### Reading -/

variable (d : Disk) (p : Place) (path : String)

theorem at?_mapFiles : (d.mapFiles f).at? p = (d.at? p).map (DiskEntry.mapFile f) := by
  unfold at? mapFiles
  split_ifs
  · rfl
  · exact lookup_map (fun _ => DiskEntry.mapFile f) d.entries

theorem enter_mapFiles : (d.mapFiles f).enter p = d.enter p := by
  unfold enter
  rw [at?_mapFiles]
  rcases d.at? p with _ | _ | _ | _ <;> rfl

theorem walk_mapFiles (ns : List String) : (d.mapFiles f).walk p ns = d.walk p ns := by
  induction ns generalizing p with
  | nil => rfl
  | cons n ns ih =>
    rw [walk, walk, enter_mapFiles]
    simp only [ih]

theorem locate_mapFiles : (d.mapFiles f).locate path = d.locate path := by
  unfold locate
  rw [walk_mapFiles]
  rfl

theorem isDirectory_mapFiles : (d.mapFiles f).isDirectory path = d.isDirectory path := by
  unfold isDirectory
  rw [locate_mapFiles]
  cases d.locate path with
  | error e => rfl
  | ok p =>
    simp only [at?_mapFiles]
    rcases d.at? p with _ | _ | _ | _ <;> rfl

/-- **A file is read with its content changed.** -/
theorem read_mapFiles : (d.mapFiles f).read path = (d.read path).map f := by
  unfold read
  rw [locate_mapFiles]
  cases d.locate path with
  | error e => rfl
  | ok p =>
    simp only [bind, Except.bind, at?_mapFiles]
    rcases d.at? p with _ | bs | _ | e
    · rfl
    · simp only [Option.map_some, DiskEntry.mapFile]
      split <;> rfl
    · rfl
    · simp only [Option.map_some, DiskEntry.mapFile]
      split <;> rfl

theorem fileToReplace_mapFiles : (d.mapFiles f).fileToReplace path = d.fileToReplace path := by
  unfold fileToReplace
  rw [locate_mapFiles]
  cases d.locate path with
  | error e => rfl
  | ok p =>
    simp only [bind, Except.bind, at?_mapFiles]
    rcases d.at? p with _ | _ | _ | _ <;> rfl

theorem fileToWrite_mapFiles : (d.mapFiles f).fileToWrite path = d.fileToWrite path := by
  unfold fileToWrite
  rw [fileToReplace_mapFiles]
  cases d.fileToReplace path with
  | error e => rfl
  | ok p =>
    simp only [bind, Except.bind, at?_mapFiles]
    rcases d.at? p with _ | _ | _ | _ <;> rfl

/-! ### Changing -/

theorem without_mapFiles : (d.mapFiles f).without p = (d.without p).mapFiles f := by
  unfold without mapFiles
  simp only [List.filter_map]
  rfl

theorem put_mapFiles (e : DiskEntry) :
    (d.mapFiles f).put p (e.mapFile f) = (d.put p e).mapFiles f := by
  unfold put
  rw [without_mapFiles]
  rfl

/-- A change that cannot leave anything half done is made in the same way. -/
theorem mirrors_change {g g' : Disk → Except DiskError Disk}
    (h : ∀ d, g' (d.mapFiles f) = (g d).map (mapFiles f)) :
    Mirrors (mapFiles f) id (change g) (change g') := by
  intro d
  unfold storeOutcome change
  rw [h]
  cases g d <;> rfl

theorem mirrors_nextMishap :
    Mirrors (mapFiles f) (Option.map (Mishap.mapFile f)) nextMishap nextMishap := by
  rintro ⟨entries, current, _ | ⟨m, ms⟩⟩ <;> rfl

/-- **Writing a file goes as before.** -/
theorem mirrors_write (bs : Bytes) :
    Mirrors (mapFiles f) id (write path bs) (write path (f bs)) := by
  refine mirrors_bind (mirrors_nextMishap f) fun mishap d => ?_
  unfold storeOutcome
  dsimp only
  rw [fileToWrite_mapFiles]
  cases d.fileToWrite path with
  | error e => rfl
  | ok p =>
    rcases mishap with _ | ⟨e, _ | bs'⟩
    · exact Prod.ext rfl (put_mapFiles f d p (.file bs))
    · rfl
    · exact Prod.ext rfl (put_mapFiles f d p (.file bs'))

/-- **Renaming a file goes as before.** -/
theorem mirrors_rename (old new : String) :
    Mirrors (mapFiles f) id (rename old new) (rename old new) := by
  refine mirrors_bind (mirrors_nextMishap f) fun mishap => ?_
  cases mishap with
  | some m => exact mirrors_throw m.error
  | none =>
    refine mirrors_change f fun d => ?_
    rw [locate_mapFiles]
    cases d.locate old with
    | error e => rfl
    | ok p =>
      simp only [bind, Except.bind, at?_mapFiles]
      cases d.at? p with
      | none => rfl
      | some e =>
        simp only [Option.map_some, DiskEntry.mapFile_eq_directory, fileToReplace_mapFiles]
        split_ifs
        · rfl
        · cases d.fileToReplace new with
          | error e => rfl
          | ok q =>
            rw [without_mapFiles]
            exact congrArg Except.ok (put_mapFiles f (d.without p) q e)

/-! ### Making directories -/

/-- What a change comes to, with the contents of files changed. -/
def mapLeft : EStateM.Result DiskError Disk Unit → EStateM.Result DiskError Disk Unit
  | .ok u d => .ok u (d.mapFiles f)
  | .error e d => .error e (d.mapFiles f)

theorem makeDirectory_mapFiles :
    makeDirectory path (d.mapFiles f) = mapLeft f (makeDirectory path d) := by
  unfold makeDirectory change
  dsimp only
  rw [locate_mapFiles]
  cases d.locate path with
  | error e => rfl
  | ok p =>
    simp only [bind, Except.bind, at?_mapFiles]
    cases d.at? p with
    | some e => rfl
    | none => exact congrArg (EStateM.Result.ok ()) (put_mapFiles f d p .directory)

/-- A failure that does not matter if there is a directory by now. -/
theorem ite_isDirectory_mapFiles (e : DiskError) :
    (if (d.mapFiles f).isDirectory path then .ok () (d.mapFiles f)
      else .error e (d.mapFiles f) : EStateM.Result DiskError Disk Unit) =
      mapLeft f (if d.isDirectory path then .ok () d else .error e d) := by
  rw [isDirectory_mapFiles]
  split <;> rfl

theorem makeDirectoriesFrom_mapFiles (n : Nat) (path : String) (d : Disk) :
    makeDirectoriesFrom n path (d.mapFiles f) = mapLeft f (makeDirectoriesFrom n path d) := by
  induction n generalizing path d with
  | zero => rfl
  | succ n ih =>
    by_cases hempty : path = ""
    · subst hempty
      rfl
    · rw [makeDirectoriesFrom_succ n hempty, makeDirectoriesFrom_succ n hempty,
        makeDirectory_mapFiles]
      rcases makeDirectory path d with ⟨⟨⟩, d⟩ | ⟨e, d⟩
      · rfl
      · cases e with
        | notFound =>
          dsimp only [mapLeft]
          cases Path.parent? path with
          | none => rfl
          | some up =>
            dsimp only
            rw [ih up d]
            rcases makeDirectoriesFrom n up d with ⟨⟨⟩, d⟩ | ⟨e, d⟩
            · dsimp only [mapLeft]
              rw [makeDirectory_mapFiles]
              rcases makeDirectory path d with ⟨⟨⟩, d⟩ | ⟨e, d⟩
              · rfl
              · exact ite_isDirectory_mapFiles f d path e
            · rfl
        | _ => exact ite_isDirectory_mapFiles f d path _

/-- **Making directories goes as before.** -/
theorem mirrors_makeDirectories :
    Mirrors (mapFiles f) id (makeDirectories path) (makeDirectories path) := by
  intro d
  unfold makeDirectories storeOutcome
  rw [makeDirectoriesFrom_mapFiles]
  cases makeDirectoriesFrom ((Path.pieces path).length + 2) path d <;> rfl

end Disk

end HostedNode

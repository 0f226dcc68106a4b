import HostedNode.Proofs.Disk.Changes
import HostedNode.Proofs.Storage.Document

/-! # Replacing the document

A replacement that succeeds leaves the new document at its place and no draft (`replace_ok`). One
that fails, be it at the draft or at the renaming, leaves all as it was but for the draft
(`replace_error`). Both places lie in one directory, so nothing that happens to the draft changes
where the document is. -/

namespace HostedNode.Storage

open Disk

/-! ### The two paths -/

theorem plain_document : Path.Plain "storage.json" where
  notAbsolute := by decide
  names_eq := by decide
  ne_parent := by decide
  noNul := by decide
  short := by decide

theorem plain_draft : Path.Plain "storage.json.tmp" where
  notAbsolute := by decide
  names_eq := by decide
  ne_parent := by decide
  noNul := by decide
  short := by decide

/-- Where there is a place for the draft, there is one for the document beside it. -/
theorem locate_document {d : Disk} {directory : String} {p : Place}
    (h : d.locate (draftPath directory) = .ok p) :
    ∃ q, d.locate (documentPath directory) = .ok q ∧ p ≠ q ∧ p ≠ [] ∧ q ≠ [] := by
  obtain ⟨base, rfl, hq⟩ := locate_join plain_draft plain_document (by decide) h
  refine ⟨_, hq, ?_, by simp, by simp⟩
  intro heq
  have hname := List.append_cancel_left heq
  simp at hname

/-- A change of the draft leaves the document as it was. -/
theorem read_document {d d' : Disk} {directory : String}
    (h : SameBut (draftPath directory) d d') :
    d'.read (documentPath directory) = d.read (documentPath directory) := by
  by_cases hall : ∀ p, d'.at? p = d.at? p
  · exact read_congr d d' h.current hall _
  · obtain ⟨p, hp⟩ := not_forall.mp hall
    have hdraft := (h.place p hp).1
    obtain ⟨q, hq, hne, -, -⟩ := locate_document hdraft
    have hsame : d'.at? q = d.at? q := by
      by_contra hq'
      have hdraft' := (h.place q hq').1
      rw [hdraft] at hdraft'
      exact hne (Except.ok.inj hdraft')
    unfold Disk.read
    rw [hq, h.keeps.locate hq]
    simp only [bind, Except.bind, hsame]

/-! ### Success and failure -/

variable {s s' : Storage} {data : StorageData} {d d' : Disk}

/-- **A replacement that succeeds leaves the document and no draft.** -/
theorem replace_ok (h : s.replace data d = .ok s' d') :
    s' = { s with data } ∧ d'.read (documentPath s.directory) = .ok data.document ∧
      d'.read (draftPath s.directory) = .error .notFound := by
  simp only [replace, bind, EStateM.bind] at h
  cases hw : write (draftPath s.directory) data.document d with
  | error e d1 => simp [hw] at h
  | ok u d1 =>
    cases hr : rename (draftPath s.directory) s.path d1 with
    | error e d2 => simp [hw, hr] at h
    | ok u d2 =>
      simp only [hw, hr] at h
      obtain ⟨rfl, rfl⟩ := EStateM.Result.ok.inj h
      obtain ⟨p, -, hp, -, -⟩ := write_ok hw
      obtain ⟨q, hq, hne, hp0, hq0⟩ := locate_document hp
      exact ⟨rfl, read_write_rename hp hq hne hp0 hq0 hw hr⟩

/-- **A replacement that fails changes the draft at most.** -/
theorem replace_error {e : DiskError} (h : s.replace data d = .error e d') :
    SameBut (draftPath s.directory) d d' := by
  simp only [replace, bind, EStateM.bind] at h
  cases hw : write (draftPath s.directory) data.document d with
  | error e' d1 =>
    simp only [hw, EStateM.Result.error.injEq] at h
    rw [← h.2]
    exact write_error hw
  | ok u d1 =>
    obtain ⟨p, ms, hp, hpd, rfl⟩ := write_ok hw
    have hsame : SameBut (draftPath s.directory) d ((d.expecting ms).put p (.file data.document)) :=
      (SameBut.expecting _ d ms).trans
        (SameBut.put (by rwa [locate_expecting]) (by rwa [at?_expecting]) _)
    cases hr : rename (draftPath s.directory) s.path
        ((d.expecting ms).put p (.file data.document)) with
    | error e' d2 =>
      simp only [hw, hr, EStateM.Result.error.injEq] at h
      obtain ⟨ms', hd2⟩ := rename_error hr
      rw [← h.2, hd2]
      exact hsame.trans (SameBut.expecting _ _ ms')
    | ok u d2 =>
      simp only [hw, hr] at h
      cases h

/-! ### What is loaded -/

theorem load_of_read {directory : String} {bs : Bytes}
    (h : d.read (documentPath directory) = .ok bs) :
    load d directory =
      (StorageData.ofDocument bs).mapError fun e => .persistence e.message := by
  unfold load
  rw [h]

theorem load_congr {directory : String}
    (h : d'.read (documentPath directory) = d.read (documentPath directory)) :
    load d' directory = load d directory := by
  unfold load
  rw [h]

theorem load_expecting (d : Disk) (directory : String) (ms : List (Option Mishap)) :
    load (d.expecting ms) directory = load d directory :=
  load_congr (read_congr d (d.expecting ms) rfl (fun _ => rfl) _)

/-- After a replacement that succeeds the new data is loaded. -/
theorem load_replace (h : s.replace data d = .ok s' d') : load d' s.directory = .ok data := by
  rw [load_of_read (replace_ok h).2.1, StorageData.ofDocument_document]
  rfl

/-! ### Steps of a run -/

section

variable {σ : Type}

theorem openIn_eq (directory : String) (w : World σ Disk) :
    openIn directory w = (do
      let data ← Act.ofExcept (load w.store directory)
      Act.log .debug ("opened storage at " ++ documentPath directory)
      return ⟨directory, data⟩ : Act σ Disk ServiceError Storage) w := by
  unfold openIn
  rfl

theorem openIn_ok {directory : String} {w : World σ Disk} {data : StorageData}
    (h : load w.store directory = .ok data) :
    openIn directory w = .ok ⟨directory, data⟩
      (w.note (.logged (.of .debug ("opened storage at " ++ documentPath directory)))) := by
  rw [openIn_eq, h]
  rfl

theorem openIn_error {directory : String} {w : World σ Disk} {e : ServiceError}
    (h : load w.store directory = .error e) : openIn directory w = .error e w := by
  rw [openIn_eq, h]
  rfl

theorem setNodeState_eq (s : Storage) (state : NodeState) (w : World σ Disk) :
    s.setNodeState state w =
      match s.replace { s.data with nodeState := some state } w.store with
      | .ok s' d => .ok s' { w with store := d }
      | .error e d => .error (diskFault e) { w with store := d } := by
  simp only [setNodeState, save, Act.mapError, Act.onStore]
  cases s.replace { s.data with nodeState := some state } w.store <;> rfl

end

/-! ### Small disks -/

/-- A disk with nothing but an empty directory `d`. -/
def emptyDisk : Disk := { entries := [(["d"], .directory)], current := [] }

/-- A disk with nothing but a directory `d`, a document in it, and beside the document a draft, if
there is one. -/
def diskOf (bs : Bytes) (draft : Option Bytes) : Disk where
  entries := (draft.map fun b => (["d", "storage.json.tmp"], DiskEntry.file b)).toList ++
    [(["d", "storage.json"], .file bs), (["d"], .directory)]
  current := []

theorem read_diskOf (bs : Bytes) (draft : Option Bytes) :
    (diskOf bs draft).read (documentPath "d") = .ok bs := by
  cases draft <;> rfl

theorem load_diskOf (data : StorageData) (draft : Option Bytes) :
    load (diskOf data.document draft) "d" = .ok data := by
  rw [load_of_read (read_diskOf _ draft), StorageData.ofDocument_document]
  rfl

theorem write_diskOf (bs bs' : Bytes) (draft : Option Bytes) :
    write (draftPath "d") bs' (diskOf bs draft) = .ok () (diskOf bs (some bs')) := by
  cases draft <;> rfl

theorem rename_diskOf (bs bs' : Bytes) :
    rename (draftPath "d") (documentPath "d") (diskOf bs (some bs')) =
      .ok () (diskOf bs' none) := rfl

theorem replace_diskOf (data data' : StorageData) (bs : Bytes) (draft : Option Bytes) :
    (⟨"d", data⟩ : Storage).replace data' (diskOf bs draft) =
      .ok ⟨"d", data'⟩ (diskOf data'.document none) := by
  simp only [replace, path, bind, EStateM.bind, write_diskOf, rename_diskOf]
  rfl

end HostedNode.Storage

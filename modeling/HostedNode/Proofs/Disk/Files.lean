import HostedNode.Proofs.Disk.Directories
import HostedNode.Proofs.Text.Utf8

/-! # Files that are read back

What is written to a file is read back (`read_of_write`, `readText_of_write`). A path is writable if
its directories can be made, a file can stand at its end, and no mishap is to come (`Writable`):
then writing succeeds, and the path is writable again, so that one may go on. -/

namespace HostedNode.Disk

/-! ### Writing and reading -/

theorem ne_nil_of_at? {d : Disk} {p : Place} (h : d.at? p ≠ some .directory) : p ≠ [] := by
  rintro rfl
  exact h rfl

theorem readText_of_read {d : Disk} {path : String} {text : String}
    (h : d.read path = .ok (Text.Utf8.encode text)) : d.readText path = .ok text := by
  unfold readText
  simp only [h, bind, Except.bind, Text.Utf8.decode?_encode]
  rfl

/-- **A file is read as text just if its content is this text.** -/
theorem readText_eq_ok_iff {d : Disk} {path text : String} :
    d.readText path = .ok text ↔ d.read path = .ok (Text.Utf8.encode text) := by
  refine ⟨fun h => ?_, readText_of_read⟩
  unfold readText at h
  cases hr : d.read path with
  | error e =>
    rw [hr] at h
    cases h
  | ok bs =>
    simp only [hr, bind, Except.bind] at h
    cases hd : Text.Utf8.decode? bs with
    | none =>
      rw [hd] at h
      cases h
    | some s =>
      rw [hd] at h
      obtain rfl := Except.ok.inj h
      rw [Text.Utf8.decode?_eq_some_iff.mp hd]

/-- A file that is put at the place of a path is read there. -/
theorem read_put {d : Disk} {path : String} {p : Place} (h : d.fileToWrite path = .ok p)
    (bs : Bytes) : (d.put p (.file bs)).read path = .ok bs := by
  obtain ⟨hl, hd, hend⟩ := fileToWrite_ok h
  exact read_eq_ok.mpr
    ⟨p, (Keeps.put hd _).locate hl, at?_put_self (ne_nil_of_at? hd) _, hend⟩

/-- **A write succeeds if and only if** no mishap comes next and a file can stand at the end of the
path. -/
theorem write_ok_iff {d : Disk} {path : String} {bs : Bytes} :
    (∃ d', write path bs d = .ok () d') ↔
      d.mishaps.head?.join = none ∧ ∃ p, d.fileToWrite path = .ok p := by
  obtain ⟨ms, hm⟩ := nextMishap_head d
  simp only [write, writeWith, bind, EStateM.bind, hm, fileToWrite_expecting]
  cases d.fileToWrite path with
  | error e => simp
  | ok p =>
    cases d.mishaps.head?.join with
    | none => simp
    | some m =>
      cases hleft : m.left with
      | none => simp [hleft]
      | some bs => simp [hleft]

/-- **What was written is read back.** -/
theorem read_of_write {d d' : Disk} {path : String} {bs : Bytes}
    (h : write path bs d = .ok () d') : d'.read path = .ok bs := by
  obtain ⟨p, ms, hf, rfl⟩ := write_leaves h
  exact read_put (by rwa [fileToWrite_expecting]) bs

theorem readText_of_write {d d' : Disk} {path text : String}
    (h : write path (Text.Utf8.encode text) d = .ok () d') : d'.readText path = .ok text :=
  readText_of_read (read_of_write h)

/-- A write that fails leaves all places as they are, or broke off: then the file holds what the
mishap left in it. -/
theorem write_error_cases {d d' : Disk} {path : String} {bs : Bytes} {e : DiskError}
    (h : write path bs d = .error e d') :
    (∀ p, d'.at? p = d.at? p) ∨
      ∃ m left, some m ∈ d.mishaps ∧ m.left = some left ∧ d'.read path = .ok left := by
  obtain ⟨ms, hm⟩ := nextMishap_head d
  simp only [write, writeWith, bind, EStateM.bind, hm, fileToWrite_expecting] at h
  cases hf : d.fileToWrite path with
  | error e =>
    simp only [hf, EStateM.Result.error.injEq] at h
    rw [← h.2]
    exact Or.inl fun _ => rfl
  | ok p =>
    simp only [hf] at h
    cases hnext : d.mishaps.head?.join with
    | none => simp [hnext] at h
    | some m =>
      simp only [hnext] at h
      cases hleft : m.left with
      | none =>
        simp only [hleft, EStateM.Result.error.injEq] at h
        rw [← h.2]
        exact Or.inl fun _ => rfl
      | some left =>
        simp only [hleft, EStateM.Result.error.injEq] at h
        rw [← h.2]
        exact Or.inr ⟨m, left, List.mem_of_head? (Option.join_eq_some_iff.mp hnext), hleft,
          read_put (by rwa [fileToWrite_expecting]) left⟩

/-! ### Paths that can be written -/

/-- Makes the directories that a path lies in. -/
def makeParents (path : String) : DiskAct Unit :=
  match Path.parent? path with
  | some directory => makeDirectories directory
  | none => pure ()

theorem makeParents_extends {path : String} {d d' : Disk} (h : makeParents path d = .ok () d') :
    Extends d d' := by
  unfold makeParents at h
  cases hup : Path.parent? path with
  | none =>
    rw [hup] at h
    obtain rfl := (EStateM.Result.ok.inj h).2
    exact .refl d
  | some directory =>
    rw [hup] at h
    exact (makeDirectories_ok h).1

theorem makeParents_again {path : String} {d d' d'' : Disk} (h : makeParents path d = .ok () d')
    (hkeep : Keeps d' d'') : makeParents path d'' = .ok () d'' := by
  unfold makeParents at h ⊢
  cases hup : Path.parent? path with
  | none => rfl
  | some directory =>
    rw [hup] at h
    exact makeDirectories_again h hkeep

/-- A path at which a file can be written. -/
structure Writable (d : Disk) (path : String) : Prop where
  /-- No change to come fails for a reason of its own. -/
  calm : ∀ m ∈ d.mishaps, m = none
  /-- The directories can be made, and a file can stand at the end of the path. -/
  room : ∃ d' p, makeParents path d = .ok () d' ∧ d'.fileToWrite path = .ok p

/-- A path at which a file can be written now, the directories on the way being made if they are not
there. -/
structure Receives (d : Disk) (path : String) : Prop where
  calm : d.mishaps.head?.join = none
  room : ∃ d' p, makeParents path d = .ok () d' ∧ d'.locate path = .ok p ∧
    d'.at? p ≠ some .directory ∧ d'.Opens p ∧ Path.endsInDirectory path = false

theorem write_of_calm {d : Disk} {path : String} {p : Place} (hcalm : ∀ m ∈ d.mishaps, m = none)
    (hf : d.fileToWrite path = .ok p) (bs : Bytes) :
    ∃ ms, (∀ m ∈ ms, m = none) ∧ write path bs d = .ok () ((d.expecting ms).put p (.file bs)) := by
  have hnext : ∃ ms, (∀ m ∈ ms, m = none) ∧ nextMishap d = .ok none (d.expecting ms) := by
    obtain ⟨entries, current, mishaps⟩ := d
    cases mishaps with
    | nil => exact ⟨[], by simp, rfl⟩
    | cons m ms =>
      obtain rfl : m = none := hcalm m List.mem_cons_self
      exact ⟨ms, fun m hm => hcalm m (List.mem_cons_of_mem _ hm), rfl⟩
  obtain ⟨ms, hms, hm⟩ := hnext
  refine ⟨ms, hms, ?_⟩
  simp only [write, writeWith, bind, EStateM.bind, hm, fileToWrite_expecting, hf]

/-- **A path that is writable can be written, and is writable after that.** -/
theorem Writable.write {d : Disk} {path : String} (h : Writable d path) (bs : Bytes) :
    ∃ d1 d2, makeParents path d = .ok () d1 ∧ Disk.write path bs d1 = .ok () d2 ∧
      Writable d2 path := by
  obtain ⟨d1, p, hup, hf⟩ := h.room
  have hcalm : ∀ m ∈ d1.mishaps, m = none := by
    rw [(makeParents_extends hup).mishaps]
    exact h.calm
  obtain ⟨ms, hms, hw⟩ := write_of_calm hcalm hf bs
  obtain ⟨hl, hd, hend⟩ := fileToWrite_ok hf
  have hkeep : Keeps d1 ((d1.expecting ms).put p (.file bs)) :=
    (keeps_expecting d1 ms).trans (Keeps.put (by rwa [at?_expecting]) _)
  have hfile : ((d1.expecting ms).put p (.file bs)).at? p = some (.file bs) :=
    at?_put_self (ne_nil_of_at? hd) _
  exact ⟨d1, _, hup, hw, hms, _, p, makeParents_again hup hkeep,
    fileToWrite_eq_ok.mpr ⟨hkeep.locate hl, by simp [hfile], opens_of_file hfile, hend⟩⟩

end HostedNode.Disk

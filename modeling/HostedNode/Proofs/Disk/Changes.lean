import HostedNode.Proofs.Disk.Places

/-! # What writing and renaming do

The changes that a storage makes, each by what it leaves when it succeeds and when it fails. A
change that fails leaves all places as they were, but for the file that was to be written
(`SameBut`). -/

namespace HostedNode.Disk

/-! ### Disks that agree -/

/-- The disk with other mishaps to come. -/
def expecting (d : Disk) (mishaps : List (Option Mishap)) : Disk := { d with mishaps }

@[simp] theorem at?_expecting (d : Disk) (ms : List (Option Mishap)) (p : Place) :
    (d.expecting ms).at? p = d.at? p := rfl

theorem walk_congr {d d' : Disk} (h : ∀ p, d'.at? p = d.at? p) (p : Place) (ns : List String) :
    d'.walk p ns = d.walk p ns := by
  induction ns generalizing p with
  | nil => rfl
  | cons n ns ih =>
    have he : d'.enter p = d.enter p := by rw [enter, enter, h]
    rw [walk, walk, he]
    simp only [ih]

theorem locate_congr (d d' : Disk) (hc : d'.current = d.current) (h : ∀ p, d'.at? p = d.at? p)
    (path : String) : d'.locate path = d.locate path := by
  rw [locate, locate, hc, walk_congr h]

theorem read_congr (d d' : Disk) (hc : d'.current = d.current) (h : ∀ p, d'.at? p = d.at? p)
    (path : String) : d'.read path = d.read path := by
  rw [read, read, locate_congr d d' hc h]
  simp only [h]

@[simp] theorem locate_expecting (d : Disk) (ms : List (Option Mishap)) (path : String) :
    (d.expecting ms).locate path = d.locate path :=
  locate_congr d (d.expecting ms) rfl (fun _ => rfl) path

theorem keeps_expecting (d : Disk) (ms : List (Option Mishap)) : Keeps d (d.expecting ms) :=
  ⟨rfl, fun _ h => h⟩

/-- The second disk is the first one but for the file at the end of a path. -/
structure SameBut (path : String) (d d' : Disk) : Prop where
  current : d'.current = d.current
  place : ∀ p, d'.at? p ≠ d.at? p → d.locate path = .ok p ∧ d.at? p ≠ some .directory

namespace SameBut

variable {path : String} {d d' : Disk}

theorem keeps (h : SameBut path d d') : Keeps d d' := by
  refine ⟨h.current, fun p hp => ?_⟩
  by_contra hne
  exact (h.place p (by rwa [hp])).2 hp

theorem expecting (path : String) (d : Disk) (ms : List (Option Mishap)) :
    SameBut path d (d.expecting ms) := ⟨rfl, fun _ h => absurd rfl h⟩

theorem put {p : Place} (hp : d.locate path = .ok p) (hd : d.at? p ≠ some .directory)
    (e : DiskEntry) : SameBut path d (d.put p e) := by
  refine ⟨rfl, fun q hq => ?_⟩
  by_cases hqp : q = p
  · subst hqp
    exact ⟨hp, hd⟩
  · exact absurd (at?_put_of_ne hqp _) hq

theorem trans {d'' : Disk} (h : SameBut path d d') (h' : SameBut path d' d'') :
    SameBut path d d'' := by
  refine ⟨h'.current.trans h.current, fun p hp => ?_⟩
  by_cases h1 : d'.at? p = d.at? p
  · obtain ⟨hl, hd⟩ := h'.place p (by rwa [h1])
    refine ⟨?_, by rwa [← h1]⟩
    by_cases hall : ∀ q, d'.at? q = d.at? q
    · rw [← locate_congr d d' h.current hall, hl]
    · obtain ⟨q, hq⟩ := not_forall.mp hall
      have hlq := (h.place q hq).1
      rw [h.keeps.locate hlq] at hl
      rw [hlq, hl]
  · exact h.place p h1

end SameBut

/-! ### Reading -/

/-- A file at the place of a path is read, unless the path can only be one of a directory. -/
theorem read_eq_ok {d : Disk} {path : String} {bs : Bytes} :
    d.read path = .ok bs ↔ ∃ p, d.locate path = .ok p ∧ d.at? p = some (.file bs) ∧
      Path.endsInDirectory path = false := by
  unfold read
  cases hl : d.locate path with
  | error e => simp [bind, Except.bind]
  | ok p =>
    cases hp : d.at? p with
    | none => simp [bind, Except.bind, hp, throw_eq_error]
    | some e =>
      cases e with
      | directory => simp [bind, Except.bind, hp, throw_eq_error]
      | file content =>
        cases Path.endsInDirectory path <;>
          simp [bind, Except.bind, hp, throw_eq_error, pure, Except.pure]
      | barred error =>
        cases Path.endsInDirectory path <;> simp [bind, Except.bind, hp, throw_eq_error]

/-! ### Places for files -/

/-- A file can be put at the place of a path that no directory stands at, and that can be one of a
file. -/
theorem fileToReplace_eq_ok {d : Disk} {path : String} {p : Place} :
    d.fileToReplace path = .ok p ↔ d.locate path = .ok p ∧ d.at? p ≠ some .directory ∧
      Path.endsInDirectory path = false := by
  unfold fileToReplace
  cases hl : d.locate path with
  | error e => simp [bind, Except.bind]
  | ok q =>
    by_cases hqp : q = p
    · subst hqp
      rcases hq : d.at? q with _ | _ | _ | _ <;> cases Path.endsInDirectory path <;>
        simp [bind, Except.bind, hq, throw_eq_error, pure, Except.pure]
    · rcases hq : d.at? q with _ | _ | _ | _ <;> cases Path.endsInDirectory path <;>
        simp [bind, Except.bind, hq, hqp, throw_eq_error, pure, Except.pure]

/-- No file stands at a place that cannot be opened. -/
def Opens (d : Disk) (p : Place) : Prop := ∀ e, d.at? p ≠ some (.barred e)

theorem opens_of_file {d : Disk} {p : Place} {bs : Bytes} (h : d.at? p = some (.file bs)) :
    d.Opens p := by
  intro e he
  rw [h] at he
  cases he

/-- A file can be written where one can be put, unless one is there that cannot be opened. -/
theorem fileToWrite_eq_ok {d : Disk} {path : String} {p : Place} :
    d.fileToWrite path = .ok p ↔ d.locate path = .ok p ∧ d.at? p ≠ some .directory ∧
      d.Opens p ∧ Path.endsInDirectory path = false := by
  have hreplace : d.fileToWrite path = .ok p ↔ d.fileToReplace path = .ok p ∧ d.Opens p := by
    unfold fileToWrite Opens
    cases d.fileToReplace path with
    | error e => simp [bind, Except.bind]
    | ok q =>
      by_cases hqp : q = p
      · subst hqp
        rcases hq : d.at? q with _ | _ | _ | _ <;>
          simp [bind, Except.bind, hq, throw_eq_error, pure, Except.pure]
      · rcases hq : d.at? q with _ | _ | _ | _ <;>
          simp [bind, Except.bind, hq, hqp, throw_eq_error, pure, Except.pure]
  rw [hreplace, fileToReplace_eq_ok]
  tauto

/-! ### Writing -/

theorem fileToWrite_ok {d : Disk} {path : String} {p : Place} (h : d.fileToWrite path = .ok p) :
    d.locate path = .ok p ∧ d.at? p ≠ some .directory ∧ Path.endsInDirectory path = false := by
  obtain ⟨hl, hd, -, hend⟩ := fileToWrite_eq_ok.mp h
  exact ⟨hl, hd, hend⟩

theorem nextMishap_head (d : Disk) :
    ∃ ms, nextMishap d = .ok d.mishaps.head?.join (d.expecting ms) := by
  obtain ⟨entries, current, mishaps⟩ := d
  cases mishaps with
  | nil => exact ⟨[], rfl⟩
  | cons m ms => exact ⟨ms, rfl⟩

theorem nextMishap_eq (d : Disk) : ∃ m ms, nextMishap d = .ok m (d.expecting ms) :=
  ⟨_, nextMishap_head d⟩

@[simp] theorem fileToWrite_expecting (d : Disk) (ms : List (Option Mishap)) (path : String) :
    (d.expecting ms).fileToWrite path = d.fileToWrite path := by
  unfold fileToWrite fileToReplace
  simp only [locate_expecting, at?_expecting]

/-- What a write that succeeds leaves. -/
theorem write_leaves {d d' : Disk} {path : String} {bs : Bytes} (h : write path bs d = .ok () d') :
    ∃ p ms, d.fileToWrite path = .ok p ∧ d' = (d.expecting ms).put p (.file bs) := by
  obtain ⟨m, ms, hm⟩ := nextMishap_eq d
  simp only [write, writeWith, bind, EStateM.bind, hm, fileToWrite_expecting] at h
  cases hf : d.fileToWrite path with
  | error e => simp [hf] at h
  | ok p =>
    simp only [hf] at h
    cases m with
    | none => exact ⟨p, ms, rfl, (EStateM.Result.ok.inj h).2.symm⟩
    | some m => cases hleft : m.left <;> simp [hleft] at h

/-- A file that is written holds the bytes. -/
theorem write_ok {d d' : Disk} {path : String} {bs : Bytes} (h : write path bs d = .ok () d') :
    ∃ p ms, d.locate path = .ok p ∧ d.at? p ≠ some .directory ∧
      d' = (d.expecting ms).put p (.file bs) := by
  obtain ⟨p, ms, hf, rfl⟩ := write_leaves h
  obtain ⟨hl, hd, -⟩ := fileToWrite_ok hf
  exact ⟨p, ms, hl, hd, rfl⟩

theorem write_error {d d' : Disk} {path : String} {bs : Bytes} {e : DiskError}
    (h : write path bs d = .error e d') : SameBut path d d' := by
  obtain ⟨m, ms, hm⟩ := nextMishap_eq d
  simp only [write, writeWith, bind, EStateM.bind, hm] at h
  have hsame := SameBut.expecting path d ms
  cases hf : (d.expecting ms).fileToWrite path with
  | error e =>
    simp only [hf, EStateM.Result.error.injEq] at h
    rwa [← h.2]
  | ok p =>
    obtain ⟨hl, hd, -⟩ := fileToWrite_ok hf
    simp only [hf] at h
    cases m with
    | none => simp at h
    | some m =>
      cases hleft : m.left with
      | none =>
        simp only [hleft, EStateM.Result.error.injEq] at h
        rwa [← h.2]
      | some left =>
        simp only [hleft, EStateM.Result.error.injEq] at h
        rw [← h.2]
        exact hsame.trans (SameBut.put hl hd (.file left))

/-! ### Renaming -/

/-- A file that is renamed stands at the new place and not at the old one. -/
theorem rename_ok {d d' : Disk} {old new : String} (h : rename old new d = .ok () d') :
    ∃ p q e ms, d.locate old = .ok p ∧ d.at? p = some e ∧ e ≠ .directory ∧
      d.locate new = .ok q ∧ d.at? q ≠ some .directory ∧ Path.endsInDirectory new = false ∧
      d' = ((d.expecting ms).without p).put q e := by
  obtain ⟨m, ms, hm⟩ := nextMishap_eq d
  simp only [rename, bind, EStateM.bind, hm] at h
  cases m with
  | some m => cases h
  | none =>
    simp only [change, locate_expecting, at?_expecting] at h
    cases hl : d.locate old with
    | error e => simp [hl, Except.bind] at h
    | ok p =>
      simp only [hl, Except.bind] at h
      cases hp : d.at? p with
      | none => simp [hp, throw_eq_error] at h
      | some e =>
        by_cases he : e = .directory
        · simp [hp, he, throw_eq_error] at h
        · simp only [hp, if_neg he] at h
          cases hf : (d.expecting ms).fileToReplace new with
          | error e => simp [hf] at h
          | ok q =>
            obtain ⟨hq, hd, hend⟩ := fileToReplace_eq_ok.mp hf
            rw [locate_expecting] at hq
            simp only [hf] at h
            exact ⟨p, q, e, ms, rfl, hp, he, hq, hd, hend, (EStateM.Result.ok.inj h).2.symm⟩

theorem rename_error {d d' : Disk} {old new : String} {e : DiskError}
    (h : rename old new d = .error e d') : ∃ ms, d' = d.expecting ms := by
  obtain ⟨m, ms, hm⟩ := nextMishap_eq d
  refine ⟨ms, ?_⟩
  simp only [rename, bind, EStateM.bind, hm] at h
  cases m with
  | some m => exact (EStateM.Result.error.inj h).2.symm
  | none =>
    simp only [change] at h
    split at h
    · cases h
    · exact (EStateM.Result.error.inj h).2.symm

/-- **A file that is written at one place and renamed to another stands at the other alone.** -/
theorem read_write_rename {d d1 d2 : Disk} {old new : String} {bs : Bytes} {p q : Place}
    (hp : d.locate old = .ok p) (hq : d.locate new = .ok q) (hne : p ≠ q) (hp0 : p ≠ [])
    (hq0 : q ≠ []) (hw : write old bs d = .ok () d1) (hr : rename old new d1 = .ok () d2) :
    d2.read new = .ok bs ∧ d2.read old = .error .notFound := by
  obtain ⟨p1, ms, hp1, hpd, rfl⟩ := write_ok hw
  obtain rfl : p = p1 := Except.ok.inj (hp.symm.trans hp1)
  have hkeep : Keeps d ((d.expecting ms).put p (.file bs)) :=
    (keeps_expecting d ms).trans (Keeps.put (by rwa [at?_expecting]) _)
  obtain ⟨p2, q2, e2, ms2, hp2, hbs, -, hq2, hqd, hend, rfl⟩ := rename_ok hr
  obtain rfl : p = p2 := Except.ok.inj ((hkeep.locate hp).symm.trans hp2)
  obtain rfl : q = q2 := Except.ok.inj ((hkeep.locate hq).symm.trans hq2)
  rw [at?_put_self hp0] at hbs
  obtain rfl := Option.some.inj hbs
  -- what is written stands at `p`, and neither taking it away nor putting it at `q` moves a place
  have hfile : (((d.expecting ms).put p (.file bs)).expecting ms2).at? p ≠ some .directory := by
    rw [at?_expecting, at?_put_self hp0]
    simp
  have hqd2 : ((((d.expecting ms).put p (.file bs)).expecting ms2).without p).at? q ≠
      some .directory := by
    rwa [at?_without_of_ne hne.symm, at?_expecting]
  have hkeep2 := ((keeps_expecting _ ms2).trans (Keeps.without hfile)).trans (Keeps.put hqd2 (.file bs))
  constructor
  · exact read_eq_ok.mpr ⟨q, hkeep2.locate hq2, at?_put_self hq0 _, hend⟩
  · unfold Disk.read
    rw [hkeep2.locate hp2]
    simp only [bind, Except.bind, at?_put_of_ne hne, at?_without_self hp0]
    rfl

end HostedNode.Disk

import HostedNode.Proofs.Disk.Changes
import HostedNode.Proofs.World.Outcome

/-! # Making directories

However many directories are made on the way to a path, and whether or not this fails halfway, what
was there stays there, and what is new are directories where nothing was (`Extends`). If it
succeeds, there is a directory at the end of the path, and from then on making it again changes
nothing (`makeDirectories_again`). -/

namespace HostedNode.Disk

open Act

/-! ### More directories -/

/-- The second disk is the first one with more directories. -/
structure Extends (d d' : Disk) : Prop where
  current : d'.current = d.current
  mishaps : d'.mishaps = d.mishaps
  place : ∀ p, d'.at? p = d.at? p ∨ d.at? p = none ∧ d'.at? p = some .directory

namespace Extends

variable {d d' d'' : Disk}

theorem refl (d : Disk) : Extends d d := ⟨rfl, rfl, fun _ => Or.inl rfl⟩

theorem trans (h : Extends d d') (h' : Extends d' d'') : Extends d d'' := by
  refine ⟨h'.current.trans h.current, h'.mishaps.trans h.mishaps, fun p => ?_⟩
  rcases h.place p with hp | ⟨hnone, hdir⟩
  · rw [← hp]
    exact h'.place p
  · have hdir' : d''.at? p = some .directory := by
      rcases h'.place p with hp | ⟨hp, -⟩
      · rw [hp, hdir]
      · rw [hp] at hdir
        cases hdir
    exact Or.inr ⟨hnone, hdir'⟩

/-- What is there stays there. -/
theorem at?_eq (h : Extends d d') {p : Place} {e : DiskEntry} (hp : d.at? p = some e) :
    d'.at? p = some e := by
  rcases h.place p with hsame | ⟨hnone, -⟩
  · rw [hsame, hp]
  · rw [hp] at hnone
    cases hnone

theorem keeps (h : Extends d d') : Keeps d d' := ⟨h.current, fun _ => h.at?_eq⟩

theorem put {p : Place} (hp : d.at? p = none) : Extends d (d.put p .directory) := by
  refine ⟨rfl, rfl, fun q => ?_⟩
  by_cases hq : q = p
  · subst hq
    have hne : q ≠ [] := by
      rintro rfl
      cases hp
    exact Or.inr ⟨hp, at?_put_self hne _⟩
  · exact Or.inl (at?_put_of_ne hq _)

/-- A file that can be read is read the same. -/
theorem read (h : Extends d d') {path : String} {bs : Bytes} (hr : d.read path = .ok bs) :
    d'.read path = .ok bs := by
  obtain ⟨p, hl, hp, hend⟩ := read_eq_ok.mp hr
  exact read_eq_ok.mpr ⟨p, h.keeps.locate hl, h.at?_eq hp, hend⟩

end Extends

/-! ### Directories at the end of a path -/

theorem isDirectory_iff {d : Disk} {path : String} :
    d.isDirectory path = true ↔ ∃ p, d.locate path = .ok p ∧ d.at? p = some .directory := by
  unfold isDirectory
  cases d.locate path <;> simp

theorem Keeps.isDirectory {d d' : Disk} (h : Keeps d d') {path : String}
    (hd : d.isDirectory path = true) : d'.isDirectory path = true := by
  obtain ⟨p, hl, hp⟩ := isDirectory_iff.mp hd
  exact isDirectory_iff.mpr ⟨p, h.locate hl, h.directory p hp⟩

/-- Making one directory adds it, or fails and changes nothing. -/
theorem makeDirectory_cases (path : String) (d : Disk) :
    (∃ p, d.locate path = .ok p ∧ d.at? p = none ∧
      makeDirectory path d = .ok () (d.put p .directory)) ∨
    ∃ e, makeDirectory path d = .error e d := by
  cases hl : d.locate path with
  | error e => exact Or.inr ⟨e, by simp [makeDirectory, change, hl, bind, Except.bind]⟩
  | ok p =>
    cases hp : d.at? p with
    | none =>
      refine Or.inl ⟨p, rfl, hp, ?_⟩
      simp [makeDirectory, change, hl, hp, bind, Except.bind, pure, Except.pure]
    | some e =>
      refine Or.inr ⟨.alreadyExists, ?_⟩
      simp [makeDirectory, change, hl, hp, bind, Except.bind, throw_eq_error]

theorem makeDirectory_ok {path : String} {d d' : Disk} (h : makeDirectory path d = .ok () d') :
    Extends d d' ∧ d'.isDirectory path = true := by
  rcases makeDirectory_cases path d with ⟨p, hl, hp, hd⟩ | ⟨e, he⟩
  · rw [h] at hd
    obtain rfl := (EStateM.Result.ok.inj hd).2
    have hext := Extends.put hp
    have hne : p ≠ [] := by
      rintro rfl
      cases hp
    exact ⟨hext, isDirectory_iff.mpr ⟨p, hext.keeps.locate hl, at?_put_self hne _⟩⟩
  · rw [h] at he
    cases he

theorem makeDirectory_error {path : String} {d d' : Disk} {e : DiskError}
    (h : makeDirectory path d = .error e d') : d' = d := by
  rcases makeDirectory_cases path d with ⟨p, -, -, hd⟩ | ⟨e', he⟩
  · rw [h] at hd
    cases hd
  · rw [h] at he
    exact (EStateM.Result.error.inj he).2

theorem makeDirectory_of_isDirectory {path : String} {d : Disk} (h : d.isDirectory path = true) :
    makeDirectory path d = .error .alreadyExists d := by
  obtain ⟨p, hl, hp⟩ := isDirectory_iff.mp h
  simp [makeDirectory, change, hl, hp, bind, Except.bind, throw_eq_error]

/-! ### Directories on the way to a path -/

theorem makeDirectoriesFrom_empty (n : Nat) (d : Disk) :
    makeDirectoriesFrom (n + 1) "" d = .ok () d := rfl

theorem makeDirectoriesFrom_succ (n : Nat) {path : String} (h : path ≠ "") (d : Disk) :
    makeDirectoriesFrom (n + 1) path d =
      match makeDirectory path d with
      | .ok () d => .ok () d
      | .error .notFound d =>
        match Path.parent? path with
        | none => .error .notFound d
        | some up =>
          match makeDirectoriesFrom n up d with
          | .error e d => .error e d
          | .ok () d =>
            match makeDirectory path d with
            | .ok () d => .ok () d
            | .error e d => if d.isDirectory path then .ok () d else .error e d
      | .error e d => if d.isDirectory path then .ok () d else .error e d :=
  congrFun (if_neg h) d

/-- What making directories may come to, from a disk. -/
def Laid (path : String) (d : Disk) : EStateM.Result DiskError Disk Unit → Prop
  | .ok () d' => Extends d d' ∧ (path = "" ∨ d'.isDirectory path = true)
  | .error _ d' => Extends d d'

/-- A last attempt that fails does not matter if there is a directory by now. -/
theorem laid_or_isDirectory {path : String} {d d' : Disk} (h : Extends d d') (e : DiskError) :
    Laid path d (if d'.isDirectory path then .ok () d' else .error e d') := by
  split_ifs with hdir
  · exact ⟨h, Or.inr hdir⟩
  · exact h

/-- One attempt, after which a directory that is there already is no fault. -/
theorem laid_makeDirectory {path : String} {d d' : Disk} (h : Extends d d') :
    Laid path d (match makeDirectory path d' with
      | .ok () d' => .ok () d'
      | .error e d' => if d'.isDirectory path then .ok () d' else .error e d') := by
  cases hmake : makeDirectory path d' with
  | ok u d'' =>
    obtain ⟨hext, hdir⟩ := makeDirectory_ok hmake
    exact ⟨h.trans hext, Or.inr hdir⟩
  | error e d'' =>
    obtain rfl := makeDirectory_error hmake
    exact laid_or_isDirectory h e

theorem laid_makeDirectoriesFrom (n : Nat) (path : String) (d : Disk) :
    Laid path d (makeDirectoriesFrom n path d) := by
  induction n generalizing path d with
  | zero => exact Extends.refl d
  | succ n ih =>
    by_cases hpath : path = ""
    · subst hpath
      exact ⟨.refl d, Or.inl rfl⟩
    · rw [makeDirectoriesFrom_succ n hpath]
      cases hfirst : makeDirectory path d with
      | ok u d1 =>
        obtain ⟨hext, hdir⟩ := makeDirectory_ok hfirst
        exact ⟨hext, Or.inr hdir⟩
      | error e d1 =>
        obtain rfl := makeDirectory_error hfirst
        cases e
        case notFound =>
          -- the directories above come first, and then the directory is tried once more
          cases hup : Path.parent? path with
          | none => exact Extends.refl d1
          | some up =>
            have hlaid := ih up d1
            cases habove : makeDirectoriesFrom n up d1 with
            | error e d2 =>
              rw [habove] at hlaid
              simp only [habove]
              exact hlaid
            | ok u d2 =>
              rw [habove] at hlaid
              simp only [habove]
              exact laid_makeDirectory hlaid.1
        all_goals exact laid_or_isDirectory (.refl d1) _

/-- **Making directories only adds directories, even if it fails.** -/
theorem extends_makeDirectories (path : String) (d : Disk) :
    Extends d (storeOutcome (makeDirectories path) d).2 := by
  have hlaid := laid_makeDirectoriesFrom ((Path.pieces path).length + 2) path d
  cases hmake : makeDirectories path d with
  | ok u d' =>
    rw [← makeDirectories, hmake] at hlaid
    rw [storeOutcome_of_ok hmake]
    exact hlaid.1
  | error e d' =>
    rw [← makeDirectories, hmake] at hlaid
    rw [storeOutcome_of_error hmake]
    exact hlaid

theorem makeDirectories_ok {path : String} {d d' : Disk} (h : makeDirectories path d = .ok () d') :
    Extends d d' ∧ (path = "" ∨ d'.isDirectory path = true) := by
  have hlaid := laid_makeDirectoriesFrom ((Path.pieces path).length + 2) path d
  unfold makeDirectories at h
  rwa [h] at hlaid

theorem makeDirectories_of_isDirectory {path : String} {d : Disk}
    (h : path = "" ∨ d.isDirectory path = true) : makeDirectories path d = .ok () d := by
  by_cases hpath : path = ""
  · subst hpath
    exact makeDirectoriesFrom_empty _ d
  · have hdir : d.isDirectory path = true := h.resolve_left hpath
    rw [makeDirectories, makeDirectoriesFrom_succ _ hpath]
    simp only [makeDirectory_of_isDirectory hdir, hdir, if_true]

/-- **What was made once need not be made again**, as long as directories stay directories. -/
theorem makeDirectories_again {path : String} {d d' d'' : Disk}
    (h : makeDirectories path d = .ok () d') (hkeep : Keeps d' d'') :
    makeDirectories path d'' = .ok () d'' := by
  obtain ⟨-, hdir⟩ := makeDirectories_ok h
  exact makeDirectories_of_isDirectory (hdir.imp_right hkeep.isDirectory)

end HostedNode.Disk

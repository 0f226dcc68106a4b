import HostedNode.Main
import HostedNode.Proofs.Disk.Files

/-! # Files that are left alone

A step on a disk leaves a file alone if it can be read the same after the step, whatever the step
comes to (`Retains`). Making directories leaves every file alone; writing and renaming one that
stands elsewhere. Where a path leads to, if it leads anywhere, its names alone say
(`locate_place`), so that whether two paths lead to one place does not change while the current
directory does not. -/

namespace HostedNode.Disk

open Act

/-! ### Places by their names -/

theorem foldl_of_walk {d : Disk} {p q : Place} {ns : List String} (h : d.walk p ns = .ok q) :
    ns.foldl (fun p n => if n = ".." then p.dropLast else p ++ [n]) p = q := by
  induction ns generalizing p with
  | nil => exact Except.ok.inj h
  | cons n ns ih =>
    obtain ⟨-, -, hrest⟩ := walk_cons_ok.mp h
    exact ih hrest

/-- A path leads to the place that its names say, or nowhere. -/
theorem locate_place {d : Disk} {path : String} {p : Place} (h : d.locate path = .ok p) :
    Program.placeOf d path = p := by
  unfold locate at h
  split_ifs at h with h1 h2 h3 habs
  · rw [Program.placeOf, if_pos habs]
    exact foldl_of_walk h
  · rw [Program.placeOf, if_neg habs]
    exact foldl_of_walk h

theorem placeOf_congr {d d' : Disk} (h : d'.current = d.current) (path : String) :
    Program.placeOf d' path = Program.placeOf d path := by
  rw [Program.placeOf, Program.placeOf, h]

/-! ### Files that stay -/

/-- A file that can be read on the first disk is read the same on the second one. -/
structure Retains (path : String) (d d' : Disk) : Prop where
  current : d'.current = d.current
  read : ∀ bs, d.read path = .ok bs → d'.read path = .ok bs

namespace Retains

variable {path : String} {d d' d'' : Disk}

theorem refl (path : String) (d : Disk) : Retains path d d := ⟨rfl, fun _ h => h⟩

theorem trans (h : Retains path d d') (h' : Retains path d' d'') : Retains path d d'' :=
  ⟨h'.current.trans h.current, fun bs hbs => h'.read bs (h.read bs hbs)⟩

/-- What stands at the place of the file stays there, and directories stay directories. -/
theorem of_keeps (h : Keeps d d') (hat : ∀ p, d.locate path = .ok p → d'.at? p = d.at? p) :
    Retains path d d' := by
  refine ⟨h.current, fun bs hbs => ?_⟩
  obtain ⟨p, hl, hp, hend⟩ := read_eq_ok.mp hbs
  exact read_eq_ok.mpr ⟨p, h.locate hl, (hat p hl).trans hp, hend⟩

end Retains

theorem Extends.retains {d d' : Disk} (h : Extends d d') (path : String) : Retains path d d' :=
  ⟨h.current, fun _ => h.read⟩

/-- Two paths do not lead to one place. -/
def Distinct (d : Disk) (path other : String) : Prop :=
  ∀ p, d.locate path = .ok p → d.locate other ≠ .ok p

theorem distinct_of_place {d : Disk} {path other : String}
    (h : Program.placeOf d path ≠ Program.placeOf d other) : Distinct d path other := by
  intro p hp hq
  exact h ((locate_place hp).trans (locate_place hq).symm)

theorem SameBut.retains {d d' : Disk} {path other : String} (h : SameBut other d d')
    (hne : Distinct d path other) : Retains path d d' := by
  refine .of_keeps h.keeps fun p hp => ?_
  by_contra hp'
  exact hne p hp (h.place p hp').1

/-! ### Writing -/

theorem sameBut_writeWith (path : String) (content : Option Bytes → Bytes) (d : Disk) :
    SameBut path d (storeOutcome (writeWith path content) d).2 := by
  obtain ⟨m, ms, hm⟩ := nextMishap_eq d
  have hsame := SameBut.expecting path d ms
  have hput : ∀ {p : Place} (bs : Bytes), (d.expecting ms).fileToWrite path = .ok p →
      SameBut path d ((d.expecting ms).put p (.file bs)) := by
    intro p bs hf
    obtain ⟨hl, hd, -⟩ := fileToWrite_ok hf
    exact hsame.trans (SameBut.put hl hd (.file bs))
  unfold storeOutcome writeWith
  simp only [bind, EStateM.bind, hm]
  cases hf : (d.expecting ms).fileToWrite path with
  | error e => exact hsame
  | ok p =>
    cases m with
    | none => exact hput _ hf
    | some m =>
      cases hleft : m.left with
      | none =>
        simp only [hleft]
        exact hsame
      | some left =>
        simp only [hleft]
        exact hput left hf

theorem retains_writeWith {path other : String} {d : Disk} (hne : Distinct d path other)
    (content : Option Bytes → Bytes) :
    Retains path d (storeOutcome (writeWith other content) d).2 :=
  (sameBut_writeWith other content d).retains hne

/-! ### Renaming -/

theorem retains_rename {path old new : String} {d : Disk} (hold : Distinct d path old)
    (hnew : Distinct d path new) : Retains path d (storeOutcome (rename old new) d).2 := by
  unfold storeOutcome
  cases hr : rename old new d with
  | error e d' =>
    obtain ⟨ms, rfl⟩ := rename_error hr
    exact .of_keeps (keeps_expecting d ms) fun _ _ => rfl
  | ok u d' =>
    obtain ⟨p, q, e, ms, hp, hfile, hmoved, hq, hqd, -, rfl⟩ := rename_ok hr
    have hpd : (d.expecting ms).at? p ≠ some .directory := by
      rw [at?_expecting, hfile]
      simpa using hmoved
    have hqd' : ((d.expecting ms).without p).at? q ≠ some .directory := by
      by_cases hqp : q = p
      · rw [hqp, at?_without_self (ne_nil_of_at? hpd)]
        simp
      · rwa [at?_without_of_ne hqp, at?_expecting]
    have hkeep := ((keeps_expecting d ms).trans (Keeps.without hpd)).trans (Keeps.put hqd' e)
    refine .of_keeps hkeep fun r hl => ?_
    have hrp : r ≠ p := by
      rintro rfl
      exact hold r hl hp
    have hrq : r ≠ q := by
      rintro rfl
      exact hnew r hl hq
    rw [at?_put_of_ne hrq, at?_without_of_ne hrp, at?_expecting]

end HostedNode.Disk

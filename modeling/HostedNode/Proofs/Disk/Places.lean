import HostedNode.Disk.Basic
import Mathlib.Data.List.Basic
import Mathlib.Tactic.SplitIfs

/-! # Files of one directory

Two plain names seen from one directory lead to two places right in the place of that directory
(`locate_join`). A place that was found is found again as long as directories stay directories
(`Keeps.locate`); putting a file where no directory is, or taking one away, leaves them so. -/

namespace HostedNode

namespace Path

theorem piecesFrom_append (piece a b : List Char) :
    piecesFrom piece (a ++ '/' :: b) = piecesFrom piece a ++ piecesFrom [] b := by
  induction a generalizing piece with
  | nil => simp [piecesFrom]
  | cons c a ih =>
    rw [List.cons_append, piecesFrom, piecesFrom]
    split_ifs with h
    · rw [ih, List.cons_append]
    · exact ih (c :: piece)

/-- What a path seen from a directory is: the two texts with one slash between them, or only the
second one. -/
theorem join_cases (base : String) {n : String} (hn : isAbsolute n = false) :
    (base = "" ∧ join base n = n) ∨
    (∃ b : List Char, base.toList = b ++ ['/'] ∧ join base n = base ++ n) ∨
    (base ≠ "" ∧ join base n = base ++ "/" ++ n) := by
  unfold join
  rw [if_neg (by simp [hn])]
  rcases List.eq_nil_or_concat base.toList with h | ⟨b, c, h⟩
  · have hbase : base = "" := String.toList_eq_nil_iff.mp h
    exact Or.inl ⟨hbase, by simp [h]⟩
  · rw [List.concat_eq_append] at h
    have hbase : base ≠ "" := by
      rintro rfl
      simp at h
    simp only [h, List.getLast?_append, List.getLast?_singleton, Option.some_or]
    by_cases hc : c = '/'
    · subst hc
      exact Or.inr (Or.inl ⟨b, rfl, by simp⟩)
    · exact Or.inr (Or.inr ⟨hbase, by simp [hc]⟩)

theorem names_join (base : String) {n : String} (hn : isAbsolute n = false) :
    names (join base n) = names base ++ names n := by
  unfold names pieces
  rcases join_cases base hn with ⟨rfl, hj⟩ | ⟨b, hb, hj⟩ | ⟨-, hj⟩
  · simp [hj, piecesFrom]
  · rw [hj, String.toList_append, hb, List.append_assoc, List.singleton_append,
      piecesFrom_append [] b n.toList, piecesFrom_append [] b []]
    simp [piecesFrom]
  · rw [hj, String.toList_append, String.toList_append, List.append_assoc]
    show List.filter _ (piecesFrom [] (base.toList ++ '/' :: n.toList)) = _
    rw [piecesFrom_append, List.filter_append]

theorem isAbsolute_join (base : String) {n : String} (hn : isAbsolute n = false) :
    isAbsolute (join base n) = isAbsolute base := by
  rcases join_cases base hn with ⟨rfl, hj⟩ | ⟨b, hb, hj⟩ | ⟨hne, hj⟩
  · rw [hj, hn]
    rfl
  · unfold isAbsolute
    rw [hj, String.toList_append, List.head?_append_of_ne_nil _ (by simp [hb])]
  · have hne : base.toList ≠ [] := by simpa using hne
    unfold isAbsolute
    rw [hj, String.toList_append, String.toList_append, List.append_assoc,
      List.head?_append_of_ne_nil _ hne]

/-- A name of a file, with nothing special about it. -/
structure Plain (n : String) : Prop where
  notAbsolute : isAbsolute n = false
  names_eq : names n = [n]
  ne_parent : n ≠ ".."
  noNul : n.toList.contains '\x00' = false
  short : n.utf8ByteSize ≤ 255

namespace Plain

variable {n : String}

theorem names_join (h : Plain n) (base : String) : names (join base n) = names base ++ [n] := by
  rw [Path.names_join base h.notAbsolute, h.names_eq]

theorem join_ne_empty (h : Plain n) (base : String) : join base n ≠ "" := by
  intro hj
  have hnames := h.names_join base
  rw [hj] at hnames
  simp [names, pieces, piecesFrom] at hnames

theorem contains_join (h : Plain n) (base : String) :
    (join base n).toList.contains '\x00' = base.toList.contains '\x00' := by
  have hn := h.noNul
  rcases join_cases base h.notAbsolute with ⟨rfl, hj⟩ | ⟨b, hb, hj⟩ | ⟨-, hj⟩
  · rw [hj, hn]
    rfl
  · rw [hj]
    simp_all
  · rw [hj]
    simp_all

theorem size_join {m : String} (h : Plain n) (hm : Plain m)
    (hs : m.utf8ByteSize ≤ n.utf8ByteSize) (base : String) :
    (join base m).utf8ByteSize ≤ (join base n).utf8ByteSize := by
  have h0 := h.notAbsolute
  have h1 := hm.notAbsolute
  unfold join
  rw [if_neg (by simp [h1]), if_neg (by simp [h0])]
  split
  · exact hs
  · split_ifs <;> simp only [String.utf8ByteSize_append] <;> omega

end Plain

end Path

namespace Disk

/-! ### What stands at a place -/

theorem at?_put_self {d : Disk} {p : Place} (hp : p ≠ []) (e : DiskEntry) :
    (d.put p e).at? p = some e := by
  unfold at? put
  rw [if_neg hp, List.lookup_cons_self]

/-- In a list whose values are changed by their keys, what is found is changed so. -/
theorem lookup_map {ι α β : Type} [BEq ι] [LawfulBEq ι] {i : ι} (f : ι → α → β)
    (xs : List (ι × α)) :
    (xs.map fun e => (e.1, f e.1 e.2)).lookup i = (xs.lookup i).map (f i) := by
  induction xs with
  | nil => rfl
  | cons e xs ih =>
    obtain ⟨j, a⟩ := e
    rw [List.map_cons, List.lookup_cons, List.lookup_cons, ih]
    cases h : i == j with
    | false => rfl
    | true =>
      obtain rfl := eq_of_beq h
      rfl

theorem lookup_filter_ne {α : Type} {p q : Place} (h : q ≠ p) (l : List (Place × α)) :
    (l.filter (·.1 ≠ p)).lookup q = l.lookup q := by
  induction l with
  | nil => rfl
  | cons e l ih =>
    obtain ⟨r, a⟩ := e
    by_cases hr : r = p
    · subst hr
      rw [List.filter_cons_of_neg (by simp), List.lookup_cons, beq_false_of_ne h, ih]
    · rw [List.filter_cons_of_pos (by simpa using hr), List.lookup_cons, List.lookup_cons, ih]

theorem at?_without_of_ne {d : Disk} {p q : Place} (h : q ≠ p) :
    (d.without p).at? q = d.at? q := by
  unfold at? without
  split_ifs
  · rfl
  · exact lookup_filter_ne h d.entries

theorem at?_without_self {d : Disk} {p : Place} (hp : p ≠ []) : (d.without p).at? p = none := by
  unfold at? without
  rw [if_neg hp, List.lookup_eq_none_iff]
  intro e he
  have hne : e.1 ≠ p := of_decide_eq_true (List.mem_filter.mp he).2
  simpa using hne.symm

theorem at?_put_of_ne {d : Disk} {p q : Place} (h : q ≠ p) (e : DiskEntry) :
    (d.put p e).at? q = d.at? q := by
  by_cases hq : q = []
  · rw [at?, at?, if_pos hq, if_pos hq]
  · have hw := at?_without_of_ne (d := d) h
    unfold at? at hw ⊢
    rw [if_neg hq] at hw ⊢
    rw [put, List.lookup_cons, beq_false_of_ne h]
    exact hw

/-! ### Places that are found again -/

/-- Directories of the first disk are directories of the second one. -/
structure Keeps (d d' : Disk) : Prop where
  current : d'.current = d.current
  directory : ∀ p, d.at? p = some .directory → d'.at? p = some .directory

theorem throw_eq_error {ε α : Type} (e : ε) : (throw e : Except ε α) = .error e := rfl

theorem enter_eq_ok {d : Disk} {p : Place} : d.enter p = .ok () ↔ d.at? p = some .directory := by
  unfold enter
  split <;> simp_all

theorem walk_append (d : Disk) (p : Place) (a b : List String) :
    d.walk p (a ++ b) = d.walk p a >>= fun q => d.walk q b := by
  induction a generalizing p with
  | nil => rfl
  | cons n a ih =>
    simp only [List.cons_append, walk, ih]
    cases d.enter p with
    | error e => rfl
    | ok u =>
      simp only [bind, Except.bind]
      split_ifs <;> rfl

/-- A step of a walk that succeeds starts in a directory. -/
theorem walk_cons_ok {d : Disk} {p q : Place} {n : String} {ns : List String} :
    d.walk p (n :: ns) = .ok q ↔ d.at? p = some .directory ∧ n.utf8ByteSize ≤ 255 ∧
      d.walk (if n = ".." then p.dropLast else p ++ [n]) ns = .ok q := by
  rw [walk, ← enter_eq_ok]
  cases d.enter p with
  | error e => simp [bind, Except.bind]
  | ok u =>
    by_cases hl : 255 < n.utf8ByteSize
    · have hle : ¬ n.utf8ByteSize ≤ 255 := by omega
      simp [bind, Except.bind, hl, hle, throw_eq_error]
    · have hle : n.utf8ByteSize ≤ 255 := by omega
      simp [bind, Except.bind, hl, hle]

namespace Keeps

variable {d d' : Disk}

theorem walk (h : Keeps d d') {p q : Place} {ns : List String} (hw : d.walk p ns = .ok q) :
    d'.walk p ns = .ok q := by
  induction ns generalizing p with
  | nil => exact hw
  | cons n ns ih =>
    obtain ⟨hp, hl, hw⟩ := walk_cons_ok.mp hw
    exact walk_cons_ok.mpr ⟨h.directory p hp, hl, ih hw⟩

theorem locate (h : Keeps d d') {path : String} {q : Place} (hq : d.locate path = .ok q) :
    d'.locate path = .ok q := by
  unfold Disk.locate at hq ⊢
  rw [h.current]
  split_ifs at hq ⊢ <;> exact h.walk hq

theorem trans {d'' : Disk} (h : Keeps d d') (h' : Keeps d' d'') : Keeps d d'' :=
  ⟨h'.current.trans h.current, fun p hp => h'.directory p (h.directory p hp)⟩

theorem put {p : Place} (hp : d.at? p ≠ some .directory) (e : DiskEntry) :
    Keeps d (d.put p e) := by
  refine ⟨rfl, fun q hq => ?_⟩
  have hne : q ≠ p := by
    rintro rfl
    exact hp hq
  rw [at?_put_of_ne hne, hq]

theorem without {p : Place} (hp : d.at? p ≠ some .directory) : Keeps d (d.without p) := by
  refine ⟨rfl, fun q hq => ?_⟩
  have hne : q ≠ p := by
    rintro rfl
    exact hp hq
  rw [at?_without_of_ne hne, hq]

end Keeps

/-- **Two plain names seen from one directory lead to two places in one place.** -/
theorem locate_join {d : Disk} {directory n m : String} {p : Place} (hn : Path.Plain n)
    (hm : Path.Plain m) (hs : m.utf8ByteSize ≤ n.utf8ByteSize)
    (h : d.locate (Path.join directory n) = .ok p) :
    ∃ base, p = base ++ [n] ∧ d.locate (Path.join directory m) = .ok (base ++ [m]) := by
  have hsize := hn.size_join hm hs directory
  unfold locate at h ⊢
  rw [hn.contains_join, Path.isAbsolute_join _ hn.notAbsolute, hn.names_join] at h
  rw [hm.contains_join, Path.isAbsolute_join _ hm.notAbsolute, hm.names_join]
  rw [if_neg (hm.join_ne_empty directory)]
  generalize (if Path.isAbsolute directory = true then [] else d.current) = start at h ⊢
  split_ifs at h with h1 h2 h3
  rw [if_neg h1, if_neg (by omega)]
  rw [walk_append] at h ⊢
  cases hw : d.walk start (Path.names directory) with
  | error e =>
    rw [hw] at h
    cases h
  | ok base =>
    rw [hw] at h
    obtain ⟨hbase, -, hp⟩ := walk_cons_ok.mp h
    rw [if_neg hn.ne_parent] at hp
    refine ⟨base, (Except.ok.inj hp).symm, walk_cons_ok.mpr ⟨hbase, hm.short, ?_⟩⟩
    rw [if_neg hm.ne_parent]
    rfl

end Disk

end HostedNode

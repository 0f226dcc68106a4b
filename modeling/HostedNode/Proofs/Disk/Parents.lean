import HostedNode.Proofs.Disk.Files

/-! # Directories that are there already

The path of the directory that a path lies in has all names of the path but the last one, starts
where the path does, and is no longer than it (`parent_cases`). So where a path leads to a place,
that directory is there (`isDirectory_parent`), and the directories of the path need not be made:
`makeParents` succeeds, and changes nothing (`makeParents_of_locate`). -/

namespace HostedNode

namespace Path

/-! ### Names -/

/-- A text that stands as a name between the slashes of a path. -/
structure Name (n : String) : Prop where
  noSlash : '/' ∉ n.toList
  nonempty : n ≠ ""
  ne_dot : n ≠ "."

theorem piecesFrom_of_noSlash {cs : List Char} (h : '/' ∉ cs) (piece : List Char) :
    piecesFrom piece cs = [String.ofList (piece.reverse ++ cs)] := by
  induction cs generalizing piece with
  | nil => rw [piecesFrom, List.append_nil]
  | cons c cs ih =>
    obtain ⟨hc, hcs⟩ := not_or.mp (mt List.mem_cons.mpr h)
    rw [piecesFrom, if_neg (Ne.symm hc), ih hcs, List.reverse_cons, List.append_assoc]
    rfl

namespace Name

variable {n : String}

theorem isAbsolute (h : Name n) : isAbsolute n = false := by
  rw [Path.isAbsolute, decide_eq_false_iff_not]
  exact fun hhead => h.noSlash (List.mem_of_head? hhead)

theorem names (h : Name n) : names n = [n] := by
  rw [Path.names, pieces, piecesFrom_of_noSlash h.noSlash, List.reverse_nil, List.nil_append,
    String.ofList_toList, List.filter_cons_of_pos (by simp [h.nonempty, h.ne_dot]), List.filter_nil]

end Name

/-- The characters of a piece are none but those of the path, and no slashes. -/
theorem mem_piecesFrom {cs piece : List Char} (hpiece : '/' ∉ piece) :
    ∀ n ∈ piecesFrom piece cs, '/' ∉ n.toList ∧ ∀ c ∈ n.toList, c ∈ piece ∨ c ∈ cs := by
  induction cs generalizing piece with
  | nil =>
    intro n hn
    rw [piecesFrom, List.mem_singleton] at hn
    subst hn
    simpa using hpiece
  | cons c cs ih =>
    intro n hn
    rw [piecesFrom] at hn
    split_ifs at hn with hc
    · rcases List.mem_cons.mp hn with rfl | hn
      · simpa using ⟨hpiece, fun d hd => Or.inl hd⟩
      · obtain ⟨hslash, hchars⟩ := ih (by simp) n hn
        refine ⟨hslash, fun d hd => Or.inr ?_⟩
        simpa using Or.inr ((hchars d hd).resolve_left (by simp))
    · obtain ⟨hslash, hchars⟩ := ih (by simpa using ⟨Ne.symm hc, hpiece⟩) n hn
      refine ⟨hslash, fun d hd => ?_⟩
      rcases hchars d hd with hd | hd
      · rcases List.mem_cons.mp hd with rfl | hd
        · exact Or.inr List.mem_cons_self
        · exact Or.inl hd
      · exact Or.inr (List.mem_cons_of_mem _ hd)

theorem mem_names {p n : String} (h : n ∈ names p) : Name n ∧ ∀ c ∈ n.toList, c ∈ p.toList := by
  obtain ⟨hpiece, hname⟩ := List.mem_filter.mp h
  obtain ⟨hslash, hchars⟩ := mem_piecesFrom (by simp) n hpiece
  have hne : n ≠ "" ∧ n ≠ "." := by simpa using hname
  exact ⟨⟨hslash, hne.1, hne.2⟩, fun c hc => (hchars c hc).resolve_left (by simp)⟩

/-! ### Lengths -/

/-- The bytes that names take, with a slash behind each. -/
def bytesWith : List String → Nat
  | [] => 0
  | n :: ns => n.utf8ByteSize + 1 + bytesWith ns

theorem bytesWith_append (ns ms : List String) :
    bytesWith (ns ++ ms) = bytesWith ns + bytesWith ms := by
  induction ns with
  | nil => rw [List.nil_append, bytesWith, Nat.zero_add]
  | cons n ns ih =>
    rw [List.cons_append, bytesWith, bytesWith, ih]
    omega

theorem bytesWith_filter_le (p : String → Bool) (ns : List String) :
    bytesWith (ns.filter p) ≤ bytesWith ns := by
  induction ns with
  | nil => exact Nat.le_refl _
  | cons n ns ih =>
    rw [List.filter_cons, bytesWith]
    split_ifs
    · rw [bytesWith]
      omega
    · omega

theorem bytesWith_piecesFrom (piece cs : List Char) :
    bytesWith (piecesFrom piece cs) =
      (String.ofList piece.reverse).utf8ByteSize + (String.ofList cs).utf8ByteSize + 1 := by
  induction cs generalizing piece with
  | nil => simp [piecesFrom, bytesWith]
  | cons c cs ih =>
    rw [piecesFrom, String.ofList_cons, String.utf8ByteSize_append, String.utf8ByteSize_singleton]
    split_ifs with hc
    · subst hc
      have hslash : Char.utf8Size '/' = 1 := by decide
      rw [bytesWith, ih, hslash, List.reverse_nil, String.ofList_nil, String.utf8ByteSize_empty]
      omega
    · rw [ih, List.reverse_cons, String.ofList_append, String.utf8ByteSize_append]
      simp only [String.ofList_cons, String.utf8ByteSize_append, String.utf8ByteSize_singleton,
        String.ofList_nil, String.utf8ByteSize_empty]
      omega

/-- The names of a path, and the first part of it that is no name, are no longer than the path. -/
theorem length_start_add_bytesWith_names (p : String) :
    (start p).length + bytesWith (names p) ≤ p.utf8ByteSize + 1 := by
  have hall : bytesWith (pieces p) = p.utf8ByteSize + 1 := by
    rw [pieces, bytesWith_piecesFrom, String.ofList_toList]
    simp
  have hnames := bytesWith_filter_le (fun n => n ≠ "" && n ≠ ".") (pieces p)
  -- the first piece stands for the part that is no name, and is none of the names
  have hfirst : ∀ first rest, pieces p = first :: rest → (first = "" ∨ first = ".") →
      1 + bytesWith (names p) ≤ p.utf8ByteSize + 1 := by
    intro first rest hpieces hnot
    have hskip : names p = rest.filter fun n => n ≠ "" && n ≠ "." := by
      rw [names, hpieces]
      exact List.filter_cons_of_neg (by rcases hnot with rfl | rfl <;> decide)
    have hrest := bytesWith_filter_le (fun n => n ≠ "" && n ≠ ".") rest
    rw [← hall, hpieces, bytesWith, hskip]
    omega
  unfold start
  split_ifs with habs hdot
  · have hhead : p.toList.head? = some '/' := of_decide_eq_true habs
    obtain ⟨cs, hcs⟩ := List.head?_eq_some_iff.mp hhead
    exact hfirst "" (piecesFrom [] cs) (by rw [pieces, hcs]; rfl) (Or.inl rfl)
  · obtain ⟨rest, hrest⟩ := List.head?_eq_some_iff.mp hdot
    exact hfirst "." rest hrest (Or.inr rfl)
  · rw [← hall, List.length_nil, Nat.zero_add]
    exact hnames

/-! ### Names behind each other -/

/-- There is one slash at most between two texts that are joined. -/
theorem exists_join (base : String) {n : String} (hn : isAbsolute n = false) :
    ∃ slash, (slash = "" ∨ slash = "/") ∧ join base n = base ++ slash ++ n := by
  rcases join_cases base hn with ⟨rfl, hj⟩ | ⟨-, -, hj⟩ | ⟨-, hj⟩
  · exact ⟨"", Or.inl rfl, by rw [hj, String.append_empty, String.empty_append]⟩
  · exact ⟨"", Or.inl rfl, by rw [hj, String.append_empty]⟩
  · exact ⟨"/", Or.inr rfl, hj⟩

section Joined

variable {ns : List String} (hns : ∀ n ∈ ns, Name n) (base : String)
include hns

theorem names_joined : names (ns.foldl join base) = names base ++ ns := by
  induction ns generalizing base with
  | nil => rw [List.foldl_nil, List.append_nil]
  | cons n ns ih =>
    obtain ⟨hn, hns⟩ := List.forall_mem_cons.mp hns
    rw [List.foldl_cons, ih hns, names_join base hn.isAbsolute, hn.names, List.append_assoc,
      List.singleton_append]

theorem isAbsolute_joined : isAbsolute (ns.foldl join base) = isAbsolute base := by
  induction ns generalizing base with
  | nil => rfl
  | cons n ns ih =>
    obtain ⟨hn, hns⟩ := List.forall_mem_cons.mp hns
    rw [List.foldl_cons, ih hns, isAbsolute_join base hn.isAbsolute]

theorem size_joined_le :
    (ns.foldl join base).utf8ByteSize ≤ base.utf8ByteSize + bytesWith ns := by
  induction ns generalizing base with
  | nil => exact Nat.le_refl _
  | cons n ns ih =>
    obtain ⟨hn, hns⟩ := List.forall_mem_cons.mp hns
    obtain ⟨slash, hslash, hjoin⟩ := exists_join base hn.isAbsolute
    have hone : slash.utf8ByteSize ≤ 1 := by rcases hslash with rfl | rfl <;> decide
    have hrest := ih hns (join base n)
    rw [hjoin, String.utf8ByteSize_append, String.utf8ByteSize_append] at hrest
    rw [List.foldl_cons, bytesWith, hjoin]
    omega

theorem mem_joined {c : Char} (hc : c ∈ (ns.foldl join base).toList) :
    c ∈ base.toList ∨ c = '/' ∨ ∃ n ∈ ns, c ∈ n.toList := by
  induction ns generalizing base with
  | nil => exact Or.inl hc
  | cons n ns ih =>
    obtain ⟨hn, hns⟩ := List.forall_mem_cons.mp hns
    obtain ⟨slash, hslash, hjoin⟩ := exists_join base hn.isAbsolute
    rcases ih hns (join base n) hc with hc | hc | ⟨m, hm, hc⟩
    · rw [hjoin, String.toList_append, String.toList_append, List.mem_append, List.mem_append] at hc
      rcases hc with (hc | hc) | hc
      · exact Or.inl hc
      · rcases hslash with rfl | rfl
        · simp at hc
        · exact Or.inr (Or.inl (by simpa using hc))
      · exact Or.inr (Or.inr ⟨n, List.mem_cons_self, hc⟩)
    · exact Or.inr (Or.inl hc)
    · exact Or.inr (Or.inr ⟨m, List.mem_cons_of_mem _ hm, hc⟩)

end Joined

/-! ### Paths of directories -/

/-- The second path is one of the directory that the first one lies in: it starts where that one
does, has all of its names but the last one, and is put together from it. -/
structure LiesIn (p up : String) : Prop where
  names_eq : ∃ n, names p = names up ++ [n]
  isAbsolute_eq : isAbsolute up = isAbsolute p
  size_le : up.utf8ByteSize ≤ p.utf8ByteSize
  chars : ∀ c ∈ up.toList, c = '/' ∨ c ∈ p.toList

theorem start_cases (p : String) :
    (start p = ["/"] ∧ isAbsolute p = true ∧ '/' ∈ p.toList) ∨
    (start p = ["."] ∧ isAbsolute p = false ∧ '.' ∈ p.toList) ∨
      (start p = [] ∧ isAbsolute p = false) := by
  unfold start
  split_ifs with habs hdot
  · have hhead : p.toList.head? = some '/' := of_decide_eq_true habs
    exact Or.inl ⟨rfl, habs, List.mem_of_head? hhead⟩
  · have hchars := (mem_piecesFrom (by simp) "." (List.mem_of_head? hdot)).2 '.' (by simp)
    exact Or.inr (Or.inl ⟨rfl, by simpa using habs, hchars.resolve_left (by simp)⟩)
  · exact Or.inr (Or.inr ⟨rfl, by simpa using habs⟩)

/-- Names put behind the first part of a path give the path of a directory that it lies in. -/
theorem liesIn_joined {p n : String} {ns : List String} (hnames : names p = ns ++ [n])
    (base : String) (hbase : names base = []) (habs : isAbsolute base = isAbsolute p)
    (hsize : base.utf8ByteSize = (start p).length) (hchars : ∀ c ∈ base.toList, c ∈ p.toList) :
    LiesIn p (ns.foldl join base) := by
  have hmem : ∀ m ∈ ns, Name m ∧ ∀ c ∈ m.toList, c ∈ p.toList := fun m hm =>
    mem_names (by rw [hnames]; exact List.mem_append_left _ hm)
  have hns : ∀ m ∈ ns, Name m := fun m hm => (hmem m hm).1
  refine ⟨⟨n, by rw [names_joined hns, hbase, List.nil_append, hnames]⟩,
    by rw [isAbsolute_joined hns, habs], ?_, fun c hc => ?_⟩
  · have hbytes := length_start_add_bytesWith_names p
    have hjoined := size_joined_le hns base
    rw [hnames, bytesWith_append, bytesWith] at hbytes
    omega
  · rcases mem_joined hns base hc with hc | hc | ⟨m, hm, hc⟩
    · exact Or.inr (hchars c hc)
    · exact Or.inl hc
    · exact Or.inr ((hmem m hm).2 c hc)

/-- The directory that a path lies in is the current one, or has a path of its own. -/
theorem parent_cases {p up : String} (h : parent? p = some up) : up = "" ∨ LiesIn p up := by
  rcases List.eq_nil_or_concat (names p) with hnames | ⟨ns, n, hnames⟩
  · rcases start_cases p with ⟨hstart, -⟩ | ⟨hstart, -⟩ | ⟨hstart, -⟩
    · simp [parent?, hstart, hnames] at h
    · exact Or.inl (by simpa [parent?, hstart, hnames, eq_comm] using h)
    · simp [parent?, hstart, hnames] at h
  · rw [List.concat_eq_append] at hnames
    have hparent : parent? p = some (ofParts (start p ++ ns)) := by
      rw [parent?, hnames, List.reverse_append, List.reverse_singleton, List.singleton_append]
      rcases start_cases p with ⟨hstart, -⟩ | ⟨hstart, -⟩ | ⟨hstart, -⟩
      all_goals simp only [hstart, List.reverse_reverse]
    rw [h] at hparent
    obtain rfl := Option.some.inj hparent
    refine Or.inr ?_
    rcases start_cases p with ⟨hstart, habs, hslash⟩ | ⟨hstart, habs, hdot⟩ | ⟨hstart, habs⟩
    · rw [hstart]
      exact liesIn_joined hnames "/" (by decide) (by rw [habs]; decide)
        (by rw [hstart]; decide) (by simpa using hslash)
    · rw [hstart]
      exact liesIn_joined hnames "." (by decide) (by rw [habs]; decide)
        (by rw [hstart]; decide) (by simpa using hdot)
    · rw [hstart]
      exact liesIn_joined hnames "" (by decide) (by rw [habs]; decide)
        (by rw [hstart]; decide) (by simp)

end Path

namespace Disk

/-- **Where a path leads to a place, the directory that it lies in is there.** -/
theorem isDirectory_parent {d : Disk} {path up : String} {p : Place} (h : d.locate path = .ok p)
    (hup : Path.parent? path = some up) : up = "" ∨ d.isDirectory up = true := by
  by_cases hempty : up = ""
  · exact Or.inl hempty
  · refine Or.inr (isDirectory_iff.mpr ?_)
    obtain ⟨⟨n, hnames⟩, habs, hsize, hchars⟩ := (Path.parent_cases hup).resolve_left hempty
    unfold locate at h ⊢
    rw [if_neg hempty, habs]
    rw [hnames] at h
    generalize (if Path.isAbsolute path = true then [] else d.current) = start at h ⊢
    split_ifs at h with hnul hpath hlong
    have hnone : ¬ up.toList.contains '\x00' = true := by
      rw [List.contains_iff_mem] at hnul ⊢
      exact fun hc => hnul ((hchars _ hc).resolve_left (by decide))
    rw [if_neg hnone, if_neg (by omega)]
    rw [walk_append] at h
    cases hw : d.walk start (Path.names up) with
    | error e =>
      rw [hw] at h
      cases h
    | ok q =>
      rw [hw] at h
      exact ⟨q, rfl, (walk_cons_ok.mp h).1⟩

/-- **Where a path leads to a place, the directories on the way need not be made.** -/
theorem makeParents_of_locate {d : Disk} {path : String} {p : Place} (h : d.locate path = .ok p) :
    makeParents path d = .ok () d := by
  unfold makeParents
  cases hup : Path.parent? path with
  | none => rfl
  | some up => exact makeDirectories_of_isDirectory (isDirectory_parent h hup)

end Disk

end HostedNode

import HostedNode.Proofs.Toml.Strings
import HostedNode.Settings.Document

/-! # Settings survive their document

Settings are read back from the document that is written for them (`ofDocument?_document`): its
lines come to fields one by one, first those of the document, then those of the table for the log,
and each setting is found under its key. -/

namespace HostedNode.Settings

open Toml

/-! ### Lines -/

/-- A text that can stand as a key without quotes. -/
structure Bare (key : String) : Prop where
  nonempty : key.toList ≠ []
  isBare : ∀ c ∈ key.toList, isBare c = true

/-- A character of a key without quotes is none that means something before a key. -/
theorem ne_of_isBare {c : Char} (h : Toml.isBare c = true) :
    c ≠ '\n' ∧ c ≠ '\r' ∧ c ≠ '#' ∧ c ≠ '[' ∧ Toml.isSpace c = false := by
  have hne : ∀ d : Char, Toml.isBare d = false → c ≠ d := by
    rintro d hd rfl
    rw [h] at hd
    cases hd
  refine ⟨hne _ (by decide), hne _ (by decide), hne _ (by decide), hne _ (by decide), ?_⟩
  simp [Toml.isSpace, hne ' ' (by decide), hne '\t' (by decide)]

/-- With the lines that are left, the document has these fields, if there is a step for each
character. -/
def Reads (d : Draft) (cs : List Char) (fields : Fields) : Prop :=
  ∀ n, cs.length < n → readLines n d cs = some fields

theorem reads_nil (d : Draft) : Reads d [] d.root := by
  intro n hn
  obtain ⟨n, rfl⟩ : ∃ m, n = m + 1 := ⟨n - 1, by simp at hn; omega⟩
  rfl

/-- An empty line. -/
theorem Reads.blank {d : Draft} {cs : List Char} {fields : Fields} (h : Reads d cs fields) :
    Reads d ('\n' :: cs) fields := by
  intro n hn
  rw [List.length_cons] at hn
  obtain ⟨n, rfl⟩ : ∃ m, n = m + 1 := ⟨n - 1, by omega⟩
  have hskip : skipLines false ('\n' :: cs) = skipLines false cs := rfl
  rw [readLines, hskip, ← readLines]
  exact h (n + 1) (by omega)

/-- A line that is read as a statement. -/
theorem Reads.statement {d d' : Draft} {c : Char} {cs more : List Char} {fields : Fields}
    (hc : skipLines false (c :: (cs ++ '\n' :: more)) = some (c :: (cs ++ '\n' :: more)))
    (hs : ∀ fuel, readStatement (fuel + 1) d (c :: (cs ++ '\n' :: more)) = some (d', '\n' :: more))
    (h : Reads d' more fields) : Reads d (c :: (cs ++ '\n' :: more)) fields := by
  intro n hn
  rw [List.length_cons, List.length_append, List.length_cons] at hn
  obtain ⟨n, rfl⟩ : ∃ m, n = m + 1 := ⟨n - 1, by omega⟩
  have hend : endLine false ('\n' :: more) = some more := rfl
  rw [readLines, hc]
  simp only [bind, Option.bind, hs, hend]
  exact h n (by omega)

theorem skipLines_of_bare {c : Char} (hc : Toml.isBare c = true) (cs : List Char) :
    skipLines false (c :: cs) = some (c :: cs) := by
  obtain ⟨h1, h2, h3, -, h5⟩ := ne_of_isBare hc
  rw [skipLines, if_neg h1, if_neg h2, if_neg (by simp), if_neg (by simp [h5]), if_neg h3]

/-- A key without quotes, up to something that cannot go on with it. -/
theorem readKey_of_bare {key : String} (hk : Bare key) {cs rest : List Char}
    (hcs : cs.takeWhile Toml.isBare = []) (hrest : Toml.skipSpace cs = rest)
    (hdot : rest.head? ≠ some '.') : readKey (key.toList ++ cs) = some (([], key), rest) := by
  have htake : (key.toList ++ cs).takeWhile Toml.isBare = key.toList := by
    rw [List.takeWhile_append_of_pos hk.isBare, hcs, List.append_nil]
  have hdrop : (key.toList ++ cs).dropWhile Toml.isBare = cs := by
    have hsplit := List.takeWhile_append_dropWhile (p := Toml.isBare) (l := cs)
    rw [hcs, List.nil_append] at hsplit
    rw [List.dropWhile_append_of_pos hk.isBare, hsplit]
  have hpart : readPart (key.toList ++ cs) = some (key, cs) := by
    obtain ⟨c, ks, hkey⟩ := List.exists_cons_of_ne_nil hk.nonempty
    rw [readPart, htake, hdrop, hkey]
    simp only
    rw [← hkey, String.ofList_toList]
  rw [readKey, maxParts, readKeyFrom, hpart]
  simp only [bind, Option.bind, hrest]
  split
  · exact absurd rfl hdot
  · rfl

theorem readValue_writeString (fuel : Nat) (value : String) (more : List Char) :
    readValue (fuel + 1) maxDepth (writeString value ++ '\n' :: more) =
      some (.string value, '\n' :: more) := by
  have hread : readString (writeString value ++ '\n' :: more) = some (value, '\n' :: more) :=
    readString_writeString value (by simp) (by simp)
  obtain ⟨q, cs, hq, hcs⟩ := exists_quote value
  rw [hcs, List.cons_append] at hread ⊢
  rcases hq with rfl | rfl
  all_goals
    show (readString _).map _ = _
    rw [hread]
    rfl

theorem skipSpace_writeString (value : String) (more : List Char) :
    Toml.skipSpace (' ' :: (writeString value ++ more)) = writeString value ++ more := by
  obtain ⟨q, cs, hq, hcs⟩ := exists_quote value
  rw [hcs]
  rcases hq with rfl | rfl
  all_goals rfl

/-- The line of a setting comes to a field. -/
theorem readStatement_line {key : String} (hk : Bare key) {d : Draft} {value : String}
    {root : Fields} (hroot : enter true (fun _ fields => assign [] key (.string value) fields)
      d.header .header d.root = some root) (fuel : Nat) (more : List Char) :
    readStatement (fuel + 1) d
        (key.toList ++ (' ' :: '=' :: ' ' :: (writeString value ++ '\n' :: more))) =
      some ({ d with root }, '\n' :: more) := by
  have hkey : readKey (key.toList ++ (' ' :: '=' :: ' ' :: (writeString value ++ '\n' :: more))) =
      some (([], key), '=' :: ' ' :: (writeString value ++ '\n' :: more)) :=
    readKey_of_bare hk rfl rfl (by simp)
  have hassigned : readAssigned (key.toList ++
      (' ' :: '=' :: ' ' :: (writeString value ++ '\n' :: more))) =
      some (([], key), writeString value ++ '\n' :: more) := by
    rw [readAssigned, hkey]
    simp only [bind, Option.bind, takeChar, if_pos, skipSpace_writeString]
    rfl
  obtain ⟨c, ks, hcs⟩ := List.exists_cons_of_ne_nil hk.nonempty
  have hc : c ≠ '[' := (ne_of_isBare (hk.isBare c (by simp [hcs]))).2.2.2.1
  rw [hcs, List.cons_append] at hassigned ⊢
  unfold readStatement
  split
  · rename_i heq
    exact absurd (List.cons.inj heq).1 hc
  · rename_i heq
    exact absurd (List.cons.inj heq).1 hc
  · simp only [hassigned, bind, Option.bind, readValue_writeString, hroot]
    rfl

theorem Reads.line {key : String} (hk : Bare key) {d : Draft} {value : String} {root : Fields}
    (hroot : enter true (fun _ fields => assign [] key (.string value) fields)
      d.header .header d.root = some root) {more : List Char} {fields : Fields}
    (h : Reads { d with root } more fields) : Reads d (line key value ++ more) fields := by
  obtain ⟨c, ks, hcs⟩ := List.exists_cons_of_ne_nil hk.nonempty
  have hc : Toml.isBare c = true := hk.isBare c (by simp [hcs])
  have hstatement := fun fuel => readStatement_line hk hroot fuel more
  have hline : Settings.line key value ++ more =
      c :: ((ks ++ ' ' :: '=' :: ' ' :: writeString value) ++ '\n' :: more) := by
    simp [Settings.line, hcs]
  rw [hline]
  refine .statement (skipLines_of_bare hc _) (fun fuel => ?_) h
  have hst := hstatement fuel
  rw [hcs] at hst
  simpa using hst

/-- The header of a table that is not there yet. -/
theorem Reads.header {key : String} (hk : Bare key) {d : Draft}
    (hnew : d.root.lookup key = none) {more : List Char} {fields : Fields}
    (h : Reads ⟨d.root.add key (.table .header []), [key]⟩ more fields) :
    Reads d ('[' :: ((key.toList ++ [']']) ++ '\n' :: more)) fields := by
  have hkey : readKey (key.toList ++ ']' :: '\n' :: more) =
      some (([], key), ']' :: '\n' :: more) := readKey_of_bare hk rfl rfl (by simp)
  obtain ⟨c, ks, hcs⟩ := List.exists_cons_of_ne_nil hk.nonempty
  have hc := ne_of_isBare (hk.isBare c (by simp [hcs]))
  have hskip : Toml.skipSpace (key.toList ++ ']' :: '\n' :: more) =
      key.toList ++ ']' :: '\n' :: more := by
    rw [hcs, List.cons_append, Toml.skipSpace, List.dropWhile_cons_of_neg (by simp [hc.2.2.2.2])]
  have hopen : openTable [] key d.root = some (d.root.add key (.table .header [])) := by
    rw [openTable, enter, hnew]
  refine .statement rfl (fun fuel => ?_) h
  rw [List.append_assoc, List.singleton_append]
  have hsecond : ∀ rest, key.toList ++ ']' :: '\n' :: more ≠ '[' :: rest := by
    intro rest heq
    rw [hcs] at heq
    exact hc.2.2.2.1 (List.cons.inj heq).1
  generalize hbody : key.toList ++ ']' :: '\n' :: more = body at hkey hskip hsecond ⊢
  unfold readStatement
  split
  · rename_i heq
    exact absurd (List.cons.inj heq).2 (hsecond _)
  · rename_i heq
    obtain ⟨-, rfl⟩ := List.cons.inj heq
    simp only [readHeader, hskip, hkey, bind, Option.bind, takeChar, if_pos, hopen]
    rfl
  · rename_i h1 h2
    exact absurd rfl (h2 _)

/-! ### Sections -/

/-- Settings by key, those that are not set included. -/
abbrev Entries := List (String × Option String)

/-- The lines of settings. -/
def entryLines (es : Entries) : List Char := es.flatMap fun e => line? e.1 e.2

/-- The fields that the lines come to. -/
def entryFields (es : Entries) : Fields :=
  es.filterMap fun e => e.2.map fun v => (e.1, .string v)

/-- Drafts with some fields at the place where the next lines go. -/
structure Grows (draft : Fields → Draft) : Prop where
  add : ∀ (fields : Fields) (key : String) (v : Toml), fields.lookup key = none →
    enter true (fun _ fields => assign [] key v fields) (draft fields).header .header
      (draft fields).root = some (draft (fields.add key v)).root
  header : ∀ fields fields', (draft fields').header = (draft fields).header

theorem assign_of_absent {fields : Fields} {key : String} (v : Toml)
    (h : fields.lookup key = none) : assign [] key v fields = some (fields.add key v) := by
  rw [assign, enter, h]
  rfl

/-- Before all headers the lines go to the document. -/
theorem grows_root : Grows fun fields => ⟨fields, []⟩ where
  add fields key v h := by
    show assign [] key v fields = _
    exact assign_of_absent v h
  header _ _ := rfl

/-- Behind a header they go to its table. -/
theorem grows_table {root : Fields} {name : String} (hn : root.lookup name = none) :
    Grows fun fields => ⟨root.add name (.table .header fields), [name]⟩ where
  add fields key v h := by
    have hlookup : (root.add name (.table .header fields)).lookup name =
        some (.table .header fields) := by
      rw [Fields.add, List.lookup_append, hn]
      simp
    have hset : ∀ w, (root.add name (.table .header fields)).set name w = root.add name w := by
      intro w
      have hroot : root.map (fun f => if f.1 = name then (name, w) else f) = root.map id := by
        refine List.map_congr_left fun f hf => if_neg ?_
        rintro rfl
        have hne := List.lookup_eq_none_iff.mp hn f hf
        simp at hne
      rw [List.map_id] at hroot
      rw [Fields.set, Fields.add, List.map_append, hroot]
      simp [Fields.add]
    simp only [enter, hlookup, Origin.admits, if_pos, assign_of_absent v h, bind, Option.bind, hset]
    rfl
  header _ _ := rfl

theorem Reads.entries {draft : Fields → Draft} (hd : Grows draft) {es : Entries}
    (hk : ∀ e ∈ es, Bare e.1) (hnames : (es.map (·.1)).Nodup) {done : Fields}
    (hdone : ∀ e ∈ es, done.lookup e.1 = none) {more : List Char} {fields : Fields}
    (h : Reads (draft (done ++ entryFields es)) more fields) :
    Reads (draft done) (entryLines es ++ more) fields := by
  induction es generalizing done with
  | nil => simpa [entryFields, entryLines] using h
  | cons e es ih =>
    obtain ⟨key, value⟩ := e
    obtain ⟨hkey, hn⟩ := List.nodup_cons.mp hnames
    have hk' : ∀ e ∈ es, Bare e.1 := fun e he => hk e (by simp [he])
    cases value with
    | none =>
      have hrest := ih hk' hn (fun e he => hdone e (by simp [he])) h
      simpa [entryLines, line?] using hrest
    | some value =>
      have hfresh : ∀ e ∈ es, (done.add key (.string value)).lookup e.1 = none := by
        intro e he
        have hne : e.1 ≠ key := by
          rintro rfl
          exact hkey (List.mem_map_of_mem (f := (·.1)) he)
        rw [Fields.add, List.lookup_append, hdone e (by simp [he])]
        simp [List.lookup_cons, beq_false_of_ne hne]
      have hall : done.add key (.string value) ++ entryFields es =
          done ++ entryFields ((key, some value) :: es) := by
        simp [Fields.add, entryFields]
      have hrest := ih hk' hn hfresh (by rwa [hall])
      have hadd := hd.add done key (.string value) (hdone (key, some value) (by simp))
      have hdraft : { draft done with root := (draft (done.add key (.string value))).root } =
          draft (done.add key (.string value)) := by
        show Draft.mk _ (draft done).header = _
        rw [← hd.header done (done.add key (.string value))]
      have hline := Reads.line (hk (key, some value) (by simp)) hadd (hdraft ▸ hrest)
      simpa [entryLines, line?] using hline

theorem lookup_entryFields {es : Entries} (hnames : (es.map (·.1)).Nodup) (key : String) :
    (entryFields es).lookup key = (es.lookup key).join.map .string := by
  induction es with
  | nil => rfl
  | cons e es ih =>
    obtain ⟨k, value⟩ := e
    obtain ⟨hk, hn⟩ := List.nodup_cons.mp hnames
    by_cases hkey : key = k
    · subst hkey
      cases value with
      | some value => simp [entryFields]
      | none =>
        have habsent : es.lookup key = none := by
          refine List.lookup_eq_none_iff.mpr fun e he => ?_
          have hne : key ≠ e.1 := by
            rintro rfl
            exact hk (List.mem_map_of_mem (f := (·.1)) he)
          simpa using hne
        have hrest := ih hn
        rw [habsent] at hrest
        simpa [entryFields] using hrest
    · have hrest := ih hn
      rw [List.lookup_cons, beq_false_of_ne hkey]
      cases value with
      | some value => simpa [entryFields, List.lookup_cons, beq_false_of_ne hkey] using hrest
      | none => simpa [entryFields] using hrest

/-! ### Documents -/

/-- The settings outside of the log. -/
def topEntries (s : Settings) : Entries :=
  [("environment", some s.environment.name), ("api_key", s.apiKey), ("invite_code", s.inviteCode),
    ("partner_cert", s.partnerCert), ("partner_key", s.partnerKey)]

/-- The settings of the log. -/
def logEntries (l : LogSettings) : Entries := [("level", some l.level.name), ("file", l.file)]

/-- The fields of the document of settings. -/
def documentFields (s : Settings) : Fields :=
  (entryFields (topEntries s)).add "logging" (.table .header (entryFields (logEntries s.logging)))

theorem bare_of_mem {key : String} (h : key ∈ keys ++ ["level", "file"]) : Bare key := by
  have hall : (keys ++ ["level", "file"]).all
      (fun k => !k.toList.isEmpty && k.toList.all Toml.isBare) = true := by decide
  have hkey := List.all_eq_true.mp hall key h
  rw [Bool.and_eq_true, Bool.not_eq_true', List.isEmpty_eq_false_iff] at hkey
  exact ⟨hkey.1, List.all_eq_true.mp hkey.2⟩

theorem nodup_topEntries (s : Settings) : ((topEntries s).map (·.1)).Nodup := by
  show ["environment", "api_key", "invite_code", "partner_cert", "partner_key"].Nodup
  decide

theorem nodup_logEntries (l : LogSettings) : ((logEntries l).map (·.1)).Nodup := by
  show ["level", "file"].Nodup
  decide

theorem bare_of_mem_entries {s : Settings} {e : String × Option String}
    (h : e ∈ topEntries s ∨ e ∈ logEntries s.logging) : Bare e.1 := by
  refine bare_of_mem ?_
  have hmem : e.1 ∈ (topEntries s).map (·.1) ∨ e.1 ∈ (logEntries s.logging).map (·.1) :=
    h.imp List.mem_map_of_mem List.mem_map_of_mem
  have hsub : (topEntries s).map (·.1) ⊆ keys ++ ["level", "file"] ∧
      (logEntries s.logging).map (·.1) ⊆ keys ++ ["level", "file"] := by
    show ["environment", "api_key", "invite_code", "partner_cert", "partner_key"] ⊆ _ ∧
      ["level", "file"] ⊆ _
    decide
  exact hmem.elim (fun h => hsub.1 h) fun h => hsub.2 h

theorem lookup_topEntries_logging (s : Settings) :
    (entryFields (topEntries s)).lookup "logging" = none := by
  rw [lookup_entryFields (nodup_topEntries s)]
  rfl

/-- **The document of settings is read as its fields.** -/
theorem read?_document (s : Settings) : Toml.read? s.document = some (documentFields s) := by
  have hchars : s.document.toList = entryLines (topEntries s) ++
      '\n' :: '[' :: (("logging".toList ++ [']']) ++
        '\n' :: (entryLines (logEntries s.logging) ++ [])) := by
    rw [document, String.toList_ofList]
    simp [entryLines, topEntries, logEntries, line?]
  have hlog := lookup_topEntries_logging s
  have hend : Reads ⟨documentFields s, ["logging"]⟩ [] (documentFields s) := reads_nil _
  have htable : Reads ⟨(entryFields (topEntries s)).add "logging" (.table .header []), ["logging"]⟩
      (entryLines (logEntries s.logging) ++ []) (documentFields s) :=
    Reads.entries (grows_table hlog) (fun e he => bare_of_mem_entries (Or.inr he))
      (nodup_logEntries s.logging) (fun _ _ => rfl) hend
  have hheader := (Reads.header (d := ⟨entryFields (topEntries s), []⟩)
    (bare_of_mem (by decide)) hlog htable).blank
  have htop : Reads ⟨[], []⟩ (entryLines (topEntries s) ++ _) (documentFields s) :=
    Reads.entries grows_root (fun e he => bare_of_mem_entries (Or.inl he)) (nodup_topEntries s)
      (fun _ _ => rfl) hheader
  have hmark : skipMark s.document.toList = s.document.toList := by
    have hkey : "environment".toList = 'e' :: "nvironment".toList := by decide
    rw [hchars, entryLines, topEntries, List.flatMap_cons, line?, line, hkey]
    rfl
  rw [Toml.read?]
  simp only [hmark]
  rw [← hchars] at htop
  exact htop _ (by omega)

/-! ### Settings -/

theorem oneOf?_name {α : Type} {names : List (String × α)} {n : String} {a : α}
    (h : names.lookup n = some a) : oneOf? names (.string n) = some a := h

theorem optional_map (v : Option String) : optional (v.map .string) = some v := by
  cases v <;> rfl

theorem othersInRange_entryFields {names : List String} {es : Entries}
    (h : ∀ e ∈ es, names.contains e.1 = true) : othersInRange names (entryFields es) = true := by
  unfold othersInRange
  refine List.all_eq_true.mpr fun f hf => ?_
  obtain ⟨e, he, hfe⟩ := List.mem_filterMap.mp hf
  obtain ⟨v, -, rfl⟩ := Option.map_eq_some_iff.mp hfe
  rw [h e he, Bool.true_or]

theorem ofToml?_logEntries (l : LogSettings) :
    LogSettings.ofToml? (.table .header (entryFields (logEntries l))) = some l := by
  have hrange : othersInRange ["level", "file"] (entryFields (logEntries l)) = true :=
    othersInRange_entryFields (by simp [logEntries])
  have hlevel : oneOf? Log.Level.names (.string l.level.name) = some l.level :=
    oneOf?_name (by cases l.level <;> rfl)
  rw [LogSettings.ofToml?, if_pos hrange, lookup_entryFields (nodup_logEntries l),
    lookup_entryFields (nodup_logEntries l)]
  show LogSettings.ofParts? (some (.string l.level.name)) (l.file.map .string) = _
  simp only [LogSettings.ofParts?, orElse, hlevel, optional_map, bind, Option.bind]
  rfl

theorem ofFields?_documentFields (s : Settings) : ofFields? (documentFields s) = some s := by
  have hlookup : ∀ key, key ≠ "logging" →
      (documentFields s).lookup key = ((topEntries s).lookup key).join.map .string := by
    intro key hkey
    rw [documentFields, Fields.add, List.lookup_append, lookup_entryFields (nodup_topEntries s)]
    simp [List.lookup_cons, beq_false_of_ne hkey]
  have hlogging : (documentFields s).lookup "logging" =
      some (.table .header (entryFields (logEntries s.logging))) := by
    rw [documentFields, Fields.add, List.lookup_append, lookup_topEntries_logging]
    rfl
  have hrange : othersInRange keys (documentFields s) = true := by
    have htop : othersInRange keys (entryFields (topEntries s)) = true :=
      othersInRange_entryFields (by simp [topEntries, keys])
    unfold othersInRange at htop ⊢
    rw [documentFields, Fields.add, List.all_append, htop]
    rfl
  have henv : oneOf? Environment.names (.string s.environment.name) = some s.environment :=
    oneOf?_name (by cases s.environment <;> rfl)
  rw [ofFields?, hlookup "environment" (by decide), hlookup "api_key" (by decide),
    hlookup "invite_code" (by decide), hlookup "partner_cert" (by decide),
    hlookup "partner_key" (by decide), hlogging]
  show (do
    let environment ← orElse default (oneOf? Environment.names)
      (some (.string s.environment.name))
    let apiKey ← optional (s.apiKey.map .string)
    let inviteCode ← optional (s.inviteCode.map .string)
    let partnerCert ← optional (s.partnerCert.map .string)
    let partnerKey ← optional (s.partnerKey.map .string)
    let logging ← orElse default LogSettings.ofToml?
      (some (.table .header (entryFields (logEntries s.logging))))
    if othersInRange keys (documentFields s) then
      some { environment, apiKey, inviteCode, partnerCert, partnerKey, logging : Settings }
    else none) = _
  simp only [orElse, henv, optional_map, ofToml?_logEntries, hrange, bind, Option.bind, if_pos]

/-- **Settings are read back from the document that is written for them.** -/
theorem ofDocument?_document (s : Settings) : ofDocument? s.document = some s := by
  rw [ofDocument?, read?_document, Option.bind_some, ofFields?_documentFields]

end HostedNode.Settings

import HostedNode.Proofs.Json.Names
import HostedNode.Proofs.Rpc.Envelope

/-! # What a call comes to

`settle` is the outcome of a call whose answer is a given value, `settleText` that of one whose
answer is a text. The two agree on a text in which none of the three fields of an envelope repeats,
and a text in which one repeats is refused (`reading_settled`). So an error in an answer is never
overlooked for a result in it. Where an answer is no envelope, how this is worded depends on whether
it came as a text, so there they agree up to the words (`Alike`). -/

namespace HostedNode.Rpc

open Json

namespace Envelope

/-- The same outcome, but for the words if what came is no envelope. -/
def Alike {α : Type} (r r' : Except TransportError α) : Prop :=
  r = r' ∨ ∃ m m', r = .error (.serialization m) ∧ r' = .error (.serialization m')

/-- The names of the fields of an envelope, in the order of declaration. -/
def fieldOrder : List String := ["result", "error", "id"]

/-- What a call comes to whose answer is the value. -/
def settle (v : Json) : Except TransportError Json := ofJson v >>= outcome

/-- What a call comes to whose answer is the text. -/
def settleText (text : String) : Except TransportError Json := ofText text >>= outcome

/-! ### Values -/

theorem ofJson_obj (fs : List (String × Json)) :
    ofJson (.obj fs) =
      .ok ⟨find? "result" fs, present (find? "error" fs), (find? "id" fs).getD .null⟩ := by
  rw [ofJson, decode_obj]
  rfl

/-- The error of an object: the field, unless it is null. -/
theorem present_eq_some {v : Option Json} {err : Json} :
    present v = some err ↔ v = some err ∧ err ≠ .null := by
  rw [present, Option.filter_eq_some_iff]
  refine and_congr_right fun _ => ?_
  cases err <;> simp [isNull]

theorem present_eq_none {v : Option Json} :
    present v = none ↔ ∀ err, v = some err → err = .null := by
  cases v with
  | none => simp [present]
  | some err => cases err <;> simp [present, isNull, Option.filter]

/-- The outcome of an object with an error. -/
theorem settle_obj_of_error {fs : List (String × Json)} {err : Json}
    (h : find? "error" fs = some err) (hne : err ≠ .null) :
    settle (.obj fs) = .error (.rpc (errorText err)) := by
  have herr : present (find? "error" fs) = some err := present_eq_some.mpr ⟨h, hne⟩
  simp only [settle, ofJson_obj, bind, Except.bind]
  exact outcome_of_error (v := .obj fs) rfl herr

/-- The outcome of an object without an error. -/
theorem settle_obj_of_no_error {fs : List (String × Json)}
    (h : ∀ err, find? "error" fs = some err → err = .null) :
    settle (.obj fs) =
      (find? "result" fs).elim (.error (.invalidFormat "missing result field")) .ok := by
  have herr : present (find? "error" fs) = none := present_eq_none.mpr h
  simp only [settle, ofJson_obj, bind, Except.bind]
  exact outcome_of_no_error herr

theorem settle_obj_cases (fs : List (String × Json)) :
    (∃ err, find? "error" fs = some err ∧ err ≠ .null ∧
      settle (.obj fs) = .error (.rpc (errorText err))) ∨
    (∀ err, find? "error" fs = some err → err = .null) ∧
      settle (.obj fs) =
        (find? "result" fs).elim (.error (.invalidFormat "missing result field")) .ok := by
  by_cases h : ∀ err, find? "error" fs = some err → err = .null
  · exact Or.inr ⟨h, settle_obj_of_no_error h⟩
  · obtain ⟨err, herr, hne⟩ : ∃ err, find? "error" fs = some err ∧ err ≠ .null := by
      simpa using h
    exact Or.inl ⟨err, herr, hne, settle_obj_of_error herr hne⟩

/-- **An object comes to an error of the call just if its error is there and not null.** -/
theorem settle_obj_eq_rpc_iff {fs : List (String × Json)} {m : String} :
    settle (.obj fs) = .error (.rpc m) ↔
      ∃ err, find? "error" fs = some err ∧ err ≠ .null ∧ m = errorText err := by
  rcases settle_obj_cases fs with ⟨err, herr, hne, hs⟩ | ⟨hnull, hs⟩
  · rw [hs]
    constructor
    · intro he
      exact ⟨err, herr, hne, (TransportError.rpc.inj (Except.error.inj he)).symm⟩
    · rintro ⟨err', herr', -, rfl⟩
      rw [Option.some.inj (herr.symm.trans herr')]
  · rw [hs]
    constructor
    · intro he
      cases hr : find? "result" fs <;> rw [hr] at he <;> cases he
    · rintro ⟨err, herr, hne, -⟩
      exact absurd (hnull err herr) hne

/-- **It comes to a result just if there is one and no such error.** -/
theorem settle_obj_eq_ok_iff {fs : List (String × Json)} {r : Json} :
    settle (.obj fs) = .ok r ↔
      (∀ err, find? "error" fs = some err → err = .null) ∧ find? "result" fs = some r := by
  rcases settle_obj_cases fs with ⟨err, herr, hne, hs⟩ | ⟨hnull, hs⟩
  · rw [hs]
    constructor
    · intro he
      cases he
    · rintro ⟨hnull, -⟩
      exact absurd (hnull err herr) hne
  · rw [hs]
    constructor
    · intro he
      cases hr : find? "result" fs with
      | none =>
        rw [hr] at he
        cases he
      | some r' =>
        rw [hr] at he
        exact ⟨hnull, congrArg some (Except.ok.inj he)⟩
    · rintro ⟨-, hr⟩
      rw [hr]
      rfl

/-- **It has the wrong format just if there is neither.** -/
theorem settle_obj_eq_invalidFormat_iff {fs : List (String × Json)} :
    settle (.obj fs) = .error (.invalidFormat "missing result field") ↔
      (∀ err, find? "error" fs = some err → err = .null) ∧ find? "result" fs = none := by
  rcases settle_obj_cases fs with ⟨err, herr, hne, hs⟩ | ⟨hnull, hs⟩
  · rw [hs]
    constructor
    · intro he
      cases he
    · rintro ⟨hnull, -⟩
      exact absurd (hnull err herr) hne
  · rw [hs]
    constructor
    · intro he
      cases hr : find? "result" fs with
      | none => exact ⟨hnull, rfl⟩
      | some r =>
        rw [hr] at he
        cases he
    · rintro ⟨-, hr⟩
      rw [hr]
      rfl

/-- What an error says. -/
theorem errorText_cases (err : Json) :
    (∃ fs m, err = .obj fs ∧ find? "message" fs = some (.str m) ∧ errorText err = m) ∨
    (∀ fs m, err = .obj fs → find? "message" fs ≠ some (.str m)) ∧ errorText err = err.compact := by
  unfold errorText
  cases err with
  | obj fs =>
    rw [get?]
    split
    · rename_i m hm
      exact Or.inl ⟨fs, m, rfl, hm, rfl⟩
    · rename_i hm
      refine Or.inr ⟨fun gs m hgs hg => ?_, rfl⟩
      obtain rfl := Json.obj.inj hgs
      exact hm m hg
  | _ => exact Or.inr ⟨fun _ _ h => (by cases h), rfl⟩

/-- **A short array is read as the object of its items under the names of the fields.** -/
theorem ofJson_arr {items : List Json} (h : items.length ≤ 3) :
    ofJson (.arr items) = ofJson (.obj (fieldOrder.zip items)) := by
  rw [ofJson, (decode_arr items).1 h, ofJson_obj]
  rcases items with _ | ⟨r, _ | ⟨e, _ | ⟨i, _ | ⟨x, rest⟩⟩⟩⟩
  · rfl
  · rfl
  · rfl
  · rfl
  · exact absurd h (by simp)

theorem ofJson_of_ofValue? {v : Json} (h : ofValue? v = none) :
    ∃ m, ofJson v = .error (.serialization m) := by
  obtain ⟨e, he⟩ := decode_error_of_ofValue? h
  refine ⟨e.message, ?_⟩
  rw [ofJson, he]
  rfl

/-! ### Texts -/

/-- The schema of envelopes: three fields, each of them read as a whole. -/
def schema : Schema := .fields (fieldOrder.map fun n => (n, .whole))

theorem schema_eq : (decoder (α := Envelope)).schema = schema := rfl

theorem ofField?_schema {n : String} (h : n ∈ fieldOrder) : schema.ofField? n = some .whole := by
  rw [fieldOrder, List.mem_cons, List.mem_cons, List.mem_singleton] at h
  rcases h with rfl | rfl | rfl
  all_goals rfl

theorem eq_whole_of_ofField? {k : String} {t : Schema} (h : schema.ofField? k = some t) :
    t = .whole ∧ k ∈ fieldOrder := by
  obtain ⟨n, hn, heq⟩ := List.mem_map.mp (mem_of_ofField? h)
  obtain ⟨rfl, rfl⟩ := Prod.mk.inj heq
  exact ⟨rfl, hn⟩

/-- **A text in which a field of an envelope repeats is refused.** -/
theorem ofText_of_repeated {text n : String} (hn : n ∈ fieldOrder)
    (h : 2 ≤ (topNames text).count n) : ∃ m, ofText text = .error (.serialization m) := by
  unfold ofText readAs readCharsAs
  rw [schema_eq]
  cases hr : readChars schema text.toList with
  | error rest => exact ⟨_, rfl⟩
  | ok v =>
    have hone := count_topNames_of_readChars rfl (fun k t hk => (eq_whole_of_ofField? hk).1) hr
      (ofField?_schema hn)
    omega

theorem admitsItems_schema {fs : List (String × Schema)} (hfs : ∀ f ∈ fs, f.2 = .whole)
    (vs : List Json) : AdmitsItems (.fields fs) vs := by
  induction vs generalizing fs with
  | nil => trivial
  | cons v vs ih =>
    cases fs with
    | nil => exact ⟨admits_whole v, ih (by simp)⟩
    | cons f fs =>
      obtain ⟨n, t⟩ := f
      obtain rfl : t = .whole := hfs (n, t) (by simp)
      exact ⟨admits_whole v, ih fun g hg => hfs g (by simp [hg])⟩

theorem viewItems_schema {fs : List (String × Schema)} (hfs : ∀ f ∈ fs, f.2 = .whole)
    (vs : List Json) : viewItems (.fields fs) vs = viewItems .whole vs := by
  induction vs generalizing fs with
  | nil => rfl
  | cons v vs ih =>
    cases fs with
    | nil =>
      have hrest : viewItems (.fields []) vs = viewItems .whole vs := ih (by simp)
      simp only [viewItems, Schema.next, hrest]
    | cons f fs =>
      obtain ⟨n, t⟩ := f
      obtain rfl : t = .whole := hfs (n, t) (by simp)
      have hrest : viewItems (.fields fs) vs = viewItems .whole vs :=
        ih fun g hg => hfs g (by simp [hg])
      simp only [viewItems, Schema.next, hrest]

/-- A reader of envelopes takes an object if no field of an envelope repeats in it. -/
theorem admitsFields_schema {fs : List (String × Json)}
    (h : ∀ n ∈ fieldOrder, (fs.map (·.1)).count n ≤ 1) : AdmitsFields schema fs := by
  induction fs with
  | nil => trivial
  | cons f fs ih =>
    obtain ⟨k, v⟩ := f
    refine ⟨fun t ht => ?_, ih fun n hn => ?_⟩
    · obtain ⟨rfl, hk⟩ := eq_whole_of_ofField? ht
      refine ⟨fun _ hmem => ?_, admits_whole v⟩
      have hcount := h k hk
      have hpos := List.count_pos_iff.mpr hmem
      rw [List.map_cons, List.count_cons_self] at hcount
      omega
    · have hle := List.count_le_count_cons (a := n) (b := k) (l := fs.map (·.1))
      have hcount : (k :: fs.map (·.1)).count n ≤ 1 := h n hn
      omega

/-- What a reader finds under a name depends on what the schema says of this name only. -/
theorem find?_viewFields_congr {s s' : Schema} {name : String}
    (h : s.ofField? name = s'.ofField? name) {fs acc acc' : List (String × Json)}
    (hacc : find? name acc = find? name acc') :
    find? name (viewFields s acc fs) = find? name (viewFields s' acc' fs) := by
  induction fs generalizing acc acc' with
  | nil => exact hacc
  | cons f fs ih =>
    obtain ⟨k, v⟩ := f
    rw [viewFields_cons, viewFields_cons]
    refine ih ?_
    by_cases hk : k = name
    · subst hk
      rw [keepField, keepField, h]
      cases s'.ofField? k with
      | none => exact hacc
      | some t => rw [find?_insert_self, find?_insert_self]
    · have hkeep : ∀ (u : Schema) (fs : List (String × Json)),
          find? name (keepField u k v fs) = find? name fs := by
        intro u fs
        rw [keepField]
        cases u.ofField? k with
        | none => rfl
        | some t => exact find?_insert_of_ne (Ne.symm hk) _ fs
      rw [hkeep, hkeep, hacc]

/-- An envelope is the same in the eyes of both readers. -/
theorem decode_view (t : Json) :
    decode (decoder (α := Envelope)) (view schema t) =
      decode (decoder (α := Envelope)) (view .whole t) := by
  cases t with
  | obj fs =>
    have hfind : ∀ n ∈ fieldOrder,
        find? n (viewFields schema [] fs) = find? n (viewFields .whole [] fs) := fun n hn =>
      find?_viewFields_congr (ofField?_schema hn) rfl
    rw [view, view, decode_obj, decode_obj, hfind "result" (by decide), hfind "error" (by decide),
      hfind "id" (by decide)]
  | arr vs =>
    have hitems : viewItems schema vs = viewItems .whole vs := viewItems_schema (by simp) vs
    rw [view, view, hitems]
  | _ => rfl

/-- **A text in which no field of an envelope repeats is read as its value is.** -/
theorem alike_ofText {text : String} {v : Json} (h : Json.read text = .ok v)
    (hn : ∀ n ∈ fieldOrder, (topNames text).count n ≤ 1) : Alike (ofText text) (ofJson v) := by
  obtain ⟨t, ht, rfl⟩ : ∃ t, SpellsText text t ∧ v = view .whole t := by
    unfold Json.read readAs readCharsAs at h
    cases hr : readChars Decoder.json.schema text.toList with
    | error rest =>
      rw [hr] at h
      cases h
    | ok w =>
      rw [hr] at h
      obtain rfl : w = v := Except.ok.inj h
      exact spellsText_of_readChars hr
  have hadmits : Admits (decoder (α := Envelope)).schema t := by
    rw [schema_eq]
    cases t with
    | obj fs => exact admitsFields_schema (topNames_of_spells ht ▸ hn)
    | arr vs => exact admitsItems_schema (by simp) vs
    | _ => trivial
  rw [ofText, readAs_of_spells ht hadmits, schema_eq, decode_view, ofJson]
  cases decode (decoder (α := Envelope)) (view .whole t) with
  | ok e => exact Or.inl rfl
  | error e => exact Or.inr ⟨_, _, rfl, rfl⟩

theorem Alike.settled {r r' : Except TransportError Envelope} (h : Alike r r') :
    Alike (r >>= outcome) (r' >>= outcome) := by
  rcases h with rfl | ⟨m, m', rfl, rfl⟩
  · exact Or.inl rfl
  · exact Or.inr ⟨m, m', rfl, rfl⟩

theorem Alike.eq_ok {α : Type} {r r' : Except TransportError α} (h : Alike r r') {a : α}
    (ha : r' = .ok a) : r = .ok a := by
  rcases h with rfl | ⟨m, m', -, rfl⟩
  · exact ha
  · cases ha

/-! ### All of it -/

/-- **What a call comes to, for every answer.** An object comes to the error in it, if that is not
null, else to the result in it, else it has the wrong format. An error says its message, or else all
of itself. Short arrays stand for objects, and nothing else is an envelope. A text comes to what its
value comes to, unless it repeats a field of an envelope: then it is refused. -/
theorem reading_settled :
    (∀ fs : List (String × Json), (∃ e, ofJson (.obj fs) = .ok e) ∧
      (∀ m, settle (.obj fs) = .error (.rpc m) ↔
        ∃ err, find? "error" fs = some err ∧ err ≠ .null ∧ m = errorText err) ∧
      (∀ r, settle (.obj fs) = .ok r ↔
        (∀ err, find? "error" fs = some err → err = .null) ∧ find? "result" fs = some r) ∧
      (settle (.obj fs) = .error (.invalidFormat "missing result field") ↔
        (∀ err, find? "error" fs = some err → err = .null) ∧ find? "result" fs = none)) ∧
    (∀ err : Json,
      (∃ fs m, err = .obj fs ∧ find? "message" fs = some (.str m) ∧ errorText err = m) ∨
      (∀ fs m, err = .obj fs → find? "message" fs ≠ some (.str m)) ∧
        errorText err = err.compact) ∧
    (∀ items : List Json, items.length ≤ 3 →
      ofJson (.arr items) = ofJson (.obj (fieldOrder.zip items))) ∧
    (∀ items : List Json, 3 < items.length →
      ∃ m, ofJson (.arr items) = .error (.serialization m)) ∧
    (∀ v : Json, (∀ fs, v ≠ .obj fs) → (∀ items, v ≠ .arr items) →
      ∃ m, ofJson v = .error (.serialization m)) ∧
    (∀ (text : String) (v : Json), Json.read text = .ok v →
      (∀ n ∈ fieldOrder, (topNames text).count n ≤ 1) →
      Alike (ofText text) (ofJson v) ∧ Alike (settleText text) (settle v)) ∧
    (∀ (text n : String), n ∈ fieldOrder → 2 ≤ (topNames text).count n →
      ∃ m, ofText text = .error (.serialization m)) := by
  refine ⟨fun fs => ⟨⟨_, ofJson_obj fs⟩, fun m => settle_obj_eq_rpc_iff,
      fun r => settle_obj_eq_ok_iff, settle_obj_eq_invalidFormat_iff⟩,
    errorText_cases, fun items h => ofJson_arr h, fun items h => ?_, fun v hobj harr => ?_,
    fun text v h hn => ⟨alike_ofText h hn, (alike_ofText h hn).settled⟩,
    fun text n hn h => ofText_of_repeated hn h⟩
  · have hlen : ¬ items.length ≤ 3 := by omega
    exact ofJson_of_ofValue? (if_neg hlen)
  · refine ofJson_of_ofValue? ?_
    cases v with
    | obj fs => exact absurd rfl (hobj fs)
    | arr items => exact absurd rfl (harr items)
    | _ => rfl

/-- A name that means nothing may repeat, and the result beside it counts; one that is that of a
field may not. -/
theorem reading_settled_repeated :
    (topNames "\x7b\"x\":1,\"result\":7,\"x\":2\x7d" = ["x", "result", "x"] ∧
      settleText "\x7b\"x\":1,\"result\":7,\"x\":2\x7d" = .ok (.int 7)) ∧
    topNames "\x7b\"result\":7,\"error\":null,\"result\":8\x7d" =
      ["result", "error", "result"] ∧
    ∃ m, ofText "\x7b\"result\":7,\"error\":null,\"result\":8\x7d" =
      .error (.serialization m) := by
  have hunknown : topNames "\x7b\"x\":1,\"result\":7,\"x\":2\x7d" = ["x", "result", "x"] := by
    decide +kernel
  have hfield : topNames "\x7b\"result\":7,\"error\":null,\"result\":8\x7d" =
      ["result", "error", "result"] := by decide +kernel
  have hread : Json.read "\x7b\"x\":1,\"result\":7,\"x\":2\x7d" =
      .ok (.obj [("result", .int 7), ("x", .int 2)]) := by decide +kernel
  obtain ⟨-, -, -, -, -, htext, hrepeated⟩ := reading_settled
  have halike := (htext _ _ hread (by rw [hunknown]; decide)).2
  refine ⟨⟨hunknown, halike.eq_ok (by decide +kernel)⟩, hfield, hrepeated _ "result" ?_ ?_⟩
  · decide
  · rw [hfield]
    decide

end Envelope

end HostedNode.Rpc

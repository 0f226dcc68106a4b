import HostedNode.Proofs.Json.Fields
import HostedNode.Proofs.Json.Plain
import HostedNode.Proofs.Rpc.Reading

/-! # Envelopes that are written and read again

An envelope is written with all of its fields, and null stands for what it does not have. A reader
takes a null error for none, but a null result for a result. So an envelope without a result comes
back with one: `rewritten` is what is read from the JSON form of an envelope, be it a value
(`ofJson_toJson`) or a text (`ofText_of_spells`). What a call comes to is lost just if there is
neither a result nor an error (`rewriting_outcome`). It is the writing that loses it, and no reader
could make up for that: an envelope without a result has the same JSON form as one whose result is
null (`toJson_without_result`). -/

namespace HostedNode.Rpc.Envelope

open Json

variable (e : Envelope)

/-- What is read from the JSON form of the envelope. -/
def rewritten : Envelope := ⟨some (e.result.getD .null), present e.error, e.id⟩

/-- There is a result or an error, so that the call comes to one of them. -/
def Decisive : Prop := e.result ≠ none ∨ present e.error ≠ none

/-! ### Values -/

theorem toJson_eq : toJson e =
    .obj [("result", e.result.getD .null), ("error", e.error.getD .null), ("id", e.id)] := by
  obtain ⟨r, err, i⟩ := e
  cases r <;> cases err <;> rfl

/-- **An envelope without a result is written as one whose result is null.** -/
theorem toJson_without_result (h : e.result = none) :
    toJson e = toJson { e with result := some .null } := by
  rw [toJson_eq, toJson_eq, h]
  rfl

theorem present_getD (v : Option Json) : present (some (v.getD .null)) = present v := by
  cases v <;> rfl

/-- An object with the fields of the JSON form is read as it is. -/
theorem ofJson_of_finds {fs : List (String × Json)}
    (hresult : find? "result" fs = some (e.result.getD .null))
    (herror : find? "error" fs = some (e.error.getD .null)) (hid : find? "id" fs = some e.id) :
    ofJson (.obj fs) = .ok e.rewritten := by
  rw [ofJson_obj, hresult, herror, hid, present_getD]
  rfl

/-- **The JSON form of an envelope is always read.** -/
theorem ofJson_toJson : ofJson (toJson e) = .ok e.rewritten := by
  rw [toJson_eq]
  exact ofJson_of_finds e rfl rfl rfl

/-- Writing and reading once more changes nothing. -/
theorem rewritten_rewritten : e.rewritten.rewritten = e.rewritten := by
  show (⟨_, present (present e.error), _⟩ : Envelope) = ⟨_, present e.error, _⟩
  rw [present_present]
  rfl

/-! ### Texts -/

/-- What is in the envelope is plain, and not too deep to stand in the object of a text. -/
def Spellable : Prop :=
  ∀ v ∈ e.result.toList ++ e.error.toList ++ [e.id], Plain v ∧ depth v < maxDepth

variable {e}

theorem Spellable.getD {v : Option Json} (h : ∀ u ∈ v.toList, Plain u ∧ depth u < maxDepth) :
    Plain (v.getD .null) ∧ depth (v.getD .null) < maxDepth := by
  cases v with
  | none => exact ⟨trivial, by decide⟩
  | some u => exact h u (by simp)

theorem Spellable.fields (h : e.Spellable) :
    (Plain (e.result.getD .null) ∧ depth (e.result.getD .null) < maxDepth) ∧
      (Plain (e.error.getD .null) ∧ depth (e.error.getD .null) < maxDepth) ∧
      Plain e.id ∧ depth e.id < maxDepth := by
  refine ⟨Spellable.getD fun u hu => h u ?_, Spellable.getD fun u hu => h u ?_, h e.id (by simp)⟩
  · exact List.mem_append_left _ (List.mem_append_left _ hu)
  · exact List.mem_append_left _ (List.mem_append_right _ hu)

theorem printable_toJson (h : e.Spellable) : Printable maxDepth (toJson e) := by
  obtain ⟨⟨hresult, hr⟩, ⟨herror, he⟩, hid, hi⟩ := h.fields
  rw [toJson_eq]
  have hlevel : ∀ v, depth v < maxDepth → depth v ≤ maxDepth - 1 := fun v hv => by omega
  exact ⟨maxDepth - 1, rfl, printable_of_plain _ hresult (hlevel _ hr),
    printable_of_plain _ herror (hlevel _ he), printable_of_plain _ hid (hlevel _ hi), trivial⟩

/-- **A text of the JSON form is read as the JSON form is.** -/
theorem ofText_of_spells {text : String} (h : e.Spellable) (ht : SpellsText text (toJson e)) :
    ofText text = .ok e.rewritten := by
  obtain ⟨⟨hresult, -⟩, ⟨herror, -⟩, hid, -⟩ := h.fields
  have hread : Json.read text = .ok (view .whole (toJson e)) := by
    rw [Json.read, readAs_of_spells ht (admits_whole _)]
    rfl
  have hnames : ∀ n ∈ fieldOrder, (topNames text).count n ≤ 1 := by
    rw [toJson_eq] at ht
    rw [topNames_of_spells ht]
    show ∀ n ∈ fieldOrder, fieldOrder.count n ≤ 1
    decide
  have hview : ofJson (view .whole (toJson e)) = .ok e.rewritten := by
    rw [toJson_eq, view]
    simp only [viewFields_cons, keepField_whole, view_of_plain _ hresult, view_of_plain _ herror,
      view_of_plain _ hid]
    exact ofJson_of_finds e (by simp [viewFields, find?_insert])
      (by simp [viewFields, find?_insert]) (by simp [viewFields, find?_insert])
  exact (alike_ofText hread hnames).eq_ok hview

/-! ### What a call comes to -/

theorem settle_toJson (e : Envelope) : settle (toJson e) = e.rewritten.outcome := by
  rw [settle, ofJson_toJson]
  rfl

/-- An envelope that decides a call decides it in the same way when it has been rewritten. -/
theorem outcome_rewritten (h : e.Decisive) : e.rewritten.outcome = e.outcome := by
  have herror : e.rewritten.error.filter (!·.isNull) = e.error.filter (!·.isNull) :=
    present_present e.error
  rw [outcome, outcome, herror]
  cases herr : e.error.filter (!·.isNull) with
  | some err => rfl
  | none =>
    obtain ⟨r, hr⟩ := Option.ne_none_iff_exists'.mp (h.resolve_right fun hne => hne herr)
    rw [rewritten, hr]
    rfl

/-- An envelope that decides nothing is rewritten to one whose result is null. -/
theorem outcome_of_not_decisive (h : ¬ e.Decisive) :
    e.outcome = .error (.invalidFormat "missing result field") ∧
      e.rewritten.outcome = .ok .null := by
  obtain ⟨hresult, herror⟩ := not_or.mp h
  have hresult : e.result = none := not_not.mp hresult
  have herror : present e.error = none := not_not.mp herror
  have herror' : e.rewritten.error = none := herror
  constructor
  · rw [outcome, hresult, show e.error.filter (!·.isNull) = none from herror]
  · rw [outcome_of_no_error herror', rewritten, hresult]
    rfl

/-- **What a call comes to when its envelope is written and read again.** The JSON form of an
envelope is read, as a value and as a text, and so is what it is rewritten to, which stays as it is.
What the call comes to is kept just if there is a result or an error that is not null. It is lost
for an envelope with neither: it is written as if its result were null, and so a call without a
result comes to a null one. -/
theorem rewriting_outcome (e : Envelope) :
    ofJson (toJson e) = .ok e.rewritten ∧
    ofJson (toJson e.rewritten) = .ok e.rewritten ∧
    (e.Spellable → ofText (toJson e).compact = .ok e.rewritten ∧
      ofText (toJson e).pretty = .ok e.rewritten) ∧
    (settle (toJson e) = e.outcome ↔ e.Decisive) ∧
    (¬ e.Decisive → toJson e = toJson { e with result := some .null } ∧
      e.outcome = .error (.invalidFormat "missing result field") ∧
      settle (toJson e) = .ok .null) := by
  rw [settle_toJson]
  refine ⟨ofJson_toJson e, ?_, fun hspellable => ⟨?_, ?_⟩, ⟨fun h => ?_, outcome_rewritten⟩,
    fun h => ⟨?_, outcome_of_not_decisive h⟩⟩
  · rw [ofJson_toJson, rewritten_rewritten]
  · exact ofText_of_spells hspellable (spellsText_compact (printable_toJson hspellable))
  · exact ofText_of_spells hspellable (spellsText_pretty (printable_toJson hspellable))
  · by_contra hnot
    obtain ⟨hbefore, hafter⟩ := outcome_of_not_decisive hnot
    rw [hbefore, hafter] at h
    cases h
  · exact toJson_without_result e (not_not.mp (not_or.mp h).1)

/-- An answer with nothing in it but the number of the call. -/
def bare : Envelope := ⟨none, none, .int 1⟩

theorem rewriting_outcome_bare :
    (¬ bare.Decisive ∧ bare.Spellable) ∧
    ofText (toJson bare).compact = .ok ⟨some .null, none, .int 1⟩ ∧
    bare.outcome = .error (.invalidFormat "missing result field") ∧
    settle (toJson bare) = .ok .null := by
  have hbare : ¬ bare.Decisive := by
    rintro (h | h)
    · exact h rfl
    · exact h rfl
  have hspellable : bare.Spellable := by
    intro v hv
    obtain rfl : v = .int 1 := List.mem_singleton.mp hv
    exact ⟨⟨by decide, by decide⟩, by decide⟩
  obtain ⟨-, -, htext, -, hlost⟩ := rewriting_outcome bare
  exact ⟨⟨hbare, hspellable⟩, (htext hspellable).1, (hlost hbare).2⟩

/-- A call does not always come to the same when its envelope is written and read again. -/
theorem not_outcome_of_rewriting : ¬ ∀ e : Envelope, settle (toJson e) = e.outcome := by
  intro h
  have hnull : settle (toJson bare) = .ok .null := rfl
  have hnone : bare.outcome = .error (.invalidFormat "missing result field") := rfl
  have hsame := h bare
  rw [hnull, hnone] at hsame
  cases hsame

end HostedNode.Rpc.Envelope

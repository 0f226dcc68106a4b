import HostedNode.Rpc.Envelope

/-! # What an envelope is read from

An object is always an envelope, whatever its fields are: a result that is there counts even if it
is null, an error only if it is not (`decode_obj`). An array is one if it holds three items at most,
the result, the error and the identifier in this order (`decode_arr`). No other value is one. So a
text is an envelope just if it can be read and its value has one of these two shapes
(`ofText_toOption`). -/

namespace HostedNode.Rpc.Envelope

open Json

/-- A value that is there and not null. -/
def present (v : Option Json) : Option Json := v.filter (!·.isNull)

/-- The envelope that a value is, if it is one. -/
def ofValue? : Json → Option Envelope
  | .obj fs =>
    some ⟨find? "result" fs, present (find? "error" fs), (find? "id" fs).getD .null⟩
  | .arr items =>
    if items.length ≤ 3 then some ⟨items[0]?, present items[1]?, items[2]?.getD .null⟩ else none
  | _ => none

/-- An error that is there and null counts as none, both in a field and in an item. -/
theorem run_option_json (p : Json.Place) (v : Json) :
    Decoder.json.option.run p v = .ok (present (some v)) := by
  cases v <;> rfl

/-! ### Objects -/

/-- No field of an envelope can have a bad value. -/
theorem fault?_of_mem_checks {c : FieldCheck} (hc : c ∈ reader.checks) (p : Json.Place) (v : Json) :
    c.fault? p v = none := by
  rcases List.mem_cons.mp hc with rfl | hc
  · rfl
  rcases List.mem_cons.mp hc with rfl | hc
  · simp only [run_option_json]
  rcases List.mem_cons.mp hc with rfl | hc
  · rfl
  · cases hc

theorem firstFault_reader (p : Json.Place) (fs : List (String × Json)) :
    reader.firstFault p fs = none := by
  induction fs with
  | nil => rfl
  | cons f fs ih =>
    obtain ⟨n, v⟩ := f
    rw [RecordReader.firstFault]
    cases hc : reader.checks.find? (·.name = n) with
    | none => exact ih
    | some c =>
      simp only [fault?_of_mem_checks (List.mem_of_find?_eq_some hc)]
      exact ih

theorem ofFields_reader (p : Json.Place) (fs : List (String × Json)) :
    reader.ofFields p fs =
      .ok ⟨find? "result" fs, present (find? "error" fs), (find? "id" fs).getD .null⟩ := by
  have hresult : (RecordReader.withDefault "result" (Decoder.json.map some) none).ofFields p fs =
      .ok (find? "result" fs) := by
    simp only [RecordReader.withDefault, RecordReader.field]
    cases find? "result" fs <;> rfl
  have herror : (RecordReader.withDefault "error" Decoder.json.option none).ofFields p fs =
      .ok (present (find? "error" fs)) := by
    simp only [RecordReader.withDefault, RecordReader.field]
    cases find? "error" fs with
    | none => rfl
    | some v => exact run_option_json p v
  have hid : (RecordReader.withDefault "id" Decoder.json Json.null).ofFields p fs =
      .ok ((find? "id" fs).getD .null) := by
    simp only [RecordReader.withDefault, RecordReader.field]
    cases find? "id" fs <;> rfl
  calc reader.ofFields p fs
      = (do
          let g ← (do
            let g ← (do
              let g ← Except.ok Envelope.mk
              let a ← (RecordReader.withDefault "result" (Decoder.json.map some) none).ofFields p fs
              Except.ok (g a))
            let a ← (RecordReader.withDefault "error" Decoder.json.option none).ofFields p fs
            Except.ok (g a))
          let a ← (RecordReader.withDefault "id" Decoder.json Json.null).ofFields p fs
          Except.ok (g a)) := rfl
    _ = _ := by
      rw [hresult, herror, hid]
      rfl

/-- **Every object is an envelope.** -/
theorem decode_obj (fs : List (String × Json)) :
    decode (decoder (α := Envelope)) (.obj fs) =
      .ok ⟨find? "result" fs, present (find? "error" fs), (find? "id" fs).getD .null⟩ := by
  show reader.readFields .untagged fs = _
  rw [RecordReader.readFields, firstFault_reader]
  exact ofFields_reader .untagged fs

/-! ### Arrays -/

/-- **An array is an envelope if it has three items at most.** -/
theorem decode_arr (items : List Json) :
    (items.length ≤ 3 → decode (decoder (α := Envelope)) (.arr items) =
      .ok ⟨items[0]?, present items[1]?, items[2]?.getD .null⟩) ∧
    (3 < items.length → ∃ e, decode (decoder (α := Envelope)) (.arr items) = .error e) := by
  rcases items with _ | ⟨r, _ | ⟨e, _ | ⟨i, _ | ⟨x, rest⟩⟩⟩⟩
  · exact ⟨fun _ => rfl, fun h => absurd h (by decide)⟩
  · exact ⟨fun _ => rfl, fun h => absurd h (by simp)⟩
  · refine ⟨fun _ => ?_, fun h => absurd h (by simp)⟩
    cases e <;> rfl
  · refine ⟨fun _ => ?_, fun h => absurd h (by simp)⟩
    cases e <;> rfl
  · refine ⟨fun h => absurd h (by simp), fun _ => ?_⟩
    cases e <;> exact ⟨_, rfl⟩

/-! ### All values -/

theorem decode_of_ofValue? {v : Json} {e : Envelope} (h : ofValue? v = some e) :
    decode (decoder (α := Envelope)) v = .ok e := by
  cases v with
  | obj fs =>
    rw [decode_obj]
    exact congrArg Except.ok (Option.some.inj h)
  | arr items =>
    by_cases hlen : items.length ≤ 3
    · rw [ofValue?, if_pos hlen] at h
      rw [(decode_arr items).1 hlen]
      exact congrArg Except.ok (Option.some.inj h)
    · rw [ofValue?, if_neg hlen] at h
      cases h
  | _ => cases h

theorem decode_error_of_ofValue? {v : Json} (h : ofValue? v = none) :
    ∃ e, decode (decoder (α := Envelope)) v = .error e := by
  cases v with
  | obj fs => cases h
  | arr items =>
    by_cases hlen : items.length ≤ 3
    · rw [ofValue?, if_pos hlen] at h
      cases h
    · exact (decode_arr items).2 (Nat.lt_of_not_le hlen)
  | _ => exact ⟨_, rfl⟩

/-- The value that a text is as far as the reading of envelopes goes: the values of fields that
envelopes do not have are passed over. -/
def value? (text : String) : Option Json :=
  (readChars (decoder (α := Envelope)).schema text.toList).toOption

/-- **A text is an envelope just if its value is one.** -/
theorem ofText_toOption (text : String) :
    (ofText text).toOption = (value? text).bind ofValue? := by
  unfold ofText readAs readCharsAs value?
  cases readChars (decoder (α := Envelope)).schema text.toList with
  | error rest => rfl
  | ok v =>
    show _ = ofValue? v
    cases hv : ofValue? v with
    | none =>
      obtain ⟨e, he⟩ := decode_error_of_ofValue? hv
      simp only [he]
      rfl
    | some e =>
      simp only [decode_of_ofValue? hv]
      rfl

/-! ### What a call comes to -/

theorem present_present (v : Option Json) : present (present v) = present v := by
  rw [present, present, Option.filter_filter]
  simp only [Bool.and_self]

/-- The error of an envelope is never null. -/
theorem present_error {v : Json} {e : Envelope} (h : ofValue? v = some e) :
    present e.error = e.error := by
  cases v with
  | obj fs =>
    obtain rfl := Option.some.inj h
    exact present_present _
  | arr items =>
    by_cases hlen : items.length ≤ 3
    · rw [ofValue?, if_pos hlen] at h
      obtain rfl := Option.some.inj h
      exact present_present _
    · rw [ofValue?, if_neg hlen] at h
      cases h
  | _ => cases h

theorem outcome_of_error {v : Json} {e : Envelope} (h : ofValue? v = some e) {err : Json}
    (herr : e.error = some err) : e.outcome = .error (.rpc (errorText err)) := by
  have hp : e.error.filter (!·.isNull) = some err := (present_error h).trans herr
  rw [outcome, hp]

theorem outcome_of_no_error {e : Envelope} (herr : e.error = none) :
    e.outcome = e.result.elim (.error (.invalidFormat "missing result field")) .ok := by
  rw [outcome, herr]
  cases e.result <;> rfl

end HostedNode.Rpc.Envelope

import HostedNode.Proofs.Json.Fields
import HostedNode.Proofs.Secrets.Covered
import HostedNode.Provider.Scheduler

/-! # Records with secrets covered

A reply that issues credentials is read with its secrets covered just as it is read without, but for
the credentials (`decode_coveredIssue`): a fault in it is none of a text, and no other fault names
the text of a field. The parameters of a call are covered field by field
(`coveredParam_object`). -/

namespace HostedNode

open Json

/-! ### Fields -/

section

variable (names : List String) (name : String)

theorem find?_coveredFields (fs : List (String × Json)) :
    find? name (coveredFields names fs) = (find? name fs).map (coveredField names name) := by
  induction fs with
  | nil => rfl
  | cons f fs ih =>
    obtain ⟨n, v⟩ := f
    unfold coveredFields at ih ⊢
    rw [List.map_cons, find?, find?, ih]
    split
    · next h =>
      subst h
      rfl
    · rfl

theorem insert_coveredFields (v : Json) (fs : List (String × Json)) :
    Json.insert name (coveredField names name v) (coveredFields names fs) =
      coveredFields names (Json.insert name v fs) := by
  induction fs with
  | nil => rfl
  | cons f fs ih =>
    obtain ⟨n, w⟩ := f
    unfold coveredFields at ih ⊢
    rw [List.map_cons, Json.insert, Json.insert]
    split_ifs
    · rfl
    · rfl
    · rw [ih, List.map_cons]

theorem sortFields_coveredFields (fs : List (String × Json)) :
    sortFields (coveredFields names fs) = coveredFields names (sortFields fs) := by
  have hfold : ∀ acc, (coveredFields names fs).foldl (fun acc f => Json.insert f.1 f.2 acc)
      (coveredFields names acc) =
      coveredFields names (fs.foldl (fun acc f => Json.insert f.1 f.2 acc) acc) := by
    induction fs with
    | nil => exact fun _ => rfl
    | cons f fs ih =>
      intro acc
      have hinsert := insert_coveredFields names f.1 f.2 acc
      exact (congrArg (List.foldl _ · (coveredFields names fs)) hinsert).trans (ih _)
  exact hfold []

end

/-- **Parameters are covered field by field.** -/
theorem coveredParam_object (fs : List (String × Json)) :
    coveredParam (Json.object fs) = Json.object (coveredFields secretParams fs) :=
  congrArg Json.obj (sortFields_coveredFields secretParams fs).symm

/-- Fields whose names are none of secrets are as they are. -/
theorem coveredFields_of_notMem {names : List String} {fs : List (String × Json)}
    (h : ∀ f ∈ fs, f.1 ∉ names) : coveredFields names fs = fs := by
  have hfield : ∀ f ∈ fs, (f.1, coveredField names f.1 f.2) = f :=
    fun f hf => by rw [coveredField, if_neg (h f hf)]
  rw [coveredFields, List.map_congr_left hfield, List.map_id']

theorem coveredFields_append (names : List String) (fs gs : List (String × Json)) :
    coveredFields names (fs ++ gs) = coveredFields names fs ++ coveredFields names gs :=
  List.map_append

/-! ### Issues of credentials -/

theorem run_string_coveredText (p : Json.Place) (v : Json) :
    Decoder.string.run p (coveredText v) = (Decoder.string.run p v).map fun _ => "" := by
  cases v <;> rfl

/-- A field with a text has the same fault as with the text covered: none. -/
theorem firstFault_coveredFields {α : Type} {r : RecordReader α} {p : Json.Place}
    {names : List String}
    (h : ∀ c ∈ r.checks, c.name ∈ names → ∀ v, c.fault? p (coveredText v) = c.fault? p v)
    (fs : List (String × Json)) :
    r.firstFault p (coveredFields names fs) = r.firstFault p fs := by
  induction fs with
  | nil => rfl
  | cons f fs ih =>
    obtain ⟨n, v⟩ := f
    unfold coveredFields at ih ⊢
    rw [List.map_cons, RecordReader.firstFault, RecordReader.firstFault, ih]
    cases hc : r.checks.find? (·.name = n) with
    | none => rfl
    | some c =>
      have hname : c.name = n := by simpa using List.find?_some hc
      have hfault : c.fault? p (coveredField names n v) = c.fault? p v := by
        unfold coveredField
        split
        · next hn => exact h c (List.mem_of_find?_eq_some hc) (hname ▸ hn) v
        · rfl
      dsimp only
      rw [hfault]

/-- A text that is asked for has the same fault covered: none. -/
theorem fault?_coveredText {name : String} {c : FieldCheck}
    (h : c ∈ (RecordReader.required name Decoder.string).checks) (p : Json.Place) (v : Json) :
    c.fault? p (coveredText v) = c.fault? p v := by
  obtain rfl := List.mem_singleton.mp h
  dsimp only
  rw [run_string_coveredText]
  cases Decoder.string.run p v <;> rfl

/-- Credentials of empty texts are covered ones. -/
theorem encode_empty (c : DeviceCredentials) :
    (⟨Text.Utf8.encode "", Text.Utf8.encode ""⟩ : DeviceCredentials) = c.covered := by
  have hempty : Text.Utf8.encode "" = [] := by decide +kernel
  rw [hempty, DeviceCredentials.covered]

/-- The reader of an issue. -/
def issueReader : RecordReader DeviceCredentials :=
  (fun cert key => ⟨Text.Utf8.encode key, Text.Utf8.encode cert⟩)
    <$> .required "device_cert" .string <*> .required "device_key" .string

theorem firstFault_coveredIssue (fs : List (String × Json)) :
    issueReader.firstFault .untagged (coveredFields issuedFields fs) =
      issueReader.firstFault .untagged fs := by
  refine firstFault_coveredFields (fun c hc _ v => ?_) fs
  rcases List.mem_append.mp hc with hc | hc
  · have hcert : c ∈ (RecordReader.required "device_cert" Decoder.string).checks := hc
    exact fault?_coveredText hcert .untagged v
  · exact fault?_coveredText hc .untagged v

theorem ofFields_required_coveredFields {names : List String} {name : String} (h : name ∈ names)
    (p : Json.Place) (fs : List (String × Json)) :
    (RecordReader.required name Decoder.string).ofFields p (coveredFields names fs) =
      ((RecordReader.required name Decoder.string).ofFields p fs).map fun _ => "" := by
  unfold RecordReader.required RecordReader.field
  dsimp only
  rw [find?_coveredFields]
  cases find? name fs with
  | none => rfl
  | some v =>
    simp only [Option.map_some, coveredField, if_pos h]
    exact run_string_coveredText p v

theorem ofFields_coveredIssue (fs : List (String × Json)) :
    issueReader.ofFields .untagged (coveredFields issuedFields fs) =
      (issueReader.ofFields .untagged fs).map DeviceCredentials.covered := by
  have hread : ∀ fs, issueReader.ofFields .untagged fs = (do
      let cert ← (RecordReader.required "device_cert" Decoder.string).ofFields .untagged fs
      let key ← (RecordReader.required "device_key" Decoder.string).ofFields .untagged fs
      return ⟨Text.Utf8.encode key, Text.Utf8.encode cert⟩) := by
    intro fs
    show (do
      let g ← (do
        let cert ← (RecordReader.required "device_cert" Decoder.string).ofFields .untagged fs
        return fun key => (⟨Text.Utf8.encode key, Text.Utf8.encode cert⟩ : DeviceCredentials))
      let key ← (RecordReader.required "device_key" Decoder.string).ofFields .untagged fs
      return g key) = _
    cases (RecordReader.required "device_cert" Decoder.string).ofFields .untagged fs <;> rfl
  have hcert : "device_cert" ∈ issuedFields := by decide
  have hkey : "device_key" ∈ issuedFields := by decide
  rw [hread, hread, ofFields_required_coveredFields hcert, ofFields_required_coveredFields hkey]
  cases (RecordReader.required "device_cert" Decoder.string).ofFields .untagged fs with
  | error e => rfl
  | ok cert =>
    cases (RecordReader.required "device_key" Decoder.string).ofFields .untagged fs with
    | error e => rfl
    | ok key => exact congrArg Except.ok (encode_empty _)

theorem readItems_coveredIssue (vs : List Json) :
    issueReader.readItems "struct CredentialsResponse" .untagged
        ((vs.take 2).map coveredText ++ vs.drop 2) =
      (issueReader.readItems "struct CredentialsResponse" .untagged vs).map
        DeviceCredentials.covered := by
  rcases vs with _ | ⟨a, _ | ⟨b, rest⟩⟩
  · rfl
  · cases a <;> rfl
  · cases a <;> try rfl
    cases b <;> try rfl
    cases rest with
    | nil => exact congrArg Except.ok (encode_empty _)
    | cons v vs => rfl

/-- **An issue of credentials is read with its secrets covered as it is without, but for the
credentials.** -/
theorem decode_coveredIssue (v : Json) :
    decode credentialsAnswer (coveredIssue v) =
      (decode credentialsAnswer v).map DeviceCredentials.covered := by
  cases v with
  | obj fs =>
    show issueReader.readFields .untagged (coveredFields issuedFields fs) =
      (issueReader.readFields .untagged fs).map DeviceCredentials.covered
    unfold RecordReader.readFields
    rw [firstFault_coveredIssue, ofFields_coveredIssue]
    cases issueReader.firstFault .untagged fs <;> rfl
  | arr vs => exact readItems_coveredIssue vs
  | _ => rfl

end HostedNode

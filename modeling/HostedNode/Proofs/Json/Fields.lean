import HostedNode.Proofs.Json.Grammar

/-! # Fields of objects and of records

An object that is made of fields has the last value under every name (`find?_sortFields`). What is
read as a record is an object or an array (`record_cases`). -/

namespace HostedNode.Json

theorem mapError_eq_ok {ε ε' α : Type} {f : ε → ε'} {x : Except ε α} {a : α} :
    x.mapError f = .ok a ↔ x = .ok a := by
  cases x with
  | error e => simp [Except.mapError]
  | ok b => simp [Except.mapError]

theorem find?_append (name : String) (fs gs : List (String × Json)) :
    find? name (fs ++ gs) = (find? name fs).or (find? name gs) := by
  induction fs with
  | nil => rfl
  | cons f fs ih =>
    rw [List.cons_append, find?, find?]
    split
    · rfl
    · exact ih

theorem find?_insert (name other : String) (v : Json) (fs : List (String × Json)) :
    find? other (insert name v fs) = if name = other then some v else find? other fs := by
  split
  · next h =>
    subst h
    exact find?_insert_self name v fs
  · next h => exact find?_insert_of_ne (Ne.symm h) v fs

theorem find?_foldl_insert (name : String) (fs acc : List (String × Json)) :
    find? name (fs.foldl (fun acc f => insert f.1 f.2 acc) acc) =
      (find? name fs.reverse).or (find? name acc) := by
  induction fs generalizing acc with
  | nil => rfl
  | cons f fs ih =>
    have hlast : find? name [f] = if f.1 = name then some f.2 else none := rfl
    rw [List.foldl_cons, ih, find?_insert, List.reverse_cons, find?_append, hlast, Option.or_assoc]
    split <;> rfl

/-- **Of several values under one name an object has the last.** -/
theorem find?_sortFields (name : String) (fs : List (String × Json)) :
    find? name (sortFields fs) = find? name fs.reverse := by
  rw [sortFields, find?_foldl_insert]
  exact Option.or_none

/-! ### Records -/

namespace RecordReader

variable {α β : Type}

theorem ofFields_seq {f : RecordReader (α → β)} {x : RecordReader α} {p : Place}
    {fs : List (String × Json)} {b : β} (h : (f <*> x).ofFields p fs = .ok b) :
    ∃ g a, f.ofFields p fs = .ok g ∧ x.ofFields p fs = .ok a ∧ b = g a := by
  have hread : (do
      let g ← f.ofFields p fs
      let a ← x.ofFields p fs
      .ok (g a)) = Except.ok b := h
  obtain ⟨g, hg, hread⟩ := bind_eq_ok.mp hread
  obtain ⟨a, ha, hread⟩ := bind_eq_ok.mp hread
  exact ⟨g, a, hg, ha, (Except.ok.inj hread).symm⟩

theorem ofItems_seq_ok {f : RecordReader (α → β)} {x : RecordReader α} {p : Place}
    {short : Nat → DecodeError} {n : Nat} {items rest : List Json} {b : β}
    (h : (f <*> x).ofItems p short n items = .ok (b, rest)) :
    ∃ g more a, f.ofItems p short n items = .ok (g, more) ∧
      x.ofItems p short (n + f.checks.length) more = .ok (a, rest) ∧ b = g a := by
  have hread : (f.seq x).ofItems p short n items = .ok (b, rest) := h
  unfold RecordReader.seq at hread
  dsimp only at hread
  obtain ⟨⟨g, more⟩, hg, hread⟩ := bind_eq_ok.mp hread
  obtain ⟨⟨a, rest'⟩, ha, hread⟩ := bind_eq_ok.mp hread
  obtain ⟨rfl, rfl⟩ := Prod.mk.inj (Except.ok.inj hread)
  exact ⟨g, more, a, hg, ha, rfl⟩

/-- A field that must be there is read from what stands under its name. -/
theorem ofFields_required {name : String} {d : Decoder α} {p : Place} {fs : List (String × Json)}
    {a : α} (h : (required name d).ofFields p fs = .ok a) :
    ∃ v, find? name fs = some v ∧ d.run p v = .ok a := by
  unfold required field at h
  dsimp only at h
  cases hv : find? name fs with
  | none =>
    rw [hv] at h
    cases h
  | some v =>
    rw [hv] at h
    exact ⟨v, rfl, h⟩

/-- It is read from the next item of an array. -/
theorem ofItems_required {name : String} {d : Decoder α} {p : Place}
    {short : Nat → DecodeError} {n : Nat} {items rest : List Json} {a : α}
    (h : (required name d).ofItems p short n items = .ok (a, rest)) :
    ∃ v, items = v :: rest ∧ d.run p v = .ok a := by
  cases items with
  | nil => cases h
  | cons v vs =>
    obtain ⟨b, hb, hread⟩ := map_eq_ok.mp h
    obtain ⟨rfl, rfl⟩ := Prod.mk.inj hread
    exact ⟨v, rfl, hb⟩

/-- What is read as a record is an object with its fields, or an array of them and no more. -/
theorem record_cases {name : String} {r : RecordReader α} {v : Json} {a : α}
    (h : decode (r.decoder name) v = .ok a) :
    (∃ fs, v = .obj fs ∧ r.ofFields .untagged fs = .ok a) ∨
      ∃ items short, v = .arr items ∧ r.ofItems .untagged short 0 items = .ok (a, []) := by
  cases v with
  | obj fs =>
    refine Or.inl ⟨fs, rfl, ?_⟩
    have hread : r.readFields .untagged fs = .ok a := h
    unfold readFields at hread
    cases hf : r.firstFault .untagged fs with
    | some e =>
      rw [hf] at hread
      cases hread
    | none =>
      rw [hf] at hread
      exact hread
  | arr items =>
    right
    have hread : r.readItems ("struct " ++ name) .untagged items = .ok a := h
    unfold readItems at hread
    dsimp only at hread
    refine ⟨items, fun n => .invalidLength n
      ("struct " ++ name ++ " with " ++ counted r.checks.length), rfl, ?_⟩
    rcases hr : r.ofItems .untagged _ 0 items with e | ⟨b, rest⟩
    · rw [hr] at hread
      cases hread
    · rw [hr] at hread
      cases rest with
      | nil =>
        obtain rfl := Except.ok.inj hread
        rfl
      | cons v vs => cases hread
  | _ => cases h

end RecordReader

/-- Only a text is read as one. -/
theorem Decoder.eq_str_of_run_string {p : Place} {v : Json} {s : String}
    (h : Decoder.string.run p v = .ok s) : v = .str s := by
  cases v with
  | str t =>
    obtain rfl := Except.ok.inj h
    rfl
  | _ => cases h

end HostedNode.Json

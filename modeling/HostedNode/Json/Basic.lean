import HostedNode.Decimal.Format

/-! # JSON values

A JSON value. Numbers are integers between `-2 ^ 63` and `2 ^ 64 - 1`, or doubles. An object is a
list of fields: the ones that records are written to keep the order of the record, the ones read
as plain values are sorted by name without repetition (`Json.object`). -/

namespace HostedNode

/-- A JSON value. -/
inductive Json where
  | null
  | bool (b : Bool)
  | int (i : Int)
  /-- A number that is no integer, or none in the range of integers. -/
  | double (d : Decimal.Double)
  | str (s : String)
  | arr (items : List Json)
  | obj (fields : List (String × Json))
deriving Repr, Inhabited

namespace Json

mutual

/-- Whether two values are the same, field order included. -/
def beq : Json → Json → Bool
  | null, null => true
  | bool a, bool b => a == b
  | int a, int b => a == b
  | double a, double b => a == b
  | str a, str b => a == b
  | arr a, arr b => beqItems a b
  | obj a, obj b => beqFields a b
  | _, _ => false

/-- Whether two lists of values are the same. -/
def beqItems : List Json → List Json → Bool
  | [], [] => true
  | a :: as, b :: bs => beq a b && beqItems as bs
  | _, _ => false

/-- Whether two lists of fields are the same. -/
def beqFields : List (String × Json) → List (String × Json) → Bool
  | [], [] => true
  | (m, a) :: as, (n, b) :: bs => m == n && beq a b && beqFields as bs
  | _, _ => false

end

instance : BEq Json := ⟨beq⟩

mutual

theorem eq_of_beq : ∀ a b : Json, beq a b = true → a = b
  | null, b, h => by cases b <;> simp_all [beq]
  | bool a, b, h => by cases b <;> simp_all [beq]
  | int a, b, h => by cases b <;> simp_all [beq]
  | double a, b, h => by cases b <;> simp_all [beq]
  | str a, b, h => by cases b <;> simp_all [beq]
  | arr a, b, h => by
    cases b <;> simp only [beq, Bool.false_eq_true] at h
    rw [eq_of_beqItems a _ h]
  | obj a, b, h => by
    cases b <;> simp only [beq, Bool.false_eq_true] at h
    rw [eq_of_beqFields a _ h]

theorem eq_of_beqItems : ∀ as bs : List Json, beqItems as bs = true → as = bs
  | [], bs, h => by cases bs <;> simp_all [beqItems]
  | a :: as, bs, h => by
    cases bs with
    | nil => simp [beqItems] at h
    | cons b bs =>
      simp only [beqItems, Bool.and_eq_true] at h
      rw [eq_of_beq a b h.1, eq_of_beqItems as bs h.2]

theorem eq_of_beqFields : ∀ as bs : List (String × Json), beqFields as bs = true → as = bs
  | [], bs, h => by cases bs <;> simp_all [beqFields]
  | (m, a) :: as, bs, h => by
    cases bs with
    | nil => simp [beqFields] at h
    | cons b bs =>
      obtain ⟨n, b⟩ := b
      simp only [beqFields, Bool.and_eq_true, beq_iff_eq] at h
      rw [h.1.1, eq_of_beq a b h.1.2, eq_of_beqFields as bs h.2]

end

mutual

theorem beq_refl : ∀ a : Json, beq a a = true
  | null => rfl
  | bool a => by simp [beq]
  | int a => by simp [beq]
  | double a => by simp [beq]
  | str a => by simp [beq]
  | arr a => by rw [beq]; exact beqItems_refl a
  | obj a => by rw [beq]; exact beqFields_refl a

theorem beqItems_refl : ∀ as : List Json, beqItems as as = true
  | [] => rfl
  | a :: as => by rw [beqItems, beq_refl a, beqItems_refl as]; rfl

theorem beqFields_refl : ∀ as : List (String × Json), beqFields as as = true
  | [] => rfl
  | (m, a) :: as => by simp [beqFields, beq_refl a, beqFields_refl as]

end

instance : LawfulBEq Json where
  eq_of_beq := eq_of_beq _ _
  rfl := beq_refl _

instance : DecidableEq Json := fun a b =>
  if h : beq a b = true then isTrue (eq_of_beq a b h)
  else isFalse fun e => h (e ▸ beq_refl a)

/-! ### Objects -/

/-- The value under a name: the first one that the list of fields holds. -/
def find? (name : String) : List (String × Json) → Option Json
  | [] => none
  | (n, v) :: fields => if n = name then some v else find? name fields

/-- Puts a value under a name, among fields sorted by name; a value that the name had is replaced.
Names are compared by code points, which is also the order of their UTF-8 forms. -/
def insert (name : String) (value : Json) : List (String × Json) → List (String × Json)
  | [] => [(name, value)]
  | (n, v) :: fields =>
    if name < n then (name, value) :: (n, v) :: fields
    else if name = n then (name, value) :: fields
    else (n, v) :: insert name value fields

/-- The fields sorted by name; of several values under one name the last stays. -/
def sortFields (fields : List (String × Json)) : List (String × Json) :=
  fields.foldl (fun acc f => insert f.1 f.2 acc) []

/-- The object with these fields. -/
def object (fields : List (String × Json)) : Json := obj (sortFields fields)

/-- The value of a field of an object. -/
def get? (name : String) : Json → Option Json
  | obj fields => find? name fields
  | _ => none

/-- Whether the value is null. -/
def isNull : Json → Bool
  | null => true
  | _ => false

/-- A number that is a count. -/
def ofNat (n : Nat) : Json := int n

theorem find?_insert_self (name : String) (v : Json) (fs : List (String × Json)) :
    find? name (insert name v fs) = some v := by
  induction fs with
  | nil => simp [insert, find?]
  | cons f fs ih =>
    obtain ⟨n, w⟩ := f
    simp only [insert]
    split
    · simp [find?]
    · split
      · simp [find?]
      · rename_i h
        simp [find?, Ne.symm h, ih]

theorem find?_insert_of_ne {name other : String} (h : other ≠ name) (v : Json)
    (fs : List (String × Json)) : find? other (insert name v fs) = find? other fs := by
  induction fs with
  | nil => simp [insert, find?, Ne.symm h]
  | cons f fs ih =>
    obtain ⟨n, w⟩ := f
    simp only [insert]
    split
    · simp [find?, Ne.symm h]
    · split
      · rename_i h2
        subst h2
        simp [find?, Ne.symm h]
      · simp [find?, ih]

end Json

end HostedNode

import HostedNode.Proofs.Text.Quoted
import HostedNode.Text.Shown

/-! # Shown values can be told apart

A type is `Legible` if its values are shown on one line, and if two of them with anything behind
them that does not go on with a number look the same only if they are the same. Texts, numbers and
truth values are; lists of what is legible are; and so is a record of legible fields
(`Legible.ofRecord`), for which it is enough to list the fields of two of its values side by side
(`Alike`). -/

namespace HostedNode.Text

/-- What stands behind a value does not go on with a number. -/
def EndsValue (rest : List Char) : Prop := ∀ c ∈ rest.head?, c.isDigit = false

theorem endsValue_cons {c : Char} (h : c.isDigit = false) (rest : List Char) :
    EndsValue (c :: rest) := by
  intro d hd
  obtain rfl : c = d := by simpa using hd
  exact h

/-- Values that can be read off the line on which they are shown. -/
class Legible (α : Type) [Shown α] : Prop where
  oneLine : ∀ a : α, OneLine (shown a).toList
  /-- A list of values that begins with one is not taken for an empty list. -/
  first : ∀ a : α, ∃ c cs, (shown a).toList = c :: cs ∧ c ≠ ']'
  split : ∀ (a b : α) (r s : List Char), EndsValue r → EndsValue s →
    (shown a).toList ++ r = (shown b).toList ++ s → a = b ∧ r = s

/-! ### Texts, truth values and numbers -/

instance : Legible String where
  oneLine := oneLine_quoted
  first s := ⟨'"', _, toList_quoted s, by decide⟩
  split _ _ _ _ _ _ h := quoted_append h

instance : Legible Bool where
  oneLine a := by cases a <;> decide
  first a := by
    cases a
    · exact ⟨'f', _, rfl, by decide⟩
    · exact ⟨'t', _, rfl, by decide⟩
  split a b r s _ _ h := by
    cases a <;> cases b
    · exact ⟨rfl, List.append_cancel_left h⟩
    · exact absurd (List.cons.inj h).1 (by decide)
    · exact absurd (List.cons.inj h).1 (by decide)
    · exact ⟨rfl, List.append_cancel_left h⟩

theorem toList_toString (n : Nat) : (toString n).toList = Nat.toDigits 10 n := Nat.toList_repr

theorem isDigit_toDigits {n : Nat} {c : Char} (h : c ∈ Nat.toDigits 10 n) : c.isDigit = true :=
  Nat.isDigit_of_mem_toDigits (by decide) (by decide) h

instance : Legible Nat where
  oneLine n c hc := by
    have hdigit := isDigit_toDigits (toList_toString n ▸ hc)
    constructor
    · rintro rfl
      cases hdigit
    · rintro rfl
      cases hdigit
  first n := by
    obtain ⟨c, cs, hcs⟩ := List.exists_cons_of_ne_nil (Nat.toDigits_ne_nil (n := n) (b := 10))
    have hdigit : c.isDigit = true := isDigit_toDigits (hcs ▸ List.mem_cons_self)
    refine ⟨c, cs, (toList_toString n).trans hcs, ?_⟩
    rintro rfl
    cases hdigit
  split n m r s hr hs h := by
    have hdigits : Nat.toDigits 10 n ++ r = Nat.toDigits 10 m ++ s := by
      rw [← toList_toString, ← toList_toString]
      exact h
    obtain ⟨hnm, hrs⟩ := span_append (fun c => isDigit_toDigits) (fun c => isDigit_toDigits) hr hs
      hdigits
    exact ⟨toDigits_inj (by decide) (by decide) hnm, hrs⟩

/-- Values that are shown as legible ones are legible. -/
theorem Legible.ofInjective {α β : Type} [Shown α] [Shown β] [Legible β] {f : α → β}
    (hf : Function.Injective f) (h : ∀ a, shown a = shown (f a)) : Legible α where
  oneLine a := by
    rw [h]
    exact oneLine (f a)
  first a := by
    rw [h]
    exact first (f a)
  split a b r s hr hs heq := by
    rw [h, h] at heq
    obtain ⟨hab, hrs⟩ := split (f a) (f b) r s hr hs heq
    exact ⟨hf hab, hrs⟩

instance : Legible UInt32 := .ofInjective (f := UInt32.toNat) (fun _ _ => UInt32.toNat_inj.mp)
  fun _ => rfl

instance : Legible UInt64 := .ofInjective (f := UInt64.toNat) (fun _ _ => UInt64.toNat_inj.mp)
  fun _ => rfl

/-! ### Parts with commas between them -/

/-- What stands behind the first of some parts. -/
def commaTail : List String → List Char
  | [] => []
  | t :: ts => ',' :: ' ' :: (commaJoined (t :: ts)).toList

theorem toList_commaJoined (t : String) (ts : List String) :
    (commaJoined (t :: ts)).toList = t.toList ++ commaTail ts := by
  cases ts with
  | nil => rw [commaJoined, commaTail, List.append_nil]
  | cons u us =>
    rw [commaJoined, commaTail, String.toList_append, String.toList_append, List.append_assoc]
    rfl

theorem oneLine_commaJoined {ts : List String} (h : ∀ t ∈ ts, OneLine t.toList) :
    OneLine (commaJoined ts).toList := by
  induction ts with
  | nil => decide
  | cons t ts ih =>
    have hts : OneLine (commaJoined ts).toList := ih fun u hu => h u (List.mem_cons_of_mem _ hu)
    have htail : OneLine (commaTail ts) := by
      cases ts with
      | nil => decide
      | cons u us =>
        have hcomma : OneLine [',', ' '] := by decide
        exact hcomma.append hts
    rw [toList_commaJoined]
    exact (h t List.mem_cons_self).append htail

/-- What is behind a value among others, up to the end of the others. -/
theorem endsValue_commaTail (ts : List String) {rest : List Char} (h : EndsValue rest) :
    EndsValue (commaTail ts ++ rest) := by
  cases ts with
  | nil => exact h
  | cons t ts => exact endsValue_cons (by decide) _

/-! ### Lists -/

section Lists

variable {α : Type} [Shown α] [Legible α]

/-- A list that is not empty does not begin with the bracket that closes it. -/
theorem items_ne_bracket (x : α) (xs : List α) (r s : List Char) :
    (commaJoined ((x :: xs).map shown)).toList ++ r ≠ ']' :: s := by
  intro h
  obtain ⟨c, cs, hx, hc⟩ := Legible.first x
  rw [List.map_cons, toList_commaJoined, hx] at h
  exact hc (List.cons.inj h).1

theorem items_append {xs ys : List α} {r s : List Char}
    (h : (commaJoined (xs.map shown)).toList ++ ']' :: r =
      (commaJoined (ys.map shown)).toList ++ ']' :: s) : xs = ys ∧ r = s := by
  have hends : ∀ (zs : List α) (t : List Char), EndsValue (commaTail (zs.map shown) ++ ']' :: t) :=
    fun zs t => endsValue_commaTail _ (endsValue_cons (by decide) t)
  induction xs generalizing ys with
  | nil =>
    cases ys with
    | nil => exact ⟨rfl, (List.cons.inj h).2⟩
    | cons y ys => exact absurd h.symm (items_ne_bracket y ys _ _)
  | cons x xs ih =>
    cases ys with
    | nil => exact absurd h (items_ne_bracket x xs _ _)
    | cons y ys =>
      rw [List.map_cons, List.map_cons, toList_commaJoined, toList_commaJoined, List.append_assoc,
        List.append_assoc] at h
      obtain ⟨rfl, htail⟩ := Legible.split x y _ _ (hends xs r) (hends ys s) h
      cases xs with
      | nil =>
        cases ys with
        | nil => exact ⟨rfl, (List.cons.inj htail).2⟩
        | cons y' ys => exact absurd (List.cons.inj htail).1 (by decide)
      | cons x' xs =>
        cases ys with
        | nil => exact absurd (List.cons.inj htail).1 (by decide)
        | cons y' ys =>
          have hrest : (commaJoined ((x' :: xs).map shown)).toList ++ ']' :: r =
              (commaJoined ((y' :: ys).map shown)).toList ++ ']' :: s :=
            (List.cons.inj (List.cons.inj htail).2).2
          obtain ⟨hxs, hrs⟩ := ih hrest
          exact ⟨by rw [hxs], hrs⟩

instance : Legible (List α) where
  oneLine xs := by
    have hopen : OneLine "[".toList := by decide
    have hclose : OneLine "]".toList := by decide
    have hitems : OneLine (commaJoined (xs.map shown)).toList := by
      refine oneLine_commaJoined fun t ht => ?_
      obtain ⟨x, -, rfl⟩ := List.mem_map.mp ht
      exact Legible.oneLine x
    show OneLine ("[" ++ commaJoined (xs.map shown) ++ "]").toList
    rw [String.toList_append, String.toList_append]
    exact (hopen.append hitems).append hclose
  first xs := by
    refine ⟨'[', (commaJoined (xs.map shown)).toList ++ [']'], ?_, by decide⟩
    show ("[" ++ commaJoined (xs.map shown) ++ "]").toList = _
    rw [String.toList_append, String.toList_append]
    rfl
  split xs ys r s _ _ h := by
    have hitems : (commaJoined (xs.map shown)).toList ++ ']' :: r =
        (commaJoined (ys.map shown)).toList ++ ']' :: s := by
      have hchars : ("[" ++ commaJoined (xs.map shown) ++ "]").toList ++ r =
          ("[" ++ commaJoined (ys.map shown) ++ "]").toList ++ s := h
      simpa using hchars
    exact items_append hitems

end Lists

/-! ### Records -/

/-- The fields of two records, side by side: the names are the same, and the values are of the same
types. `same` says that the values are the same, too. -/
inductive Alike : (fs gs : List (String × String)) → (same : Prop) → Prop where
  | nil : Alike [] [] True
  | cons {α : Type} [Shown α] [Legible α] {fs gs : List (String × String)} {same : Prop}
      (name : String) (hname : OneLine name.toList) (a b : α) (rest : Alike fs gs same) :
      Alike ((name, shown a) :: fs) ((name, shown b) :: gs) (a = b ∧ same)

/-- The text of a field. -/
def fieldText (f : String × String) : String := f.1 ++ ": " ++ f.2

theorem toList_fieldText (name value : String) :
    (fieldText (name, value)).toList = name.toList ++ ':' :: ' ' :: value.toList := by
  rw [fieldText, String.toList_append, String.toList_append, List.append_assoc]
  rfl

namespace Alike

variable {fs gs : List (String × String)} {same : Prop}

theorem oneLine (h : Alike fs gs same) : OneLine (commaJoined (fs.map fieldText)).toList := by
  have hall : ∀ f ∈ fs, OneLine (fieldText f).toList := by
    induction h with
    | nil => simp
    | cons name hname a b rest ih =>
      intro f hf
      rcases List.mem_cons.mp hf with rfl | hf
      · have hcolon : OneLine [':', ' '] := by decide
        rw [toList_fieldText]
        exact hname.append (hcolon.append (Legible.oneLine a))
      · exact ih f hf
  refine oneLine_commaJoined fun t ht => ?_
  obtain ⟨f, hf, rfl⟩ := List.mem_map.mp ht
  exact hall f hf

/-- Fields that look the same are the same. -/
theorem split (h : Alike fs gs same) {r s : List Char} (hr : EndsValue r) (hs : EndsValue s)
    (heq : (commaJoined (fs.map fieldText)).toList ++ r =
      (commaJoined (gs.map fieldText)).toList ++ s) : same ∧ r = s := by
  induction h with
  | nil => exact ⟨trivial, heq⟩
  | @cons α _ _ fs gs same name hname a b rest ih =>
    rw [List.map_cons, List.map_cons, toList_commaJoined, toList_commaJoined, toList_fieldText,
      toList_fieldText] at heq
    simp only [List.append_assoc, List.cons_append] at heq
    have hvalue := (List.cons.inj (List.cons.inj (List.append_cancel_left heq)).2).2
    obtain ⟨rfl, htail⟩ := Legible.split a b _ _ (endsValue_commaTail _ hr)
      (endsValue_commaTail _ hs) hvalue
    cases rest with
    | nil => exact ⟨⟨rfl, trivial⟩, htail⟩
    | cons name' hname' a' b' rest' =>
      obtain ⟨hsame, hrs⟩ := ih (List.cons.inj (List.cons.inj htail).2).2
      exact ⟨⟨rfl, hsame⟩, hrs⟩

end Alike

theorem toList_shownRecord {fs : List (String × String)} (hne : fs ≠ []) (name : String) :
    (shownRecord name fs).toList = name.toList ++
      (' ' :: '\x7b' :: ' ' :: ((commaJoined (fs.map fieldText)).toList ++ [' ', '\x7d'])) := by
  have hfull : fs.isEmpty = false := by simpa using hne
  rw [shownRecord, hfull]
  show (name ++ " \x7b " ++ commaJoined (fs.map fieldText) ++ " \x7d").toList = _
  simp only [String.toList_append, List.append_assoc]
  rfl

theorem Alike.oneLine_shownRecord {fs gs : List (String × String)} {same : Prop}
    (h : Alike fs gs same) (hne : fs ≠ []) {name : String} (hname : OneLine name.toList) :
    OneLine (shownRecord name fs).toList := by
  have hopen : OneLine [' ', '\x7b', ' '] := by decide
  have hclose : OneLine [' ', '\x7d'] := by decide
  rw [toList_shownRecord hne]
  exact hname.append (hopen.append (h.oneLine.append hclose))

/-- **Records of one name that look the same have the same fields.** -/
theorem Alike.split_shownRecord {fs gs : List (String × String)} {same : Prop}
    (h : Alike fs gs same) (hne : fs ≠ []) {name : String} {r s : List Char}
    (heq : (shownRecord name fs).toList ++ r = (shownRecord name gs).toList ++ s) :
    same ∧ r = s := by
  have hne' : gs ≠ [] := by
    cases h with
    | nil => exact absurd rfl hne
    | cons name hname a b rest => exact List.cons_ne_nil _ _
  rw [toList_shownRecord hne, toList_shownRecord hne', List.append_assoc, List.append_assoc] at heq
  have hfields : (commaJoined (fs.map fieldText)).toList ++ ' ' :: '\x7d' :: r =
      (commaJoined (gs.map fieldText)).toList ++ ' ' :: '\x7d' :: s := by
    simpa using List.append_cancel_left heq
  obtain ⟨hsame, hrest⟩ := h.split (endsValue_cons (by decide) _) (endsValue_cons (by decide) _)
    hfields
  exact ⟨hsame, (List.cons.inj (List.cons.inj hrest).2).2⟩

/-- **A record of legible fields is legible.** -/
theorem Legible.ofRecord {α : Type} [Shown α] {name : String}
    {fields : α → List (String × String)} {same : α → α → Prop}
    (hshown : ∀ a, shown a = shownRecord name (fields a)) (hne : ∀ a, fields a ≠ [])
    (hname : OneLine name.toList) (hfirst : ∃ c cs, name.toList = c :: cs ∧ c ≠ ']')
    (halike : ∀ a b, Alike (fields a) (fields b) (same a b)) (hsame : ∀ a b, same a b → a = b) :
    Legible α where
  oneLine a := by
    rw [hshown]
    exact (halike a a).oneLine_shownRecord (hne a) hname
  first a := by
    obtain ⟨c, cs, hcs, hc⟩ := hfirst
    have htext := toList_shownRecord (hne a) name
    rw [← hshown, hcs, List.cons_append] at htext
    exact ⟨c, _, htext, hc⟩
  split a b r s _ _ h := by
    rw [hshown, hshown] at h
    obtain ⟨hab, hrs⟩ := (halike a b).split_shownRecord (hne a) h
    exact ⟨hsame a b hab, hrs⟩

end HostedNode.Text

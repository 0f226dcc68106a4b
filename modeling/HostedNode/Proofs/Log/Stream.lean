import HostedNode.Log.Stream
import Mathlib.Data.List.Basic

/-! # Filtered lines

A line is drafted part by part. It comes to the message, which is all message parts one behind the
other, and the texts of the other parts, with single blanks between those of them that are not empty
(`Event.line_eq`). What carries this is that a field put behind the fields so far is one more text
(`spaced_field`); so the place of the message among the fields does not matter.

Whether an entry passes depends on its severity only. So a listener behind a filter gets, event by
event, what one behind a filter that lets more pass gets, unless the first filter stops it
(`entry?_of_le`), and the whole run follows (`filtering_commutes`). -/

namespace HostedNode.Log

open Text

/-! ### Texts with blanks between them -/

/-- The texts that are not empty, with single blanks between them. -/
def spaced (ts : List String) : String := " ".intercalate (ts.filter (· ≠ ""))

theorem spaced_empty (ts : List String) : spaced ("" :: ts) = spaced ts := rfl

theorem spaced_cons {t : String} (ht : t ≠ "") (ts : List String) :
    spaced (t :: ts) = " ".intercalate (t :: ts.filter (· ≠ "")) := by
  rw [spaced, List.filter_cons_of_pos (by simpa using ht)]

theorem spaced_single (t : String) : spaced [t] = t := by
  by_cases ht : t = ""
  · rw [ht, spaced_empty]
    exact String.intercalate_nil
  · rw [spaced_cons ht]
    exact String.intercalate_singleton

/-- A text before others: there is a blank behind it, unless they are all empty. -/
theorem spaced_cons_eq {t : String} (ht : t ≠ "") (ts : List String) :
    spaced (t :: ts) = if spaced ts = "" then t else t ++ " " ++ spaced ts := by
  rw [spaced_cons ht]
  cases hts : ts.filter (· ≠ "") with
  | nil =>
    have hnone : spaced ts = "" := by rw [spaced, hts, String.intercalate_nil]
    rw [if_pos hnone, String.intercalate_singleton]
  | cons u us =>
    have hu : u ≠ "" := by
      have hmem : u ∈ ts.filter (· ≠ "") := hts ▸ List.mem_cons_self
      simpa using (List.mem_filter.mp hmem).2
    have hsome : spaced ts ≠ "" := by
      rw [spaced, hts, ← String.append_empty (s := u), String.intercalate_cons_append]
      exact fun h => hu (String.append_eq_empty_iff.mp h).1
    rw [if_neg hsome, String.intercalate_cons_of_ne_nil (List.cons_ne_nil u us), spaced, hts]

/-- A text behind others, with a blank before it if they are not empty, is one more text. -/
theorem spaced_field (sofar : String) {t : String} (ht : t ≠ "") (ts : List String) :
    spaced (((if sofar = "" then "" else sofar ++ " ") ++ t) :: ts) =
      spaced (sofar :: t :: ts) := by
  by_cases hsofar : sofar = ""
  · rw [if_pos hsofar, hsofar, spaced_empty, String.empty_append]
  · have hboth : sofar ++ " " ++ t ≠ "" := fun h => ht (String.append_eq_empty_iff.mp h).2
    have hfilter : (t :: ts).filter (· ≠ "") = t :: ts.filter (· ≠ "") :=
      List.filter_cons_of_pos (by simpa using ht)
    rw [if_neg hsofar, spaced_cons hboth, spaced_cons hsofar, hfilter,
      String.intercalate_cons_append, String.intercalate_cons_of_ne_nil (List.cons_ne_nil _ _)]

/-! ### Lines -/

namespace Event

/-- The texts of the message parts, one behind the other. -/
def message (e : Event) : String := String.join ((e.parts.filter Part.isMessage).map Part.value)

/-- The texts of the other parts, in their order. -/
def fields (e : Event) : List String := (e.parts.filter (!·.isMessage)).map Part.text

end Event

theorem Part.text_ne_empty (p : Part) : p.text ≠ "" := by
  intro h
  have hsign := (String.append_eq_empty_iff.mp (String.append_eq_empty_iff.mp h).1).2
  exact absurd hsign (by decide)

namespace LineDraft

theorem record_message {p : Part} (h : p.isMessage = true) (d : LineDraft) :
    d.record p = ⟨d.message ++ p.value, d.fields⟩ := if_pos h

theorem record_field {p : Part} (h : p.isMessage = false) (d : LineDraft) :
    d.record p =
      ⟨d.message, (if d.fields = "" then "" else d.fields ++ " ") ++ p.text⟩ :=
  if_neg (by rw [h]; decide)

/-- What a draft holds behind parts, each by the kind of parts that it is made of. -/
theorem foldl_record (ps : List Part) (d : LineDraft) :
    ps.foldl record d =
      ⟨d.message ++ String.join ((ps.filter Part.isMessage).map Part.value),
        spaced (d.fields :: (ps.filter (!·.isMessage)).map Part.text)⟩ := by
  induction ps generalizing d with
  | nil =>
    show d = ⟨d.message ++ "", spaced [d.fields]⟩
    rw [String.append_empty, spaced_single]
  | cons p ps ih =>
    rw [List.foldl_cons, ih]
    cases hp : p.isMessage with
    | true =>
      rw [record_message hp]
      simp only [List.filter_cons, hp, Bool.not_true, if_true, List.map_cons, String.join_cons,
        String.append_assoc, Bool.false_eq_true, if_false]
    | false =>
      rw [record_field hp]
      simp only [List.filter_cons, hp, Bool.not_false, if_true, List.map_cons,
        Bool.false_eq_true, if_false, spaced_field d.fields p.text_ne_empty]

theorem finish_eq (d : LineDraft) : d.finish = spaced [d.message, d.fields] := by
  unfold finish
  by_cases hm : d.message = ""
  · rw [hm, spaced_empty, spaced_single]
    by_cases hf : d.fields = ""
    · rw [if_pos hf, hf]
    · rw [if_neg hf, if_pos rfl]
  · rw [spaced_cons_eq hm, spaced_single, if_neg hm]

end LineDraft

/-- **The line of an event is what is not empty of its message and its fields, with single blanks
between them.** -/
theorem Event.line_eq (e : Event) : e.line = spaced (e.message :: e.fields) := by
  rw [line, LineDraft.foldl_record, LineDraft.finish_eq]
  show spaced ["" ++ e.message, spaced ("" :: e.fields)] = _
  rw [String.empty_append, spaced_empty]
  by_cases hm : e.message = ""
  · rw [hm, spaced_empty, spaced_empty, spaced_single]
  · rw [spaced_cons_eq hm, spaced_cons_eq hm, spaced_single]

/-! ### Names of severities -/

/-- Either case form of a character is that of its other one. -/
theorem case_case (c : Char) : c.toLower.toUpper = c.toUpper ∧ c.toUpper.toLower = c.toLower := by
  have hascii : ∀ n < 128, (Char.ofNat n).toLower.toUpper = (Char.ofNat n).toUpper ∧
      (Char.ofNat n).toUpper.toLower = (Char.ofNat n).toLower := by decide
  by_cases hc : c.toNat < 128
  · have h := hascii c.toNat hc
    rwa [Char.ofNat_toNat] at h
  · have hlower : c.toLower = c := by
      refine dif_neg fun hrange => hc ?_
      exact Nat.lt_of_le_of_lt (UInt32.le_iff_toNat_le.mp hrange.2) (by decide)
    have hupper : c.toUpper = c := by
      refine dif_neg fun hrange => hc ?_
      exact Nat.lt_of_le_of_lt (UInt32.le_iff_toNat_le.mp hrange.2) (by decide)
    rw [hlower, hupper, hlower]
    exact ⟨rfl, rfl⟩

theorem upper_lower (s : String) : upper (lower s) = upper s := by
  rw [upper, upper, toList_lower, List.map_map]
  exact congrArg String.ofList (List.map_congr_left fun c _ => (case_case c).1)

theorem lower_upper (s : String) : lower (upper s) = lower s := by
  rw [lower, lower, toList_upper, List.map_map]
  exact congrArg String.ofList (List.map_congr_left fun c _ => (case_case c).2)

namespace Severity

theorem upper_eq_name_iff {name : String} {s : Severity} :
    upper name = s.name ↔ lower name = lower s.name := by
  have hname : upper s.name = s.name := by cases s <;> rfl
  constructor
  · intro h
    rw [← h, lower_upper]
  · intro h
    rw [← upper_lower, h, upper_lower, hname]

theorem parse?_eq_some_iff {name : String} {s : Severity} :
    parse? name = some s ↔ lower name = lower s.name := by
  rw [parse?, ← upper_eq_name_iff]
  generalize upper name = n
  constructor
  · intro h
    obtain ⟨before, after, hsplit, -⟩ := List.lookup_eq_some_iff.mp h
    have hmem : (n, s) ∈ names := hsplit ▸ by simp
    obtain ⟨v, -, hv⟩ := List.mem_map.mp hmem
    obtain ⟨rfl, rfl⟩ := Prod.mk.inj hv
    rfl
  · rintro rfl
    cases s <;> rfl

end Severity

/-! ### Filters -/

namespace Level

variable {f g : Level}

/-- **A filter lets pass the names of the severities that are grave enough**, in any letter case. -/
theorem allows_iff {name : String} :
    f.allows name = true ↔ ∃ s : Severity, lower name = lower s.name ∧ s.level ≤ f := by
  unfold allows
  cases h : Severity.parse? name with
  | none =>
    have hnone : ∀ s : Severity, lower name ≠ lower s.name := by
      intro s hs
      rw [Severity.parse?_eq_some_iff.mpr hs] at h
      cases h
    simp [hnone]
  | some s =>
    have hs := Severity.parse?_eq_some_iff.mp h
    simp only [decide_eq_true_eq]
    refine ⟨fun hle => ⟨s, hs, hle⟩, ?_⟩
    rintro ⟨t, ht, hle⟩
    have hst := Severity.parse?_eq_some_iff.mpr ht
    rw [h] at hst
    rwa [Option.some.inj hst]

theorem allows_mono (h : f ≤ g) {name : String} (hf : f.allows name = true) :
    g.allows name = true := by
  obtain ⟨s, hs, hle⟩ := allows_iff.mp hf
  exact allows_iff.mpr ⟨s, hs, Nat.le_trans hle h⟩

theorem allows_congr {name name' : String} (h : lower name = lower name') (f : Level) :
    f.allows name = f.allows name' := by
  rw [allows, allows, Severity.parse?, Severity.parse?, ← upper_lower name, h, upper_lower]

theorem allows_unknown {name : String} (h : ∀ s : Severity, lower name ≠ lower s.name)
    (f : Level) : f.allows name = false := by
  rw [Bool.eq_false_iff]
  intro hallows
  obtain ⟨s, hs, -⟩ := allows_iff.mp hallows
  exact h s hs

theorem allows_trace (s : Severity) : trace.allows s.name = true :=
  allows_iff.mpr ⟨s, rfl, by cases s <;> decide⟩

theorem allows_off (name : String) : off.allows name = false := by
  rw [Bool.eq_false_iff]
  intro h
  obtain ⟨s, -, hle⟩ := allows_iff.mp h
  cases s <;> exact absurd hle (by decide)

/-! ### Entries -/

/-- **What a filter lets pass of an event is what a filter that lets more pass does, if the first
one allows its level.** -/
theorem entry?_of_le (h : f ≤ g) (e : Event) :
    f.entry? e = (g.entry? e).filter fun entry => f.allows entry.level := by
  unfold entry?
  by_cases hf : f.allows e.severity.name = true
  · rw [if_pos hf, if_pos (allows_mono h hf), Option.filter_some, if_pos (by exact hf)]
  · rw [if_neg hf]
    by_cases hg : g.allows e.severity.name = true
    · rw [if_pos hg, Option.filter_some, if_neg (by exact hf)]
    · rw [if_neg hg, Option.filter_none]

theorem pass_of_le (h : f ≤ g) (events : List Event) :
    f.pass events = (g.pass events).filter fun entry => f.allows entry.level := by
  rw [pass, pass, List.filter_filterMap]
  exact List.filterMap_congr fun e _ => entry?_of_le h e

theorem pass_trace (events : List Event) : trace.pass events = events.map Event.entry := by
  rw [pass, ← List.filterMap_eq_map]
  exact List.filterMap_congr fun e _ => if_pos (allows_trace e.severity)

theorem pass_off (events : List Event) : off.pass events = [] :=
  List.filterMap_eq_nil_iff.mpr fun e _ => if_neg (by rw [allows_off]; decide)

end Level

/-! ### Lines behind a filter -/

/-- A message part may stand before or behind the fields next to it. -/
theorem line_move (severity : Severity) {m : Part} (hm : m.isMessage = true) {fs : List Part}
    (hfs : ∀ p ∈ fs, p.isMessage = false) (before after : List Part) :
    (Event.mk severity (before ++ m :: fs ++ after)).line =
      (Event.mk severity (before ++ fs ++ m :: after)).line := by
  have hnone : fs.filter Part.isMessage = [] :=
    List.filter_eq_nil_iff.mpr fun p hp => by rw [hfs p hp]; decide
  rw [Event.line_eq, Event.line_eq]
  simp only [Event.message, Event.fields, List.filter_append, List.filter_cons, hm, hnone,
    Bool.not_true, if_true, Bool.false_eq_true, if_false, List.append_assoc, List.cons_append,
    List.nil_append]

/-- **Filtering commutes with making lines.** Behind a filter come, in their order, the entries
that come behind one that lets more pass, as far as the first one allows their level. Each has the
level of its event and the line of what is not empty of its message and fields, wherever among
the fields the message stands. The names that a filter allows are those of the severities that are
grave enough, in any letter case; a filter that lets more pass allows more of them. -/
theorem filtering_commutes :
    (∀ (f g : Level) (events : List Event), f ≤ g →
      f.pass events = (g.pass events).filter fun entry => f.allows entry.level) ∧
    (∀ events : List Event, Level.trace.pass events = events.map Event.entry) ∧
    (∀ events : List Event, Level.off.pass events = []) ∧
    (∀ e : Event, e.entry = ⟨" ".intercalate ((e.message :: e.fields).filter (· ≠ "")),
      e.severity.name⟩) ∧
    (∀ (severity : Severity) (m : Part) (before fs after : List Part), m.isMessage = true →
      (∀ p ∈ fs, p.isMessage = false) →
        (Event.mk severity (before ++ m :: fs ++ after)).line =
          (Event.mk severity (before ++ fs ++ m :: after)).line) ∧
    (∀ (f : Level) (name : String), f.allows name = true ↔
      ∃ s : Severity, lower name = lower s.name ∧ s.level ≤ f) ∧
    (∀ (f g : Level) (name : String), f ≤ g → f.allows name = true → g.allows name = true) ∧
    (∀ (f : Level) (name name' : String), lower name = lower name' →
      f.allows name = f.allows name') ∧
    ∀ name : String, (∀ s : Severity, lower name ≠ lower s.name) →
      ∀ f : Level, f.allows name = false := by
  refine ⟨fun f g events h => Level.pass_of_le h events, Level.pass_trace, Level.pass_off, ?_,
    fun severity m before fs after hm hfs => line_move severity hm hfs before after,
    fun f name => Level.allows_iff,
    fun f g name h => Level.allows_mono h, fun f name name' h => Level.allows_congr h f,
    fun name h => Level.allows_unknown h⟩
  intro e
  rw [Event.entry, e.line_eq]
  rfl

/-- An event with the message between its fields, and one of less weight. -/
def blockEvents : List Event :=
  [⟨.warn, [⟨"height", "42"⟩, ⟨"message", "new "⟩, ⟨"peer", ""⟩, ⟨"message", "block"⟩]⟩,
    ⟨.debug, [⟨"message", ""⟩, ⟨"name", "02ab"⟩]⟩]

theorem filtering_commutes_block :
    Level.info ≤ Level.trace ∧
    Level.info.pass blockEvents =
      (Level.trace.pass blockEvents).filter (fun entry => Level.info.allows entry.level) ∧
    Level.trace.pass blockEvents =
      [⟨"new block height=42 peer=", "WARN"⟩, ⟨"name=02ab", "DEBUG"⟩] ∧
    Level.info.allows "Warn" = Level.info.allows "wARN" ∧
    Level.info.allows "VERBOSE" = false := by
  have hle : Level.info ≤ Level.trace := by decide
  obtain ⟨hpass, -, -, -, -, -, -, hcase, hunknown⟩ := filtering_commutes
  exact ⟨hle, hpass _ _ blockEvents hle, by decide +kernel, hcase _ _ _ (by decide),
    hunknown _ (by rintro (_ | _) <;> decide) _⟩

end HostedNode.Log

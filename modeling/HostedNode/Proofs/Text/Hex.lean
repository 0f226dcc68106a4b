import HostedNode.Text.Case
import HostedNode.Text.Hex
import Mathlib.Data.String.Basic

/-! # Hexadecimal digits and the bytes they denote

`Denotes` says which bytes some characters denote, pair by pair. Characters denote bytes just if
they are an even number of digits (`exists_denotes_iff`); `decode` finds these bytes and no others
(`decode_eq_ok_iff`), and writing them gives the characters back in lower case
(`encode_of_denotes`). -/

namespace HostedNode.Text.Hex

/-- A digit, of either case. -/
def IsDigit (c : Char) : Prop := ('0' ≤ c ∧ c ≤ '9') ∨ ('a' ≤ c ∧ c ≤ 'f') ∨ ('A' ≤ c ∧ c ≤ 'F')

instance (c : Char) : Decidable (IsDigit c) := by
  unfold IsDigit
  infer_instance

/-- Two characters are the digits of a byte, the higher one first. -/
def DenotesByte (c d : Char) (b : UInt8) : Prop :=
  ∃ h l, digitValue? c = some h ∧ digitValue? d = some l ∧ b.toNat = 16 * h + l

/-- Characters denote bytes, two characters a byte. -/
inductive Denotes : List Char → Bytes → Prop where
  | nil : Denotes [] []
  | cons {c d : Char} {b : UInt8} {cs : List Char} {bs : Bytes} (hb : DenotesByte c d b)
      (hrest : Denotes cs bs) : Denotes (c :: d :: cs) (b :: bs)

/-! ### Digits -/

theorem isSome_digitValue?_iff {c : Char} : (digitValue? c).isSome ↔ IsDigit c := by
  unfold digitValue? IsDigit
  split
  · simp_all
  · split
    · simp_all
    · split
      · simp_all
      · simp_all

/-- All digits are among the first 128 characters. -/
theorem toNat_lt_of_isDigit {c : Char} (h : IsDigit c) : c.toNat < 128 := by
  have hbound : ∀ d : Char, d.toNat < 128 → c ≤ d → c.toNat < 128 :=
    fun d hd hle => Nat.lt_of_le_of_lt hle hd
  rcases h with ⟨-, h⟩ | ⟨-, h⟩ | ⟨-, h⟩
  · exact hbound '9' (by decide) h
  · exact hbound 'f' (by decide) h
  · exact hbound 'F' (by decide) h

/-- What holds of the first 128 characters, which are gone through, holds of all digits. -/
theorem of_isDigit {P : Char → Prop} (hP : ∀ n < 128, P (Char.ofNat n)) {c : Char}
    (h : IsDigit c) : P c := by
  have hc := hP c.toNat (toNat_lt_of_isDigit h)
  rwa [Char.ofNat_toNat] at hc

theorem digitValue?_spec {c : Char} {v : Nat} (h : digitValue? c = some v) :
    v < 16 ∧ digit v = c.toLower := by
  have hc : IsDigit c := isSome_digitValue?_iff.mp (by rw [h]; rfl)
  have hall : ∀ n < 128, ∀ v ∈ digitValue? (Char.ofNat n),
      v < 16 ∧ digit v = (Char.ofNat n).toLower := by decide +kernel
  exact of_isDigit (P := fun c => ∀ v ∈ digitValue? c, v < 16 ∧ digit v = c.toLower) hall hc v h

theorem digitValue?_digit : ∀ v < 16, digitValue? (digit v) = some v := by decide

theorem utf8Size_of_isDigit {c : Char} (h : IsDigit c) : c.utf8Size = 1 :=
  Char.utf8Size_eq_one_iff.mpr (Nat.le_of_lt_succ (toNat_lt_of_isDigit h))

/-! ### Pairs of digits -/

theorem exists_denotesByte_iff {c d : Char} :
    (∃ b, DenotesByte c d b) ↔ IsDigit c ∧ IsDigit d := by
  rw [← isSome_digitValue?_iff, ← isSome_digitValue?_iff, Option.isSome_iff_exists,
    Option.isSome_iff_exists]
  constructor
  · rintro ⟨b, h, l, hc, hd, -⟩
    exact ⟨⟨h, hc⟩, l, hd⟩
  · rintro ⟨⟨h, hc⟩, l, hd⟩
    have hh := (digitValue?_spec hc).1
    have hl := (digitValue?_spec hd).1
    refine ⟨UInt8.ofNat (16 * h + l), h, l, hc, hd, ?_⟩
    rw [UInt8.toNat_ofNat', Nat.mod_eq_of_lt (by omega)]

theorem encodeByte_of_denotesByte {c d : Char} {b : UInt8} (h : DenotesByte c d b) :
    encodeByte b = [c.toLower, d.toLower] := by
  obtain ⟨h, l, hc, hd, hb⟩ := h
  obtain ⟨-, hc⟩ := digitValue?_spec hc
  obtain ⟨hl, hd⟩ := digitValue?_spec hd
  have hhigh : b.toNat / 16 = h := by omega
  have hlow : b.toNat % 16 = l := by omega
  rw [encodeByte, hhigh, hlow, hc, hd]

theorem denotesByte_digits (b : UInt8) :
    DenotesByte (digit (b.toNat / 16)) (digit (b.toNat % 16)) b := by
  have hb := b.toNat_lt
  exact ⟨b.toNat / 16, b.toNat % 16, digitValue?_digit _ (by omega), digitValue?_digit _ (by omega),
    by omega⟩

/-! ### Texts -/

theorem Denotes.length {cs : List Char} {bs : Bytes} (h : Denotes cs bs) :
    cs.length = 2 * bs.length := by
  induction h with
  | nil => rfl
  | cons hb hrest ih =>
    rw [List.length_cons, List.length_cons, List.length_cons]
    omega

theorem Denotes.isDigit {cs : List Char} {bs : Bytes} (h : Denotes cs bs) : ∀ c ∈ cs, IsDigit c := by
  induction h with
  | nil => exact fun c hc => absurd hc List.not_mem_nil
  | cons hb hrest ih =>
    obtain ⟨hc, hd⟩ := exists_denotesByte_iff.mp ⟨_, hb⟩
    rw [List.forall_mem_cons, List.forall_mem_cons]
    exact ⟨hc, hd, ih⟩

/-- **Characters denote bytes just if they are an even number of digits.** -/
theorem exists_denotes_iff : ∀ {cs : List Char},
    (∃ bs, Denotes cs bs) ↔ cs.length % 2 = 0 ∧ ∀ c ∈ cs, IsDigit c
  | [] => ⟨fun _ => ⟨rfl, fun c hc => absurd hc List.not_mem_nil⟩, fun _ => ⟨[], .nil⟩⟩
  | [c] => by
    constructor
    · rintro ⟨bs, h⟩
      cases h
    · rintro ⟨h, -⟩
      cases h
  | c :: d :: cs => by
    have ih : (∃ bs, Denotes cs bs) ↔ cs.length % 2 = 0 ∧ ∀ c ∈ cs, IsDigit c :=
      exists_denotes_iff
    constructor
    · rintro ⟨bs, h⟩
      refine ⟨?_, h.isDigit⟩
      rw [h.length]
      omega
    · rintro ⟨hlength, hdigits⟩
      rw [List.length_cons, List.length_cons] at hlength
      rw [List.forall_mem_cons, List.forall_mem_cons] at hdigits
      obtain ⟨hc, hd, hcs⟩ := hdigits
      obtain ⟨b, hb⟩ := exists_denotesByte_iff.mpr ⟨hc, hd⟩
      obtain ⟨bs, hbs⟩ := ih.mpr ⟨by omega, hcs⟩
      exact ⟨b :: bs, .cons hb hbs⟩

/-- Writing the bytes that characters denote gives these in lower case. -/
theorem Denotes.encodeChars {cs : List Char} {bs : Bytes} (h : Denotes cs bs) :
    encodeChars bs = cs.map Char.toLower := by
  induction h with
  | nil => rfl
  | cons hb hrest ih =>
    rw [Hex.encodeChars, List.flatMap_cons, encodeByte_of_denotesByte hb]
    exact congrArg (_ :: _ :: ·) ih

theorem encode_of_denotes {s : String} {bs : Bytes} (h : Denotes s.toList bs) :
    encode bs = lower s := by
  rw [encode, h.encodeChars, lower]

theorem denotes_encodeChars (bs : Bytes) : Denotes (encodeChars bs) bs := by
  induction bs with
  | nil => exact .nil
  | cons b bs ih => exact .cons (denotesByte_digits b) ih

/-! ### Reading -/

theorem decodeChars?_of_denotes {cs : List Char} {bs : Bytes} (h : Denotes cs bs) :
    decodeChars? cs = some bs := by
  induction h with
  | nil => rfl
  | cons hb hrest ih =>
    obtain ⟨h, l, hc, hd, hb⟩ := hb
    simp only [decodeChars?, hc, hd, ih, ← hb, UInt8.ofNat_toNat, Option.map_some]

theorem denotes_of_decodeChars? : ∀ {cs : List Char} {bs : Bytes},
    decodeChars? cs = some bs → Denotes cs bs
  | [], bs, h => by
    obtain rfl := Option.some.inj h
    exact .nil
  | [c], bs, h => by cases h
  | c :: d :: cs, bs, h => by
    rw [decodeChars?] at h
    cases hc : digitValue? c with
    | none => rw [hc] at h; cases h
    | some v =>
      cases hd : digitValue? d with
      | none => rw [hc, hd] at h; cases h
      | some l =>
        rw [hc, hd] at h
        obtain ⟨rest, hrest, rfl⟩ := Option.map_eq_some_iff.mp h
        have hv := (digitValue?_spec hc).1
        have hl := (digitValue?_spec hd).1
        refine .cons ⟨v, l, hc, hd, ?_⟩ (denotes_of_decodeChars? hrest)
        rw [UInt8.toNat_ofNat', Nat.mod_eq_of_lt (by omega)]

theorem utf8Len_of_isDigit {cs : List Char} (h : ∀ c ∈ cs, IsDigit c) :
    String.utf8Len cs = cs.length := by
  induction cs with
  | nil => rfl
  | cons c cs ih =>
    rw [List.forall_mem_cons] at h
    rw [String.utf8Len_cons, ih h.2, utf8Size_of_isDigit h.1, List.length_cons]

/-- **Reading finds the bytes that a text denotes, and fails for a text that denotes none.** -/
theorem decode_eq_ok_iff {s : String} {bs : Bytes} :
    decode s = .ok bs ↔ Denotes s.toList bs := by
  unfold decode
  constructor
  · intro h
    split at h
    · cases h
    · cases hs : decodeChars? s.toList with
      | none => rw [hs] at h; cases h
      | some found =>
        rw [hs] at h
        obtain rfl := Except.ok.inj h
        exact denotes_of_decodeChars? hs
  · intro h
    have hsize : s.utf8ByteSize = s.toList.length := by
      rw [← utf8Len_of_isDigit h.isDigit, ← String.utf8ByteSize_ofList, String.ofList_toList]
    have heven : ¬ s.utf8ByteSize % 2 = 1 := by
      rw [hsize, h.length]
      omega
    rw [if_neg heven, decodeChars?_of_denotes h]

theorem decode_encode (bs : Bytes) : decode (encode bs) = .ok bs := by
  rw [decode_eq_ok_iff, encode, String.toList_ofList]
  exact denotes_encodeChars bs

end HostedNode.Text.Hex

import HostedNode.Proofs.Curve.Group
import HostedNode.Proofs.Hash.Sha2
import HostedNode.Proofs.Text.Hex

/-! # Written forms of points

A point is on the curve if its coordinates are in range and solve the equation (`Point.OnCurve`);
these are the elements of the group other than zero (`onCurve_iff`). For a first coordinate on the
curve there are two points, of which one has an odd second coordinate (`ofX?_eq_some_iff`): no
second coordinate is zero, because no cube is `-7`. `Written` says which bytes are the forms of a
point. Reading finds the point that bytes are a form of, and no other (`ofBytes?_eq_some_iff`). -/

namespace HostedNode.Curve.Point

open Hash Text

/-! ### Points on the curve -/

/-- The coordinates are below the prime and solve the equation. -/
def OnCurve : Point → Prop
  | zero => False
  | affine x y => x < prime ∧ y < prime ∧ y * y % prime = (x * x * x + 7) % prime

/-- The points on the curve are the elements of the group other than zero. -/
theorem onCurve_iff {p : Point} : p.OnCurve ↔ ∃ P : curve.Point, P ≠ 0 ∧ of P = p := by
  constructor
  · intro h
    cases p with
    | zero => exact h.elim
    | affine x y =>
      obtain ⟨hx, hy, heq⟩ := h
      exact ⟨.some x y (nonsingular_natCast heq), WeierstrassCurve.Affine.Point.some_ne_zero _,
        (affine_eq_of _ hx hy rfl rfl).symm⟩
  · rintro ⟨P, hP, rfl⟩
    cases P with
    | zero => exact hP rfl
    | some x y h =>
      refine ⟨x.val_lt, y.val_lt, (ZMod.natCast_eq_natCast_iff' _ _ prime).mp ?_⟩
      push_cast
      rw [ZMod.natCast_zmod_val, ZMod.natCast_zmod_val]
      exact nonsingular_iff.mp h

/-- No cube is `-7`, so no point has zero as its second coordinate. -/
theorem cube_add_seven_ne_zero (x : ZMod prime) : x * x * x + 7 ≠ 0 := by
  intro h
  have hexp : 3 * ((prime - 1) / 3) = prime - 1 := by decide
  have hcube : x ^ 3 = ((prime - 7 : Nat) : ZMod prime) := by
    rw [Nat.cast_sub (by decide), ZMod.natCast_self]
    push_cast
    linear_combination h
  have hx : x ≠ 0 := by
    rintro rfl
    have hseven : ((7 : Nat) : ZMod prime) ≠ 0 := natCast_ne_zero (by decide) (by decide)
    refine hseven ?_
    push_cast
    linear_combination h
  have hone : ((prime - 7 : Nat) : ZMod prime) ^ ((prime - 1) / 3) = 1 := by
    rw [← hcube, ← pow_mul, hexp, ZMod.pow_card_sub_one_eq_one hx]
  rw [cast_power_eq_one_iff prime_prime.one_lt] at hone
  revert hone
  decide +kernel

theorem OnCurve.pos {x y : Nat} (h : (affine x y).OnCurve) : 0 < y := by
  obtain ⟨-, hy, heq⟩ := h
  rcases Nat.eq_zero_or_pos y with rfl | hpos
  · have hzero : ((x * x * x + 7 : Nat) : ZMod prime) = 0 := by
      rw [← (ZMod.natCast_eq_natCast_iff' _ _ prime).mpr heq]
      simp
    push_cast at hzero
    exact absurd hzero (cube_add_seven_ne_zero x)
  · exact hpos

/-- The other point with a first coordinate. -/
theorem OnCurve.reflect {x y : Nat} (h : (affine x y).OnCurve) :
    (affine x (prime - y)).OnCurve := by
  have hpos := h.pos
  obtain ⟨hx, hy, heq⟩ := h
  refine ⟨hx, by omega, ?_⟩
  rw [← heq]
  refine (ZMod.natCast_eq_natCast_iff' _ _ prime).mp ?_
  rw [Nat.cast_mul, Nat.cast_mul, Nat.cast_sub hy.le, ZMod.natCast_self]
  ring

/-- Two points with one first coordinate are the same or reflected. -/
theorem OnCurve.same_or_reflected {x y y' : Nat} (h : (affine x y).OnCurve)
    (h' : (affine x y').OnCurve) : y' = y ∨ y' = prime - y := by
  have hpos := h.pos
  obtain ⟨-, hy, heq⟩ := h
  obtain ⟨-, hy', heq'⟩ := h'
  have hsquares : (y' : ZMod prime) * y' = y * y := by
    rw [← Nat.cast_mul, ← Nat.cast_mul, ZMod.natCast_eq_natCast_iff', heq, heq']
  have hval : ∀ {n : Nat}, n < prime → (y' : ZMod prime) = n → y' = n := by
    intro n hn hcast
    rwa [ZMod.natCast_eq_natCast_iff', Nat.mod_eq_of_lt hn, Nat.mod_eq_of_lt hy'] at hcast
  rcases mul_self_eq_mul_self_iff.mp hsquares with hsame | hopposite
  · exact .inl (hval hy hsame)
  · refine .inr (hval (by omega) ?_)
    rw [hopposite, Nat.cast_sub hy.le, ZMod.natCast_self, zero_sub]

/-- Of the two points with a first coordinate, one has an odd second coordinate. -/
theorem OnCurve.reflect_parity {x y : Nat} (h : (affine x y).OnCurve) (isOdd : Bool) :
    ((prime - y) % 2 == 1) = isOdd ↔ ¬ (y % 2 == 1) = isOdd := by
  have hpos := h.pos
  obtain ⟨-, hy, -⟩ := h
  have hodd : prime % 2 = 1 := by decide
  have hother : (prime - y) % 2 = 1 - y % 2 := by omega
  rw [hother]
  rcases Nat.mod_two_eq_zero_or_one y with hparity | hparity
  · rw [hparity]; cases isOdd <;> decide
  · rw [hparity]; cases isOdd <;> decide

/-! ### Points from their first coordinate -/

/-- A root of the right side of the equation is a second coordinate. -/
theorem onCurve_of_squareRoot? {x r : Nat} (hx : x < prime)
    (hroot : squareRoot? (x * x * x + 7) = some r) : (affine x r).OnCurve := by
  obtain ⟨hlt, hsquare⟩ := squareRoot?_eq_some hroot
  refine ⟨hx, hlt, (ZMod.natCast_eq_natCast_iff' _ _ prime).mp ?_⟩
  rw [Nat.cast_mul, hsquare]

/-- The right side has a root if there is a point with that first coordinate. -/
theorem OnCurve.exists_squareRoot? {x y : Nat} (h : (affine x y).OnCurve) :
    ∃ r, squareRoot? (x * x * x + 7) = some r := by
  refine Curve.exists_squareRoot? (y := y) ?_
  rw [← Nat.cast_mul, ZMod.natCast_eq_natCast_iff', h.2.2]

/-- **A first coordinate and a parity give the one point on the curve that has them.** -/
theorem ofX?_eq_some_iff {x : Nat} {isOdd : Bool} {p : Point} :
    ofX? x isOdd = some p ↔ ∃ y, p = affine x y ∧ p.OnCurve ∧ (y % 2 == 1) = isOdd := by
  constructor
  · intro h
    rw [ofX?] at h
    split at h
    · cases h
    · next hx =>
      obtain ⟨r, hroot, rfl⟩ := Option.map_eq_some_iff.mp h
      have hon := onCurve_of_squareRoot? (Nat.not_le.mp hx) hroot
      by_cases hparity : (r % 2 == 1) = isOdd
      · rw [if_pos hparity]
        exact ⟨r, rfl, hon, hparity⟩
      · rw [if_neg hparity]
        exact ⟨_, rfl, hon.reflect, (hon.reflect_parity isOdd).mpr hparity⟩
  · rintro ⟨y, rfl, hon, hparity⟩
    obtain ⟨r, hroot⟩ := hon.exists_squareRoot?
    rw [ofX?, if_neg (Nat.not_le.mpr hon.1), hroot, Option.map_some]
    -- the root that is found is `y` or the other one, which has the other parity
    rcases hon.same_or_reflected (onCurve_of_squareRoot? hon.1 hroot) with rfl | rfl
    · rw [if_pos hparity]
    · have hdiffer : ¬ ((prime - y) % 2 == 1) = isOdd :=
        fun hsame => (hon.reflect_parity isOdd).mp hsame hparity
      rw [if_neg hdiffer, Nat.sub_sub_self hon.2.1.le]

/-! ### Forms -/

/-- Bytes that are a form of a point on the curve. -/
inductive Written : Bytes → Point → Prop where
  | short {x y : Nat} (h : (affine x y).OnCurve) : Written (affine x y).compressed (affine x y)
  | long {x y : Nat} (h : (affine x y).OnCurve) {form : UInt8}
      (hform : form = 4 ∨ form.toNat = 6 + y % 2) :
      Written (form :: (bigEndianBytes 32 x ++ bigEndianBytes 32 y)) (affine x y)

theorem bigEndian_coordinate {x : Nat} (h : x < prime) : bigEndian (bigEndianBytes 32 x) = x := by
  have hfits : prime < 256 ^ 32 := by decide
  rw [bigEndian_bigEndianBytes, Nat.mod_eq_of_lt (h.trans hfits)]

theorem bigEndianBytes_of_length {bs : Bytes} {n : Nat} (h : bs.length = n) :
    bigEndianBytes n (bigEndian bs) = bs := by
  rw [← h, bigEndianBytes_bigEndian]

theorem ofBytes?_of_written {bs : Bytes} {p : Point} (h : Written bs p) : ofBytes? bs = some p := by
  cases h with
  | @short x y h =>
    have hread : ofX? x (decide (UInt8.ofNat (2 + y % 2) = 3)) = some (affine x y) := by
      refine ofX?_eq_some_iff.mpr ⟨y, rfl, h, ?_⟩
      rcases Nat.mod_two_eq_zero_or_one y with hy | hy
      · rw [hy]; decide
      · rw [hy]; decide
    have hform : UInt8.ofNat (2 + y % 2) = 2 ∨ UInt8.ofNat (2 + y % 2) = 3 := by
      rcases Nat.mod_two_eq_zero_or_one y with hy | hy
      · rw [hy]; decide
      · rw [hy]; decide
    rw [compressed, ofBytes?, if_pos (length_bigEndianBytes 32 x), if_pos hform,
      bigEndian_coordinate h.1, hread]
  | @long x y h form hform =>
    have hlength : (bigEndianBytes 32 x ++ bigEndianBytes 32 y).length = 64 := by
      rw [List.length_append, length_bigEndianBytes, length_bigEndianBytes]
    have htake : (bigEndianBytes 32 x ++ bigEndianBytes 32 y).take 32 = bigEndianBytes 32 x :=
      List.take_left' (length_bigEndianBytes 32 x)
    have hdrop : (bigEndianBytes 32 x ++ bigEndianBytes 32 y).drop 32 = bigEndianBytes 32 y :=
      List.drop_left' (length_bigEndianBytes 32 x)
    rw [ofBytes?, if_neg (by rw [hlength]; decide), if_pos hlength]
    dsimp only
    rw [htake, hdrop, bigEndian_coordinate h.1, bigEndian_coordinate h.2.1, if_pos hform]
    exact if_pos h

theorem written_of_ofBytes? {bs : Bytes} {p : Point} (h : ofBytes? bs = some p) : Written bs p := by
  cases bs with
  | nil => cases h
  | cons form rest =>
    rw [ofBytes?] at h
    split at h
    · next hlength =>
      split at h
      · next hform =>
        obtain ⟨y, rfl, hon, hparity⟩ := ofX?_eq_some_iff.mp h
        have hhead : UInt8.ofNat (2 + y % 2) = form := by
          rcases hform with rfl | rfl
          · have hy : y % 2 = 0 := by
              have hne : ¬ y % 2 = 1 := by simpa using hparity
              omega
            rw [hy]; rfl
          · have hy : y % 2 = 1 := by simpa using hparity
            rw [hy]; rfl
        have hwritten := Written.short hon
        rwa [compressed, bigEndianBytes_of_length hlength, hhead] at hwritten
      · cases h
    · split at h
      · next hlength =>
        dsimp only at h
        split at h
        · next hform =>
          rw [ofXY?] at h
          split at h
          · next hon =>
            obtain rfl := Option.some.inj h
            have htake : (rest.take 32).length = 32 := by rw [List.length_take, hlength]; rfl
            have hdrop : (rest.drop 32).length = 32 := by rw [List.length_drop, hlength]
            have hwritten := Written.long hon hform
            rwa [bigEndianBytes_of_length htake, bigEndianBytes_of_length hdrop,
              List.take_append_drop] at hwritten
          · cases h
        · cases h
      · cases h

/-- **Reading finds the point that bytes are a form of, and no other.** -/
theorem ofBytes?_eq_some_iff {bs : Bytes} {p : Point} : ofBytes? bs = some p ↔ Written bs p :=
  ⟨written_of_ofBytes?, ofBytes?_of_written⟩

/-- The text is the hexadecimal digits of a form of the point. -/
def Spelled (s : String) (p : Point) : Prop := ∃ bs, Hex.Denotes s.toList bs ∧ Written bs p

/-- **A text is read as the point whose form it spells.** -/
theorem ofHex?_eq_some_iff {s : String} {p : Point} : ofHex? s = some p ↔ Spelled s p := by
  rw [ofHex?]
  constructor
  · intro h
    cases hs : Hex.decode s with
    | ok bs =>
      rw [hs] at h
      exact ⟨bs, Hex.decode_eq_ok_iff.mp hs, ofBytes?_eq_some_iff.mp h⟩
    | error e =>
      rw [hs] at h
      cases h
  · rintro ⟨bs, hdenotes, hwritten⟩
    rw [Hex.decode_eq_ok_iff.mpr hdenotes]
    exact ofBytes?_eq_some_iff.mpr hwritten

theorem spelled_compressed {p : Point} (h : p.OnCurve) : Spelled (Hex.encode p.compressed) p := by
  cases p with
  | zero => exact h.elim
  | affine x y =>
    refine ⟨_, ?_, .short h⟩
    rw [Hex.encode, String.toList_ofList]
    exact Hex.denotes_encodeChars _

end HostedNode.Curve.Point

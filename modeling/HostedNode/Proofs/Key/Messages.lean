import HostedNode.Proofs.Curve.Recovery
import HostedNode.Proofs.Key.Signer
import HostedNode.Proofs.Text.Zbase32
import HostedNode.Provider.Node

/-! # Signed messages

The text of a signature is read back as the signature (`signatureOfText?_signatureText`), and it has
the look that the texts of signatures have (`LooksSigned`): 65 bytes in digits of the alphabet, the
first of which stands for a recovery number. What a signer signs is checked as its own, and whatever
the texts, a check names no more than one key, fails what does not look signed, and gives an error
just for a public key that is none (`Node.messages_agree`). -/

namespace HostedNode

open Curve Hash Text

/-! ### Texts of signatures -/

/-- The text has only digits, for 65 bytes of which the first is a recovery number and the
offset. -/
structure LooksSigned (s : String) : Prop where
  digits : ∀ c ∈ s.toList, c ∈ Zbase32.alphabet
  decoded : ∃ header rest, Zbase32.decode? s = some (header :: rest) ∧ rest.length = 64 ∧
    31 ≤ header.toNat ∧ header.toNat ≤ 34

theorem looksSigned_of_signatureOfText? {s : String} {g : Signature}
    (h : signatureOfText? s = some g) : LooksSigned s := by
  rw [signatureOfText?] at h
  split at h
  · next header rest hdecode =>
    split at h
    · next hoffset =>
      rw [Signature.ofCompact?] at h
      split at h
      · next hvalid =>
        have hbound := hvalid.2.2.2
        refine ⟨Zbase32.isSome_decode?_iff.mp (by rw [hdecode]; rfl), header, rest, hdecode,
          hvalid.1, hoffset, ?_⟩
        rw [recoveryOffset] at hbound hoffset
        omega
      · cases h
    · cases h
  · cases h

/-- The bytes that the text of a signature is made of. -/
theorem decode?_signatureText (g : Signature) : Zbase32.decode? (signatureText g) =
    some (UInt8.ofNat (recoveryOffset + g.recovery) :: g.compact) :=
  Zbase32.decode?_encode _

/-- **The text of a signature is read back as the signature.** -/
theorem signatureOfText?_signatureText {g : Signature} (h : g.Valid) :
    signatureOfText? (signatureText g) = some g := by
  have hrecovery := h.recovery_lt
  have hheader : (UInt8.ofNat (recoveryOffset + g.recovery)).toNat =
      recoveryOffset + g.recovery := by
    rw [UInt8.toNat_ofNat', Nat.mod_eq_of_lt]
    rw [recoveryOffset]
    omega
  rw [signatureOfText?, decode?_signatureText]
  dsimp only
  rw [hheader, if_pos (Nat.le_add_right _ _), Nat.add_sub_cancel_left,
    Signature.ofCompact?_compact h]

theorem length_signatureText (g : Signature) : (signatureText g).toList.length = 104 := by
  rw [signatureText, Zbase32.length_encode, List.length_cons, Signature.compact, List.length_append,
    length_bigEndianBytes, length_bigEndianBytes]

/-! ### Signers -/

theorem secret_of_hardened? {master key : Key.ExtendedKey} {index : Nat}
    (h : master.hardened? index = some key) : 0 < key.secret ∧ key.secret < order := by
  rw [Key.ExtendedKey.hardened?] at h
  split at h
  · rw [Key.ExtendedKey.ofSecret?] at h
    split at h
    · next hrange =>
      obtain rfl := Option.some.inj h
      exact hrange
    · cases h
  · cases h

/-- The secret key of a signer is in range, and its id spells its public key. -/
theorem Signer.sound_of_ofSeed {seed : Bytes} {signer : Signer} (h : ofSeed seed = .ok signer) :
    0 < signer.secret ∧ signer.secret < order ∧
      Point.Spelled signer.nodeId (publicKey signer.secret) := by
  obtain ⟨-, hfound⟩ := ofSeed_eq_ok_iff.mp h
  obtain ⟨master, -, hfound⟩ := Option.bind_eq_some_iff.mp hfound
  obtain ⟨key, hkey, hfound⟩ := Option.bind_eq_some_iff.mp hfound
  obtain rfl := Option.some.inj hfound
  obtain ⟨hpos, hlt⟩ := secret_of_hardened? hkey
  exact ⟨hpos, hlt, Point.spelled_compressed (publicKey_onCurve hpos hlt)⟩

/-! ### Checking -/

theorem verifyMessage_eq_true_iff {message : Bytes} {s : String} {p : Point} :
    verifyMessage message s p = true ↔
      ∃ g, signatureOfText? s = some g ∧ recover (messageDigest message) g = some p := by
  rw [verifyMessage]
  cases signatureOfText? s with
  | none => simp
  | some g => simp

theorem looksSigned_of_verifyMessage {message : Bytes} {s : String} {p : Point}
    (h : verifyMessage message s p = true) : LooksSigned s := by
  obtain ⟨g, hg, -⟩ := verifyMessage_eq_true_iff.mp h
  exact looksSigned_of_signatureOfText? hg

/-- What a check of a text as a signature comes to, whatever the text. -/
structure ChecksSafely (message : Bytes) (s : String) : Prop where
  one_key : ∀ p q, verifyMessage message s p = true → verifyMessage message s q = true → p = q
  digits : (∃ c ∈ s.toList, c ∉ Zbase32.alphabet) → ∀ p, verifyMessage message s p = false
  whole : (¬ ∃ bs, Zbase32.decode? s = some bs ∧ bs.length = 65) →
    ∀ p, verifyMessage message s p = false
  header : ∀ header rest, Zbase32.decode? s = some (header :: rest) →
    ¬ (31 ≤ header.toNat ∧ header.toNat ≤ 34) → ∀ p, verifyMessage message s p = false

/-- **A check names no more than one key, and fails what does not look signed.** -/
theorem checksSafely (message : Bytes) (s : String) : ChecksSafely message s := by
  have hfalse : ∀ p, ¬ LooksSigned s → verifyMessage message s p = false := by
    intro p hnot
    cases hv : verifyMessage message s p with
    | false => rfl
    | true => exact absurd (looksSigned_of_verifyMessage hv) hnot
  refine ⟨?_, ?_, ?_, ?_⟩
  · intro p q hp hq
    obtain ⟨g, hg, hgp⟩ := verifyMessage_eq_true_iff.mp hp
    obtain ⟨g', hg', hgq⟩ := verifyMessage_eq_true_iff.mp hq
    obtain rfl := Option.some.inj (hg.symm.trans hg')
    exact Option.some.inj (hgp.symm.trans hgq)
  · rintro ⟨c, hc, hforeign⟩ p
    exact hfalse p fun hlooks => hforeign (hlooks.digits c hc)
  · intro hwhole p
    refine hfalse p fun hlooks => hwhole ?_
    obtain ⟨header, rest, hdecode, hlength, -⟩ := hlooks.decoded
    exact ⟨_, hdecode, by rw [List.length_cons, hlength]⟩
  · intro header rest hdecode hheader p
    refine hfalse p fun hlooks => hheader ?_
    obtain ⟨header', rest', hdecode', -, hrange⟩ := hlooks.decoded
    obtain ⟨rfl, -⟩ := List.cons.inj (Option.some.inj (hdecode.symm.trans hdecode'))
    exact hrange

/-- What a signer signs looks signed and is checked as its own. -/
structure Signer.Attests (signer : Signer) (message : Bytes) : Prop where
  length : (signer.signMessage message).toList.length = 104
  looks : LooksSigned (signer.signMessage message)
  verified : verifyMessage message (signer.signMessage message) (publicKey signer.secret) = true
  checked : ∀ (n : Node) (text : String), n.signer = signer → Utf8.encode text = message →
    Node.checkMessage text signer.nodeId (n.signMessage text) = .ok true

namespace Node

theorem checkMessage_of_spelled {key : String} {p : Point} (h : Point.Spelled key p)
    (message s : String) :
    checkMessage message key s = .ok (verifyMessage (Utf8.encode message) s p) := by
  rw [checkMessage, Point.ofHex?_eq_some_iff.mpr h]

theorem checkMessage_of_not_spelled {key : String} (h : ¬ ∃ p, Point.Spelled key p)
    (message s : String) : checkMessage message key s =
      .error (.generic ("invalid public key " ++ key ++ ": malformed public key")) := by
  rw [checkMessage]
  cases hkey : Point.ofHex? key with
  | none => rfl
  | some p => exact absurd ⟨p, Point.ofHex?_eq_some_iff.mp hkey⟩ h

theorem attests {seed : Bytes} {signer : Signer} (hsigner : Signer.ofSeed seed = .ok signer)
    {message : Bytes} (hdone : 0 < (sign signer.secret (messageDigest message)).s) :
    signer.Attests message := by
  obtain ⟨hpos, hlt, hspelled⟩ := Signer.sound_of_ofSeed hsigner
  have hread : signatureOfText? (signer.signMessage message) =
      some (sign signer.secret (messageDigest message)) :=
    signatureOfText?_signatureText (sign_valid _ _)
  have hverified : verifyMessage message (signer.signMessage message) (publicKey signer.secret) =
      true :=
    verifyMessage_eq_true_iff.mpr ⟨_, hread, recover_sign hpos hlt hdone⟩
  refine ⟨length_signatureText _, looksSigned_of_signatureOfText? hread, hverified, ?_⟩
  rintro n text rfl rfl
  rw [checkMessage_of_spelled hspelled, signMessage, hverified]

/-- **Signing and checking agree.** What a signer signs looks signed and is checked as its own; this
rests on nothing but one of the candidates for the secret number of the signature being of use.
Whatever the texts, a check names no more than one key and fails what does not look signed, and
there is an error just for a public key that is none. -/
theorem messages_agree :
    (∀ seed signer message, Signer.ofSeed seed = .ok signer →
      0 < (sign signer.secret (messageDigest message)).s → signer.Attests message) ∧
    (∀ message s, ChecksSafely message s) ∧
    (∀ message key s, (∃ e, checkMessage message key s = .error e) ↔ ¬ ∃ p, Point.Spelled key p) ∧
    (∀ message key s p, Point.Spelled key p →
      checkMessage message key s = .ok (verifyMessage (Utf8.encode message) s p)) := by
  refine ⟨fun _ _ _ hsigner hdone => attests hsigner hdone, checksSafely, ?_, ?_⟩
  · intro message key s
    constructor
    · rintro ⟨e, he⟩ ⟨p, hp⟩
      rw [checkMessage_of_spelled hp] at he
      cases he
    · intro hnone
      exact ⟨_, checkMessage_of_not_spelled hnone message s⟩
  · intro message key s p hp
    exact checkMessage_of_spelled hp message s

/-- The secret number of the signature that the signer of zeros makes of `hi`. -/
def zeroNonce : Nat :=
  104632763211947300231440981281559637144006864754090284196310986105414363826077

/-- The point of the secret number. -/
def zeroPoint : Nat × Nat :=
  (78276362071314136808639917158809523974011846488817124551596443289935045504972,
    114879322074328875599259672147475189876997503526663873368333687986949098279038)

/-- The digest of `hi` as a number. -/
def hiDigest : Nat :=
  72345821992413836073775014577139823131488624254089565676460450690333285323403

theorem messages_agree_hi :
    ∃ signer, Signer.ofSeed (List.replicate minSeedLength 0) = .ok signer ∧
      0 < (sign signer.secret (messageDigest (Utf8.encode "hi"))).s ∧
      signer.Attests (Utf8.encode "hi") := by
  have hdigest : bigEndian (messageDigest (Utf8.encode "hi")) = hiDigest := by decide +kernel
  have hnonce : bigEndian
      (Source.ofKey Signer.zeros.secret (messageDigest (Utf8.encode "hi"))).next.value =
        zeroNonce := by
    decide +kernel
  have hshows : (Scaled.ladder (Bits.ofNat 255 zeroNonce)).Shows zeroPoint.1 zeroPoint.2 := by
    decide +kernel
  have hpoint : Point.generator.times zeroNonce = .affine zeroPoint.1 zeroPoint.2 :=
    Scaled.times_generator (by decide) (by decide) (by decide) (by decide) hshows
  have hdone : 0 < (sign Signer.zeros.secret (messageDigest (Utf8.encode "hi"))).s := by
    refine sign_done hnonce (by decide) (by decide) hpoint (by decide) ?_
    rw [hdigest]
    decide +kernel
  exact ⟨.zeros, Signer.ofSeed_zeros, hdone, messages_agree.1 _ _ _ Signer.ofSeed_zeros hdone⟩

end Node

end HostedNode

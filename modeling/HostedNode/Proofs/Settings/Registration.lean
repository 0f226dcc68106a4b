import HostedNode.Proofs.Disk.Files
import HostedNode.Proofs.Provider.Challenge
import HostedNode.Settings.File

/-! # From the settings to the scheduler

Who may register a new node is checked twice: when the settings are turned into a registration, and
before the registration is sent. `registration_cases` says all that the settings can come to. So the
first check lets nothing pass that the second one refuses, but for settings that name nothing
(`entitled_iff`). What the call to register carries is what the settings name: the invite code, or
the texts of the two files of the partner, each under a name of its own (`carriedBy_of_proves`).

That a file is not read is said by what the answer rests on: it is the same on every disk that has
the same content in the files that are read (`ReadsOnly`). -/

namespace HostedNode

open Json Rpc Text

namespace Settings

variable {s : Settings} {d : Disk} {cert key : String}

/-! ### What the settings name -/

/-- An invite code together with a file of a partner. -/
def Conflicting (s : Settings) : Prop :=
  s.inviteCode ≠ none ∧ (s.partnerCert ≠ none ∨ s.partnerKey ≠ none)

/-- One of the two files of a partner without the other. -/
def Incomplete (s : Settings) : Prop := s.partnerCert.isSome ≠ s.partnerKey.isSome

/-- The two files of a partner, and no invite code. -/
structure Partnered (s : Settings) (cert key : String) : Prop where
  code : s.inviteCode = none
  cert : s.partnerCert = some cert
  key : s.partnerKey = some key

/-- No file of a partner. -/
structure Alone (s : Settings) : Prop where
  cert : s.partnerCert = none
  key : s.partnerKey = none

/-- Nothing that entitles to a new node. -/
def Unentitled (s : Settings) : Prop := s.inviteCode = none ∧ s.Alone

theorem Partnered.not_conflicting (h : s.Partnered cert key) : ¬ s.Conflicting :=
  fun hc => hc.1 h.code

theorem Partnered.not_incomplete (h : s.Partnered cert key) : ¬ s.Incomplete := by
  simp [Incomplete, h.cert, h.key]

theorem Alone.not_conflicting (h : s.Alone) : ¬ s.Conflicting := by
  simp [Conflicting, h.cert, h.key]

theorem Alone.not_incomplete (h : s.Alone) : ¬ s.Incomplete := by
  simp [Incomplete, h.cert, h.key]

theorem Partnered.not_alone (h : s.Partnered cert key) : ¬ s.Alone := by
  rintro ⟨hcert, -⟩
  rw [h.cert] at hcert
  cases hcert

theorem Partnered.unique {cert' key' : String} (h : s.Partnered cert key)
    (h' : s.Partnered cert' key') : cert' = cert ∧ key' = key :=
  ⟨Option.some.inj (h'.cert.symm.trans h.cert), Option.some.inj (h'.key.symm.trans h.key)⟩

/-! ### What the settings come to -/

/-- The credentials in the two files of a partner. The certificate is read first. -/
def partnerIn (d : Disk) (cert key : String) : Except DiskError DeviceCredentials := do
  let cert ← d.read cert
  let key ← d.read key
  return { key, cert }

theorem partnerIn_eq_ok {c : DeviceCredentials} :
    partnerIn d cert key = .ok c ↔ d.read cert = .ok c.cert ∧ d.read key = .ok c.key := by
  obtain ⟨k, b⟩ := c
  unfold partnerIn
  cases d.read cert with
  | error e => simp [bind, Except.bind]
  | ok bs =>
    cases d.read key with
    | error e => simp [bind, Except.bind]
    | ok bs' => simp [bind, Except.bind, pure, Except.pure, and_comm]

theorem partnerIn_eq_error {e : DiskError} :
    partnerIn d cert key = .error e ↔
      d.read cert = .error e ∨ (∃ bs, d.read cert = .ok bs) ∧ d.read key = .error e := by
  unfold partnerIn
  cases d.read cert with
  | error e' => simp [bind, Except.bind]
  | ok bs =>
    cases d.read key with
    | error e' => simp [bind, Except.bind]
    | ok bs' => simp [bind, Except.bind, pure, Except.pure]

/-- What a partner comes to: the credentials in its files. -/
def partnering (d : Disk) (cert key : String) : Except SettingsError Registration :=
  ((partnerIn d cert key).map fun c => ⟨some c, none⟩).mapError .file

theorem partnering_eq_ok {r : Registration} : partnering d cert key = .ok r ↔
    ∃ c, partnerIn d cert key = .ok c ∧ r = ⟨some c, none⟩ := by
  unfold partnering
  cases partnerIn d cert key with
  | error e => simp [Except.map, Except.mapError]
  | ok c => simp [Except.map, Except.mapError, eq_comm]

theorem partnering_eq_error {e : SettingsError} : partnering d cert key = .error e ↔
    ∃ cause, partnerIn d cert key = .error cause ∧ e = .file cause := by
  unfold partnering
  cases partnerIn d cert key with
  | error e' => simp [Except.map, Except.mapError, eq_comm]
  | ok c => simp [Except.map, Except.mapError]

/-- **All that the settings can come to.** -/
theorem registration_cases (s : Settings) (d : Disk) :
    (s.Conflicting ∧ s.registration d = .error .conflictingRegistration) ∨
    ((¬ s.Conflicting ∧ s.Incomplete) ∧ s.registration d = .error .incompletePartner) ∨
    (∃ cert key, s.Partnered cert key ∧ s.registration d = partnering d cert key) ∨
    (s.Alone ∧ s.registration d = .ok ⟨none, s.inviteCode⟩) := by
  obtain ⟨environment, apiKey, code, cert, key, logging⟩ := s
  cases cert with
  | none =>
    cases key with
    | none => exact Or.inr (Or.inr (Or.inr ⟨⟨rfl, rfl⟩, by cases code <;> rfl⟩))
    | some key =>
      cases code with
      | none => exact Or.inr (Or.inl ⟨by simp [Conflicting, Incomplete], rfl⟩)
      | some code => exact Or.inl ⟨by simp [Conflicting], rfl⟩
  | some cert =>
    cases code with
    | some code => exact Or.inl ⟨by simp [Conflicting], by cases key <;> rfl⟩
    | none =>
      cases key with
      | none => exact Or.inr (Or.inl ⟨by simp [Conflicting, Incomplete], rfl⟩)
      | some key =>
        have hparts : registration ⟨environment, apiKey, none, some cert, some key, logging⟩ d =
            (do
              let c ← partnerFile d cert
              let k ← partnerFile d key
              return ⟨some ⟨k, c⟩, none⟩) := rfl
        refine Or.inr (Or.inr (Or.inl ⟨cert, key, ⟨rfl, rfl, rfl⟩, ?_⟩))
        rw [hparts, partnering, partnerIn, partnerFile, partnerFile]
        cases d.read cert with
        | error e => rfl
        | ok c => cases d.read key <;> rfl

theorem registration_eq_conflicting :
    s.registration d = .error .conflictingRegistration ↔ s.Conflicting := by
  rcases s.registration_cases d with ⟨hc, h⟩ | ⟨⟨hc, -⟩, h⟩ | ⟨cert, key, hp, h⟩ | ⟨ha, h⟩
  · exact iff_of_true h hc
  · exact iff_of_false (by simp [h]) hc
  · exact iff_of_false (by simp [h, partnering_eq_error]) hp.not_conflicting
  · exact iff_of_false (by simp [h]) ha.not_conflicting

theorem registration_eq_incomplete :
    s.registration d = .error .incompletePartner ↔ ¬ s.Conflicting ∧ s.Incomplete := by
  rcases s.registration_cases d with ⟨hc, h⟩ | ⟨hi, h⟩ | ⟨cert, key, hp, h⟩ | ⟨ha, h⟩
  · exact iff_of_false (by simp [h]) fun hi => hi.1 hc
  · exact iff_of_true h hi
  · exact iff_of_false (by simp [h, partnering_eq_error]) fun hi => hp.not_incomplete hi.2
  · exact iff_of_false (by simp [h]) fun hi => ha.not_incomplete hi.2

theorem registration_eq_file {e : DiskError} : s.registration d = .error (.file e) ↔
    ∃ cert key, s.Partnered cert key ∧ partnerIn d cert key = .error e := by
  rcases s.registration_cases d with ⟨hc, h⟩ | ⟨hi, h⟩ | ⟨cert, key, hp, h⟩ | ⟨ha, h⟩
  · exact iff_of_false (by simp [h]) fun ⟨_, _, hp, _⟩ => hp.not_conflicting hc
  · exact iff_of_false (by simp [h]) fun ⟨_, _, hp, _⟩ => hp.not_incomplete hi.2
  · rw [h, partnering_eq_error]
    constructor
    · rintro ⟨cause, hcause, heq⟩
      obtain rfl := SettingsError.file.inj heq
      exact ⟨cert, key, hp, hcause⟩
    · rintro ⟨cert', key', hp', he⟩
      obtain ⟨rfl, rfl⟩ := hp.unique hp'
      exact ⟨e, he, rfl⟩
  · exact iff_of_false (by simp [h]) fun ⟨_, _, hp, _⟩ => hp.not_alone ha

/-- **What a registration is made of**: the credentials in the files of a partner, or the invite code
if there is one. -/
theorem registration_eq_ok {r : Registration} : s.registration d = .ok r ↔
    (∃ cert key c, s.Partnered cert key ∧ partnerIn d cert key = .ok c ∧ r = ⟨some c, none⟩) ∨
      s.Alone ∧ r = ⟨none, s.inviteCode⟩ := by
  rcases s.registration_cases d with ⟨hc, h⟩ | ⟨hi, h⟩ | ⟨cert, key, hp, h⟩ | ⟨ha, h⟩
  · refine iff_of_false (by simp [h]) ?_
    rintro (⟨_, _, _, hp, -⟩ | ⟨ha, -⟩)
    · exact hp.not_conflicting hc
    · exact ha.not_conflicting hc
  · refine iff_of_false (by simp [h]) ?_
    rintro (⟨_, _, _, hp, -⟩ | ⟨ha, -⟩)
    · exact hp.not_incomplete hi.2
    · exact ha.not_incomplete hi.2
  · rw [h, partnering_eq_ok]
    constructor
    · rintro ⟨c, hc, rfl⟩
      exact Or.inl ⟨cert, key, c, hp, hc, rfl⟩
    · rintro (⟨cert', key', c, hp', hc, rfl⟩ | ⟨ha, -⟩)
      · obtain ⟨rfl, rfl⟩ := hp.unique hp'
        exact ⟨c, hc, rfl⟩
      · exact absurd ha hp.not_alone
  · rw [h]
    constructor
    · intro heq
      exact Or.inr ⟨ha, (Except.ok.inj heq).symm⟩
    · rintro (⟨_, _, _, hp, -⟩ | ⟨-, rfl⟩)
      · exact absurd ha hp.not_alone
      · rfl

theorem registration_error_cases {e : SettingsError} (h : s.registration d = .error e) :
    e = .conflictingRegistration ∨ e = .incompletePartner ∨ ∃ cause, e = .file cause := by
  rcases s.registration_cases d with ⟨-, h'⟩ | ⟨-, h'⟩ | ⟨cert, key, -, h'⟩ | ⟨-, h'⟩
  · exact Or.inl (Except.error.inj (h.symm.trans h'))
  · exact Or.inr (Or.inl (Except.error.inj (h.symm.trans h')))
  · obtain ⟨cause, -, hcause⟩ := partnering_eq_error.mp (h'.symm.trans h)
    exact Or.inr (Or.inr ⟨cause, hcause⟩)
  · rw [h] at h'
    cases h'

/-! ### The files that are read -/

/-- What the settings come to is found out from these files alone. -/
def ReadsOnly (s : Settings) (d : Disk) (paths : List String) : Prop :=
  ∀ d' : Disk, (∀ path ∈ paths, d'.read path = d.read path) → s.registration d' = s.registration d

/-- Settings that are refused for what they name are refused without a look at any file. -/
theorem readsOnly_of_refused (h : s.Conflicting ∨ s.Incomplete) (d : Disk) : s.ReadsOnly d [] := by
  intro d' _
  by_cases hc : s.Conflicting
  · rw [registration_eq_conflicting.mpr hc, registration_eq_conflicting.mpr hc]
  · have hi := h.resolve_left hc
    rw [registration_eq_incomplete.mpr ⟨hc, hi⟩, registration_eq_incomplete.mpr ⟨hc, hi⟩]

/-- If the certificate cannot be read, the key is not tried. -/
theorem readsOnly_of_unreadable {e : DiskError} (h : s.Partnered cert key)
    (hread : d.read cert = .error e) : s.ReadsOnly d [cert] := by
  intro d' hsame
  have hread' : d'.read cert = .error e := (hsame cert (by simp)).trans hread
  have hfile : ∀ d'' : Disk, d''.read cert = .error e → s.registration d'' = .error (.file e) :=
    fun _ he => registration_eq_file.mpr ⟨cert, key, h, partnerIn_eq_error.mpr (Or.inl he)⟩
  rw [hfile d hread, hfile d' hread']

end Settings

/-! ### The call to register -/

namespace Scheduler

variable {σ κ : Type} [Net σ] {scheduler : Scheduler} {signer : Signer} {scope : ChallengeScope}
  {r : Registration} {net : σ} {x : Exchange σ}

theorem scopeName_ne (scope : ChallengeScope) : scope.name ≠ "get_challenge" := by
  cases scope <;> decide

/-- An exchange asks for a challenge at least. -/
theorem Proven.calls_ne_nil (h : Proven scheduler signer scope r net x) : x.calls ≠ [] := by
  by_cases hc : HasChallenge (scheduler.firstReply signer scope net).1
  · intro hnil
    have hlength := h.sends.mpr hc
    rw [hnil] at hlength
    cases hlength
  · rw [(h.refused hc).1]
    simp

/-- What is sent back in an exchange is a proof, with what entitles to a node. -/
theorem Proven.sent (h : Proven scheduler signer scope r net x) {params : List Json}
    (hsent : .called scheduler.connection scope.name params ∈ x.calls) :
    ∃ text bytes fields, params = [.obj fields] ∧
      Proves scheduler signer r text bytes fields := by
  by_cases hc : HasChallenge (scheduler.firstReply signer scope net).1
  · obtain ⟨text, bytes, htext⟩ := hasChallenge_iff.mp hc
    obtain ⟨fields, hproves, hcalls, -⟩ := h.answered text bytes htext
    rw [hcalls] at hsent
    rcases List.mem_cons.mp hsent with heq | hmem
    · exact absurd (Happening.called.inj heq).2.1 (scopeName_ne scope)
    · obtain ⟨-, -, rfl⟩ := Happening.called.inj (List.mem_singleton.mp hmem)
      exact ⟨text, bytes, fields, rfl, hproves⟩
  · rw [(h.refused hc).1] at hsent
    exact absurd (Happening.called.inj (List.mem_singleton.mp hsent)).2.1 (scopeName_ne scope)

/-- Something is sent back just if there is a challenge. -/
theorem Proven.sent_iff (h : Proven scheduler signer scope r net x) :
    (∃ params, .called scheduler.connection scope.name params ∈ x.calls) ↔
      HasChallenge (scheduler.firstReply signer scope net).1 := by
  constructor
  · rintro ⟨params, hsent⟩
    by_contra hc
    rw [(h.refused hc).1] at hsent
    exact absurd (Happening.called.inj (List.mem_singleton.mp hsent)).2.1 (scopeName_ne scope)
  · intro hc
    obtain ⟨text, bytes, htext⟩ := hasChallenge_iff.mp hc
    obtain ⟨fields, -, hcalls, -⟩ := h.answered text bytes htext
    rw [hcalls]
    exact ⟨_, List.mem_cons_of_mem _ (List.mem_singleton_self _)⟩

end Scheduler

namespace Settings

open Scheduler

variable {s : Settings} {d : Disk} {r : Registration}

/-- A registration that the settings come to is refused just if the settings name nothing. -/
theorem entitled_iff (h : s.registration d = .ok r) : Node.Entitled r ↔ ¬ s.Unentitled := by
  rcases registration_eq_ok.mp h with ⟨cert, key, c, hp, -, rfl⟩ | ⟨ha, rfl⟩
  · exact iff_of_true (by simp [Node.Entitled]) fun hnone => hp.not_alone hnone.2
  · unfold Node.Entitled Unentitled
    cases s.inviteCode with
    | none => simp [ha]
    | some code => simp

/-- The fields of a call hold what the settings name, and no more: the invite code, and the texts of
the files of the partner if they are texts. -/
structure CarriedBy (s : Settings) (d : Disk) (fields : List (String × Json)) : Prop where
  code : find? "invite_code" fields = s.inviteCode.map .str
  partner : ∀ cert key certText keyText, s.Partnered cert key →
    d.readText cert = .ok certText → d.readText key = .ok keyText →
      find? "partner_cert" fields = some (.str certText) ∧
        find? "partner_key" fields = some (.str keyText)
  alone : s.Alone → find? "partner_cert" fields = none ∧ find? "partner_key" fields = none

theorem carriedBy_of_proves {scheduler : Scheduler} {signer : Signer} {text : String}
    {bytes : Bytes} {fields : List (String × Json)} (h : s.registration d = .ok r)
    (hfields : Proves scheduler signer r text bytes fields) : s.CarriedBy d fields := by
  rcases registration_eq_ok.mp h with ⟨cert, key, c, hp, hc, rfl⟩ | ⟨ha, rfl⟩
  · obtain ⟨hcert, hkey⟩ := partnerIn_eq_ok.mp hc
    refine ⟨?_, fun cert' key' certText keyText hp' hcertText hkeyText => ?_, fun ha => ?_⟩
    · rw [hfields.inviteCode, hp.code]
    · obtain ⟨rfl, rfl⟩ := hp.unique hp'
      have hcertBytes : c.cert = Utf8.encode certText :=
        Except.ok.inj (hcert.symm.trans (Disk.readText_eq_ok_iff.mp hcertText))
      have hkeyBytes : c.key = Utf8.encode keyText :=
        Except.ok.inj (hkey.symm.trans (Disk.readText_eq_ok_iff.mp hkeyText))
      rw [hfields.partnerCert, hfields.partnerKey, Option.map_some, Option.map_some, hcertBytes,
        hkeyBytes, Utf8.decodeLossy_encode, Utf8.decodeLossy_encode]
      exact ⟨rfl, rfl⟩
    · exact absurd ha hp.not_alone
  · refine ⟨hfields.inviteCode, fun _ _ _ _ hp => absurd ha hp.not_alone, fun _ => ?_⟩
    rw [hfields.partnerCert, hfields.partnerKey]
    exact ⟨rfl, rfl⟩

/-- What becomes of settings whose registration is sent to the scheduler. -/
structure Sent {σ κ : Type} [Net σ] (s : Settings) (d : Disk) (scheduler : Scheduler)
    (signer : Signer) (w : World σ κ) (out : Except NodeError DeviceCredentials × World σ κ)
    (calls : List Happening) : Prop where
  traffic : out.2.traffic = w.traffic ++ calls
  /-- The scheduler is asked, unless there is nothing to entitle to a node. -/
  asked : calls = [] ↔ s.Unentitled
  refused : s.Unentitled → ∃ m, out = (.error (.credentials m), w)
  registers : (∃ params, .called scheduler.connection "register" params ∈ calls) ↔
    ¬ s.Unentitled ∧ HasChallenge (scheduler.firstReply signer .register w.net).1
  carries : ∀ params, .called scheduler.connection "register" params ∈ calls →
    ∃ fields, params = [.obj fields] ∧ s.CarriedBy d fields

theorem sent_register {σ κ : Type} [Net σ] (h : s.registration d = .ok r) (scheduler : Scheduler)
    (signer : Signer) (w : World σ κ) :
    ∃ calls, Sent s d scheduler signer w
      ((scheduler.register signer r : Act σ κ NodeError DeviceCredentials).outcome w) calls := by
  unfold Scheduler.register
  by_cases hr : Node.Entitled r
  · have hs : ¬ s.Unentitled := (entitled_iff h).mp hr
    obtain ⟨x, hproven, hmakes⟩ := makes_exchange scheduler signer .register "registering" r w
    rw [Node.registrationFault?_eq_none.mpr hr]
    refine ⟨x.calls, hmakes.traffic, iff_of_false hproven.calls_ne_nil hs,
      fun hnone => absurd hnone hs, ?_, fun params hsent => ?_⟩
    · rw [and_iff_right hs]
      exact hproven.sent_iff
    · obtain ⟨text, bytes, fields, hparams, hfields⟩ := hproven.sent hsent
      exact ⟨fields, hparams, carriedBy_of_proves h hfields⟩
  · have hs : s.Unentitled := not_not.mp fun hs => hr ((entitled_iff h).mpr hs)
    obtain ⟨m, hm⟩ := Node.registrationFault?_of_not_entitled hr
    rw [hm]
    refine ⟨[], (List.append_nil _).symm, iff_of_true rfl hs, fun _ => ⟨m, rfl⟩, ?_, ?_⟩
    · exact iff_of_false (by simp) fun hsent => hsent.1 hs
    · intro params hsent
      cases hsent

/-- **What the settings name reaches the scheduler as it is, or nothing is sent.** Settings that name
too much or too little are refused without a look at any file, and a partner if one of the files
cannot be read, the certificate being tried first; nothing else is refused. What is not refused never
has both a partner and an invite code, so the scheduler is asked for a challenge unless the settings
name nothing at all. And the call that answers the challenge carries the invite code as it is
written in the settings, or the texts of the two files as they are written there. -/
theorem settings_reach_scheduler (s : Settings) (d : Disk) :
    (s.registration d = .error .conflictingRegistration ↔ s.Conflicting) ∧
    (s.registration d = .error .incompletePartner ↔ ¬ s.Conflicting ∧ s.Incomplete) ∧
    (s.Conflicting ∨ s.Incomplete → s.ReadsOnly d []) ∧
    (∀ e, s.registration d = .error (.file e) ↔ ∃ cert key, s.Partnered cert key ∧
      (d.read cert = .error e ∨ (∃ bs, d.read cert = .ok bs) ∧ d.read key = .error e)) ∧
    (∀ cert key e, s.Partnered cert key → d.read cert = .error e → s.ReadsOnly d [cert]) ∧
    (∀ e, s.registration d = .error e → e = .conflictingRegistration ∨ e = .incompletePartner ∨
      ∃ cause, e = .file cause) ∧
    ∀ r, s.registration d = .ok r → ¬ (r.partner ≠ none ∧ r.inviteCode ≠ none) ∧
      ∀ (σ κ : Type) [Net σ] (scheduler : Scheduler) (signer : Signer) (w : World σ κ),
        ∃ calls, Sent s d scheduler signer w
          ((scheduler.register signer r : Act σ κ NodeError DeviceCredentials).outcome w) calls := by
  refine ⟨registration_eq_conflicting, registration_eq_incomplete,
    fun h => readsOnly_of_refused h d, fun e => ?_, fun cert key e => readsOnly_of_unreadable,
    fun e => registration_error_cases, fun r h => ⟨?_, ?_⟩⟩
  · simp only [← partnerIn_eq_error]
    exact registration_eq_file
  · rcases registration_eq_ok.mp h with ⟨cert, key, c, -, -, rfl⟩ | ⟨-, rfl⟩
    · simp
    · simp
  · intro σ κ _ scheduler signer w
    exact sent_register h scheduler signer w

/-- The files of a partner. -/
def partnerDisk : Disk where
  entries := [(["client.crt"], .file (Utf8.encode "CERT\n")),
    (["client-key.pem"], .file (Utf8.encode "KÉY"))]
  current := []

/-- Settings that name them. -/
def partnerSettings : Settings :=
  { (default : Settings) with partnerCert := some "client.crt", partnerKey := some "client-key.pem" }

/-- A scheduler that gives a challenge. -/
def obligingWorld : World Script Unit where
  net := [("", [("get_challenge", [.ok (.obj [("challenge", .str "AB01")])])])]
  store := ()

theorem settings_reach_scheduler_partnered :
    ∃ r, partnerSettings.registration partnerDisk = .ok r ∧
      ∃ fields, .called (default : Scheduler).connection "register" [.obj fields] ∈
          (((default : Scheduler).register default r :
            Act Script Unit NodeError DeviceCredentials).outcome obligingWorld).2.traffic ∧
        find? "partner_cert" fields = some (.str "CERT\n") ∧
        find? "partner_key" fields = some (.str "KÉY") ∧ find? "invite_code" fields = none := by
  have hpartner : partnerSettings.Partnered "client.crt" "client-key.pem" := ⟨rfl, rfl, rfl⟩
  have hcert : partnerDisk.read "client.crt" = .ok (Utf8.encode "CERT\n") := by decide +kernel
  have hkey : partnerDisk.read "client-key.pem" = .ok (Utf8.encode "KÉY") := by decide +kernel
  have hr : partnerSettings.registration partnerDisk =
      .ok ⟨some ⟨Utf8.encode "KÉY", Utf8.encode "CERT\n"⟩, none⟩ :=
    registration_eq_ok.mpr
      (Or.inl ⟨_, _, _, hpartner, partnerIn_eq_ok.mpr ⟨hcert, hkey⟩, rfl⟩)
  obtain ⟨-, -, -, -, -, -, hsent⟩ := settings_reach_scheduler partnerSettings partnerDisk
  obtain ⟨calls, hcalls⟩ := (hsent _ hr).2 Script Unit default default obligingWorld
  have hchallenge : HasChallenge
      ((default : Scheduler).firstReply default .register obligingWorld.net).1 :=
    ⟨"AB01", rfl, by decide, by simp [Hex.IsDigit]⟩
  obtain ⟨params, hmem⟩ :=
    hcalls.registers.mpr ⟨fun hnone => hpartner.not_alone hnone.2, hchallenge⟩
  obtain ⟨fields, rfl, hcarried⟩ := hcalls.carries params hmem
  obtain ⟨hcertField, hkeyField⟩ := hcarried.partner _ _ _ _ hpartner
    (Disk.readText_of_read hcert) (Disk.readText_of_read hkey)
  refine ⟨_, hr, fields, ?_, hcertField, hkeyField, hcarried.code⟩
  rw [hcalls.traffic]
  exact List.mem_append_right _ hmem

end Settings

end HostedNode

import HostedNode.Proofs.Provider.Resolution
import HostedNode.Rpc.Script

/-! # Kept, recovered, registered

The cases of connecting with a signer, each with its calls and its outcome (`Resolved`): credentials
that are kept come first, then those that the scheduler has, then those of a new node. A new node is
asked for just if recovering failed although both of its calls reached the scheduler, and only with
one of partner credentials and invite code. -/

namespace HostedNode.Node

open Json Rpc Text

variable {σ κ : Type} [Net σ]

/-- Recovering, once the connection is open. -/
def recoveryIn (config : Config) (signer : Signer) (w : World σ κ) : Exchange σ :=
  recovery (schedulerOf config) signer (opening config w).2

/-- Registering, once recovering has failed. -/
def registrationIn (config : Config) (signer : Signer) (w : World σ κ) : Exchange σ :=
  registration (schedulerOf config) signer config.nodeConfig.registration (opening config w).2

/-- Recovering fails although its calls reach the scheduler. -/
def Unknown (config : Config) (signer : Signer) (w : World σ κ) : Prop :=
  (∃ e, (recoveryIn config signer w).result = .error e) ∧ ¬ (recoveryIn config signer w).Unreached

/-- There is one of partner credentials and invite code, and not both. -/
def Entitled (r : Registration) : Prop := r.partner.isSome ≠ r.inviteCode.isSome

/-- A call that belongs to a registration. -/
def IsRegistration (config : Config) (signer : Signer) (h : Happening) : Prop :=
  h = .called (schedulerConnection config) "get_challenge"
    (Scheduler.challengeParams signer .register) ∨
  ∃ params, h = .called (schedulerConnection config) "register" params

variable {config : Config} {signer : Signer} {w : World σ κ}

/-- Recovering that fails for want of a connection is what did not reach the scheduler. -/
theorem unreached_iff : (recoveryIn config signer w).Unreached ↔
    ∃ m, (recoveryIn config signer w).result = .error (.connectivity m) :=
  (Scheduler.result_eq_connectivity _ _ _ _ _).symm

theorem not_isRegistration_recovery {h : Happening}
    (hh : h ∈ (recoveryIn config signer w).calls) : ¬ IsRegistration config signer h := by
  rcases Scheduler.mem_calls hh with rfl | ⟨params, rfl⟩
  · rintro (heq | ⟨params, heq⟩)
    · exact Scheduler.challengeParams_ne signer (Happening.called.inj heq).2.2
    · exact absurd (Happening.called.inj heq).2.1 (by decide)
  · rintro (heq | ⟨params, heq⟩)
    · exact absurd (Happening.called.inj heq).2.1 (by decide)
    · exact absurd (Happening.called.inj heq).2.1 (by decide)

theorem registrationFault?_eq_none {r : Registration} :
    Scheduler.registrationFault? r = none ↔ Entitled r := by
  unfold Scheduler.registrationFault? Entitled
  cases r.partner <;> cases r.inviteCode <;> simp

theorem registrationFault?_of_not_entitled {r : Registration} (h : ¬ Entitled r) :
    ∃ m, Scheduler.registrationFault? r = some (.credentials m) := by
  unfold Entitled at h
  unfold Scheduler.registrationFault?
  cases hp : r.partner <;> cases hi : r.inviteCode <;> simp_all

/-! ### The cases of a course -/

variable [CredentialStore κ]

/-- The connection opens, and nothing is kept. -/
def Unkept (config : Config) (w : World σ κ) : Prop :=
  (opening config w).1 = .ok () ∧ CredentialStore.get w.store = .ok none

theorem courseOver_of_unkept (h : Unkept config w) : courseOver config signer w =
    issuedOver (schedulerOf config) signer config.nodeConfig.registration (opening config w).2 :=
  courseOver_of_read h.1 h.2

theorem courseOver_recovered (h : Unkept config w) {c : DeviceCredentials}
    (hx : (recoveryIn config signer w).result = .ok c) :
    courseOver config signer w = ⟨(recoveryIn config signer w).calls, .ok c⟩ := by
  unfold recoveryIn at hx
  rw [courseOver_of_unkept h]
  simp only [issuedOver, hx, recoveryIn]

theorem courseOver_unreached (h : Unkept config w) {m : String}
    (hx : (recoveryIn config signer w).result = .error (.connectivity m)) :
    courseOver config signer w =
      ⟨(recoveryIn config signer w).calls, .error (.connectivity m)⟩ := by
  unfold recoveryIn at hx
  rw [courseOver_of_unkept h]
  simp only [issuedOver, hx, recoveryIn]

/-- How credentials are come by once the scheduler was reached and has none. -/
def registeringIn (config : Config) (signer : Signer) (w : World σ κ) : Course :=
  match Scheduler.registrationFault? config.nodeConfig.registration with
  | some e => ⟨(recoveryIn config signer w).calls, .error e⟩
  | none =>
    ⟨(recoveryIn config signer w).calls ++ (registrationIn config signer w).calls,
      (registrationIn config signer w).result⟩

theorem courseOver_unknown (h : Unkept config w) (hx : Unknown config signer w) :
    courseOver config signer w = registeringIn config signer w := by
  obtain ⟨⟨e, hx⟩, hu⟩ := hx
  rw [unreached_iff] at hu
  rw [courseOver_of_unkept h]
  unfold recoveryIn at hx hu
  cases e with
  | connectivity m => exact absurd ⟨m, hx⟩ hu
  | _ =>
    simp only [issuedOver, hx]
    rfl

theorem calls_cases (config : Config) (signer : Signer) (w : World σ κ) :
    (courseOver config signer w).calls = [] ∨
    (courseOver config signer w).calls = (recoveryIn config signer w).calls ∨
    ((Unkept config w ∧ Unknown config signer w ∧ Entitled config.nodeConfig.registration) ∧
      (courseOver config signer w).calls =
        (recoveryIn config signer w).calls ++ (registrationIn config signer w).calls) := by
  cases ho : (opening config w).1 with
  | error e => exact Or.inl (by rw [courseOver_of_unopened ho])
  | ok u =>
    cases hg : CredentialStore.get w.store with
    | error e => exact Or.inl (by rw [courseOver_of_unread ho hg])
    | ok kept =>
      cases kept with
      | some k =>
        left
        rw [courseOver_of_read ho hg, resolvedOver]
        split_ifs <;> rfl
      | none =>
        right
        have hk : Unkept config w := ⟨ho, hg⟩
        cases hr : (recoveryIn config signer w).result with
        | ok c => exact Or.inl (by rw [courseOver_recovered hk hr])
        | error e =>
          by_cases hu : (recoveryIn config signer w).Unreached
          · obtain ⟨m, hm⟩ := unreached_iff.mp hu
            exact Or.inl (by rw [courseOver_unreached hk hm])
          · have hx : Unknown config signer w := ⟨⟨e, hr⟩, hu⟩
            rw [courseOver_unknown hk hx, registeringIn]
            cases hf : Scheduler.registrationFault? config.nodeConfig.registration with
            | some f => exact Or.inl rfl
            | none => exact Or.inr ⟨⟨hk, hx, registrationFault?_eq_none.mp hf⟩, rfl⟩

theorem registers_iff : (∃ h ∈ (courseOver config signer w).calls, IsRegistration config signer h) ↔
    Unkept config w ∧ Unknown config signer w ∧ Entitled config.nodeConfig.registration := by
  constructor
  · rintro ⟨h, hh, hreg⟩
    rcases calls_cases config signer w with hc | hc | ⟨hall, -⟩
    · rw [hc] at hh
      cases hh
    · rw [hc] at hh
      exact absurd hreg (not_isRegistration_recovery hh)
    · exact hall
  · rintro ⟨hk, hx, he⟩
    rw [courseOver_unknown hk hx, registeringIn, registrationFault?_eq_none.mpr he]
    exact ⟨_, List.mem_append_right _ (Scheduler.challenge_mem_calls _ _ _ _), Or.inl rfl⟩

theorem called_of_mem {h : Happening} (hh : h ∈ (courseOver config signer w).calls) :
    ∃ method params, h = .called (schedulerConnection config) method params := by
  rcases calls_cases config signer w with hc | hc | ⟨-, hc⟩
  · rw [hc] at hh
    cases hh
  · rw [hc] at hh
    exact Scheduler.called_of_mem hh
  · rw [hc] at hh
    rcases List.mem_append.mp hh with hh | hh
    · exact Scheduler.called_of_mem hh
    · exact Scheduler.called_of_mem hh

/-! ### All cases -/

/-- What connecting comes to, case by case. -/
structure Resolved (config : Config) (signer : Signer) (w : World σ κ)
    (out : Except NodeError Node × World σ κ) (calls : List Happening) : Prop where
  unopened : ∀ e, (opening config w).1 = .error e →
    calls = [] ∧ FailsWith (.ofTransport e) w out
  unread : (opening config w).1 = .ok () → ∀ e, CredentialStore.get w.store = .error e →
    calls = [] ∧ FailsWith e w out
  kept : (opening config w).1 = .ok () → ∀ k, CredentialStore.get w.store = .ok (some k) →
    k.seedFingerprint = signer.seedFingerprint →
    calls = [] ∧ KeepsIn config signer k.credentials w out
  foreign : (opening config w).1 = .ok () → ∀ k, CredentialStore.get w.store = .ok (some k) →
    k.seedFingerprint ≠ signer.seedFingerprint →
    calls = [] ∧ ∃ m, FailsWith (.credentials m) w out
  recovered : Unkept config w → ∀ c, (recoveryIn config signer w).result = .ok c →
    calls = (recoveryIn config signer w).calls ∧ KeepsIn config signer c w out
  unreached : Unkept config w → (recoveryIn config signer w).Unreached →
    calls = (recoveryIn config signer w).calls ∧
      ∃ m, (recoveryIn config signer w).result = .error (.connectivity m) ∧
        FailsWith (.connectivity m) w out
  unentitled : Unkept config w → Unknown config signer w →
    ¬ Entitled config.nodeConfig.registration →
    calls = (recoveryIn config signer w).calls ∧ ∃ m, FailsWith (.credentials m) w out
  registered : Unkept config w → Unknown config signer w →
    Entitled config.nodeConfig.registration →
    calls = (recoveryIn config signer w).calls ++ (registrationIn config signer w).calls ∧
      (∀ e, (registrationIn config signer w).result = .error e → FailsWith e w out) ∧
      (∀ c, (registrationIn config signer w).result = .ok c → KeepsIn config signer c w out)
  registers : (∃ h ∈ calls, IsRegistration config signer h) ↔
    Unkept config w ∧ Unknown config signer w ∧ Entitled config.nodeConfig.registration
  called : ∀ h ∈ calls, ∃ method params,
    h = .called (schedulerConnection config) method params

theorem resolved_courseOver {out : Except NodeError Node × World σ κ}
    (h : EndsWith config signer w out (courseOver config signer w).result) :
    Resolved config signer w out (courseOver config signer w).calls where
  unopened e he := by
    rw [courseOver_of_unopened he] at h ⊢
    exact ⟨rfl, h⟩
  unread ho e he := by
    rw [courseOver_of_unread ho he] at h ⊢
    exact ⟨rfl, h⟩
  kept ho k hk hs := by
    rw [courseOver_of_read ho hk, resolvedOver, if_pos hs] at h ⊢
    exact ⟨rfl, h⟩
  foreign ho k hk hs := by
    rw [courseOver_of_read ho hk, resolvedOver, if_neg hs] at h ⊢
    exact ⟨rfl, _, h⟩
  recovered hk c hc := by
    rw [courseOver_recovered hk hc] at h ⊢
    exact ⟨rfl, h⟩
  unreached hk hu := by
    obtain ⟨m, hm⟩ := unreached_iff.mp hu
    rw [courseOver_unreached hk hm] at h ⊢
    exact ⟨rfl, m, hm, h⟩
  unentitled hk hx he := by
    obtain ⟨m, hm⟩ := registrationFault?_of_not_entitled he
    rw [courseOver_unknown hk hx, registeringIn, hm] at h ⊢
    exact ⟨rfl, m, h⟩
  registered hk hx he := by
    rw [courseOver_unknown hk hx, registeringIn, registrationFault?_eq_none.mpr he] at h ⊢
    refine ⟨rfl, fun e hr => ?_, fun c hr => ?_⟩
    · rw [hr] at h
      exact h
    · rw [hr] at h
      exact h
  registers := registers_iff
  called _ := called_of_mem

/-- **Credentials that are kept come before those that the scheduler has, and those before a new
node.** Without a signer nothing is opened. With one, one connection is opened, to the scheduler of
the configuration, and what is called over it and what comes of it is told case by case. -/
theorem connect_resolution (config : Config) (seed : Bytes) (w : World σ κ) :
    let out := (connect config seed : Act σ κ NodeError Node).outcome w
    (seed.length < 32 → ∃ m, out = (.error (.credentials m), w)) ∧
    (32 ≤ seed.length → Signer.ofKeys? seed = none → ∃ e, out = (.error e, w)) ∧
    (32 ≤ seed.length → ∀ signer, Signer.ofKeys? seed = some signer →
      ∃ calls, out.2.traffic = w.traffic ++ .opened (schedulerConnection config) :: calls ∧
        Resolved config signer w out calls) ∧
    (schedulerConnection config).address = config.schedulerUrl ∧
    (schedulerConnection config).options.timeout =
      some (.ofSeconds config.requestTimeoutSec.toNat) ∧
    (schedulerConnection config).options.headers =
      (config.apiKey.map fun key => ("x-api-key", key)).toList := by
  refine ⟨fun hs => ?_, fun hl hk => ?_, fun hl signer hk => ?_, rfl, ?_, ?_⟩
  · have hsigner : Signer.ofSeed seed = .error (.credentials
        ("seed must be at least 32 bytes, got " ++ toString seed.length)) := if_pos hs
    exact ⟨_, connect_of_noSigner hsigner w⟩
  · have hsigner : Signer.ofSeed seed = .error (.generic "secp256k1 error") := by
      rw [Signer.ofSeed, if_neg (by unfold minSeedLength; omega), hk]
    exact ⟨_, connect_of_noSigner hsigner w⟩
  · have hsigner : Signer.ofSeed seed = .ok signer := by
      rw [Signer.ofSeed, if_neg (by unfold minSeedLength; omega), hk]
    obtain ⟨ht, hcourse⟩ := outcome_connect config hsigner w
    exact ⟨_, ht, resolved_courseOver hcourse⟩
  · unfold schedulerConnection
    cases config.apiKey <;> rfl
  · unfold schedulerConnection
    cases config.apiKey <;> rfl

/-- A scheduler that knows no method, and a slot with nothing in it. -/
def unknowingWorld : World Script CredentialSlot where
  net := [("", [])]
  store := ⟨none, none, none⟩

/-- What connecting comes to there, for a seed of zeros. -/
def unknowingOutcome : Except NodeError Node × World Script CredentialSlot :=
  (connect default (List.replicate minSeedLength 0) :
    Act Script CredentialSlot NodeError Node).outcome unknowingWorld

theorem resolved_unknowingWorld :
    ∃ signer, Signer.ofKeys? (List.replicate minSeedLength 0) = some signer ∧
      ∃ calls, unknowingOutcome.2.traffic =
          unknowingWorld.traffic ++ .opened (schedulerConnection default) :: calls ∧
        Resolved default signer unknowingWorld unknowingOutcome calls := by
  have hkeys : (Signer.ofKeys? (List.replicate minSeedLength 0)).isSome := by decide +kernel
  obtain ⟨signer, hsigner⟩ := Option.isSome_iff_exists.mp hkeys
  exact ⟨signer, hsigner, (connect_resolution default _ unknowingWorld).2.2.1
    (by decide) signer hsigner⟩

end HostedNode.Node

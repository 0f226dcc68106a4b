import HostedNode.Proofs.Provider.Exchange
import HostedNode.Provider.Node
import Mathlib.Tactic.SplitIfs

/-! # Where the credentials of a node come from

`Node.connect` takes credentials that are kept before those that the scheduler has, and those before
the ones of a new node. `Node.courseOver` says which calls this takes and what it gives;
`outcome_connect` says that connecting opens one connection, makes these calls and no other, and
keeps what it has found. The cases of the course are told apart in `Resolved`. -/

namespace HostedNode

open Json Rpc Text

namespace Node

variable {σ κ : Type} [Net σ]

/-! ### The credentials from the scheduler -/

/-- How credentials are come by: the calls, in order, and the result. -/
structure Course where
  calls : List Happening
  result : Except NodeError DeviceCredentials

/-- What recovering comes to over a net. -/
def recovery (s : Scheduler) (signer : Signer) (net : σ) : Exchange σ :=
  s.exchangeOver signer .recover [] net

/-- What registering comes to over a net, once recovering has failed. -/
def registration (s : Scheduler) (signer : Signer) (r : Registration) (net : σ) : Exchange σ :=
  s.exchangeOver signer .register (Scheduler.entitlement r) (recovery s signer net).net

/-- How the credentials from the scheduler are come by. -/
def issuedOver (s : Scheduler) (signer : Signer) (r : Registration) (net : σ) : Course :=
  let x := recovery s signer net
  match x.result with
  | .ok c => ⟨x.calls, .ok c⟩
  | .error (.connectivity m) => ⟨x.calls, .error (.connectivity m)⟩
  | .error _ =>
    match Scheduler.registrationFault? r with
    | some e => ⟨x.calls, .error e⟩
    | none =>
      let y := registration s signer r net
      ⟨x.calls ++ y.calls, y.result⟩

theorem outcome_register (s : Scheduler) (signer : Signer) (r : Registration) (w : World σ κ) :
    ∃ w', (s.register signer r : Act σ κ NodeError DeviceCredentials).outcome w =
        (match Scheduler.registrationFault? r with
          | some e => .error e
          | none => (s.exchangeOver signer .register (Scheduler.entitlement r) w.net).result, w') ∧
      w'.store = w.store ∧
      w'.traffic = w.traffic ++
        match Scheduler.registrationFault? r with
        | some _ => []
        | none => (s.exchangeOver signer .register (Scheduler.entitlement r) w.net).calls := by
  unfold Scheduler.register
  cases Scheduler.registrationFault? r with
  | some e => exact ⟨w, rfl, rfl, by simp⟩
  | none =>
    obtain ⟨w', hw, -, hs, ht⟩ :=
      s.outcome_exchange signer .register "registering" (Scheduler.entitlement r) w
    exact ⟨w', hw, hs, ht⟩

/-- What is left of finding credentials at the scheduler once recovering came to a result. -/
def recovered (s : Scheduler) (signer : Signer) (r : Registration) :
    Except NodeError DeviceCredentials → Act σ κ NodeError DeviceCredentials
  | .ok c => return c
  | .error (.connectivity m) => throw (.connectivity m)
  | .error e => do
    Act.log .info ("Failed to recover node (" ++ e.message ++ "), registering new one")
    s.register signer r

/-- **The scheduler is asked for a new node only if it was reached and has none.** -/
theorem outcome_issued (s : Scheduler) (signer : Signer) (r : Registration) (w : World σ κ) :
    ∃ w', (issued s signer r : Act σ κ NodeError DeviceCredentials).outcome w =
        ((issuedOver s signer r w.net).result, w') ∧
      w'.store = w.store ∧ w'.traffic = w.traffic ++ (issuedOver s signer r w.net).calls := by
  let said := World.note w (.logged (.of .info
    ("No credentials found, trying to recover existing node from " ++ s.connection.address)))
  obtain ⟨w1, hw1, hn1, hs1, ht1⟩ := s.outcome_exchange signer .recover "recovering" [] said
  have hx : s.exchangeOver signer .recover [] said.net = recovery s signer w.net := rfl
  have hsaid : said.traffic = w.traffic := by simp [said, Happening.isTraffic]
  rw [hx] at hw1 hn1 ht1
  rw [hsaid] at ht1
  have hrecover : (issued s signer r : Act σ κ NodeError DeviceCredentials).outcome w =
      (recovered s signer r (recovery s signer w.net).result :
        Act σ κ NodeError DeviceCredentials).outcome w1 := by
    simp only [issued, Act.outcome_bind, Act.outcome_log, Act.outcome_attempt, Scheduler.recover]
    rw [hw1]
    rfl
  rw [hrecover, issuedOver]
  cases hr : (recovery s signer w.net).result with
  | ok c => exact ⟨w1, rfl, hs1, ht1⟩
  | error e =>
    obtain ⟨w2, hw2, hs2, ht2⟩ := outcome_register s signer r (w1.note (.logged (.of .info
      ("Failed to recover node (" ++ e.message ++ "), registering new one"))))
    rw [World.store_note, hs1] at hs2
    rw [World.traffic_note, World.net_note, hn1, ht1] at ht2
    rw [World.net_note, hn1] at hw2
    cases e with
    | connectivity m => exact ⟨w1, rfl, hs1, ht1⟩
    | _ =>
      refine ⟨w2, ?_, hs2, ?_⟩
      · simp only [recovered, Act.outcome_bind, Act.outcome_log, hw2]
        cases Scheduler.registrationFault? r <;> rfl
      · rw [ht2]
        cases Scheduler.registrationFault? r <;> simp [Happening.isTraffic, registration]

/-! ### Connecting -/

/-- The scheduler of a configuration. -/
def schedulerOf (config : Config) : Scheduler := ⟨schedulerConnection config, config.network⟩

/-- What is said of credentials that were issued for another seed. -/
def foreignSeed : NodeError :=
  .credentials "stored credentials belong to another seed, seed doesn't match existing node"

/-- How credentials are come by once the connection is open. -/
def resolvedOver (config : Config) (signer : Signer) (net : σ) : Option StoredCredentials → Course
  | some kept =>
    if kept.seedFingerprint = signer.seedFingerprint then ⟨[], .ok kept.credentials⟩
    else ⟨[], .error foreignSeed⟩
  | none => issuedOver (schedulerOf config) signer config.nodeConfig.registration net

theorem outcome_resolve (config : Config) (signer : Signer) (kept : Option StoredCredentials)
    (w : World σ κ) :
    ∃ w', (resolve (schedulerOf config) signer config.nodeConfig.registration kept :
          Act σ κ NodeError DeviceCredentials).outcome w =
        ((resolvedOver config signer w.net kept).result, w') ∧
      w'.store = w.store ∧
      w'.traffic = w.traffic ++ (resolvedOver config signer w.net kept).calls := by
  cases kept with
  | none => exact outcome_issued _ _ _ w
  | some k =>
    rw [resolve, resolvedOver]
    split_ifs with h
    · refine ⟨w.note (.logged (.of .info "Initializing greenlight from existing credentials")),
        rfl, rfl, ?_⟩
      simp [Happening.isTraffic]
    · exact ⟨w, rfl, rfl, by simp⟩

/-- The result of opening the connection to the scheduler, and the net after it. -/
def opening (config : Config) (w : World σ κ) : Except TransportError Unit × σ :=
  Net.opening (schedulerConnection config) w.net

/-- The world once the connection was opened or not. -/
def openedIn (config : Config) (w : World σ κ) : World σ κ :=
  World.note { w with net := (opening config w).2 } (.opened (schedulerConnection config))

theorem traffic_openedIn (config : Config) (w : World σ κ) :
    (openedIn config w).traffic = w.traffic ++ [.opened (schedulerConnection config)] := by
  simp [openedIn, Happening.isTraffic]

variable [CredentialStore κ]

/-- How credentials are come by: the connection must open and the store be read. -/
def courseOver (config : Config) (signer : Signer) (w : World σ κ) : Course :=
  match (opening config w).1, CredentialStore.get w.store with
  | .error e, _ => ⟨[], .error (.ofTransport e)⟩
  | .ok (), .error e => ⟨[], .error e⟩
  | .ok (), .ok kept => resolvedOver config signer (opening config w).2 kept

section

variable {config : Config} {signer : Signer} {w : World σ κ}

theorem courseOver_of_unopened {e : TransportError} (h : (opening config w).1 = .error e) :
    courseOver config signer w = ⟨[], .error (.ofTransport e)⟩ := by
  simp only [courseOver, h]

theorem courseOver_of_unread (ho : (opening config w).1 = .ok ()) {e : NodeError}
    (h : CredentialStore.get w.store = .error e) :
    courseOver config signer w = ⟨[], .error e⟩ := by
  simp only [courseOver, ho, h]

theorem courseOver_of_read (ho : (opening config w).1 = .ok ())
    {kept : Option StoredCredentials} (h : CredentialStore.get w.store = .ok kept) :
    courseOver config signer w = resolvedOver config signer (opening config w).2 kept := by
  simp only [courseOver, ho, h]

end

/-- What comes of keeping credentials in a store. -/
def keepingOf (signer : Signer) (c : DeviceCredentials) (store : κ) : Except NodeError Unit × κ :=
  Act.storeOutcome (CredentialStore.set ⟨c, signer.seedFingerprint⟩) store

/-- The node of a signer, not started yet. -/
def withCredentials (config : Config) (signer : Signer) (c : DeviceCredentials) : Node :=
  ⟨config, signer, c, schedulerOf config, none⟩

/-- The outcome is this failure, and nothing is kept. -/
def FailsWith (e : NodeError) (w : World σ κ) (out : Except NodeError Node × World σ κ) : Prop :=
  out.1 = .error e ∧ out.2.store = w.store

/-- The outcome is that of keeping these credentials: the node with them, if they could be kept. -/
def KeepsIn (config : Config) (signer : Signer) (c : DeviceCredentials) (w : World σ κ)
    (out : Except NodeError Node × World σ κ) : Prop :=
  out.1 = (keepingOf signer c w.store).1.map (fun _ => withCredentials config signer c) ∧
    out.2.store = (keepingOf signer c w.store).2

/-- The outcome is that of a course with this result. -/
def EndsWith (config : Config) (signer : Signer) (w : World σ κ)
    (out : Except NodeError Node × World σ κ) : Except NodeError DeviceCredentials → Prop
  | .error e => FailsWith e w out
  | .ok c => KeepsIn config signer c w out

theorem connect_of_noSigner {config : Config} {seed : Bytes} {e : NodeError}
    (h : Signer.ofSeed seed = .error e) (w : World σ κ) :
    (connect config seed : Act σ κ NodeError Node).outcome w = (.error e, w) := by
  rw [connect, Act.outcome_bind, Act.outcome_ofExcept, h]

/-- What is left of connecting once there is a signer. -/
def connectAs (config : Config) (signer : Signer) : Act σ κ NodeError Node := do
  let connection := schedulerConnection config
  Act.mapError .ofTransport (Act.openConnection connection)
  let kept ← keptCredentials
  let c ← resolve ⟨connection, config.network⟩ signer config.nodeConfig.registration kept
  keepCredentials ⟨c, signer.seedFingerprint⟩
  return withCredentials config signer c

theorem connect_eq_connectAs (config : Config) {seed : Bytes} {signer : Signer}
    (h : Signer.ofSeed seed = .ok signer) :
    (connect config seed : Act σ κ NodeError Node) = connectAs config signer := by
  unfold connect
  rw [h]
  rfl

/-- What is left of connecting once it is known which credentials are kept. -/
def connectWith (config : Config) (signer : Signer) (kept : Option StoredCredentials) :
    Act σ κ NodeError Node := do
  let c ← resolve (schedulerOf config) signer config.nodeConfig.registration kept
  keepCredentials ⟨c, signer.seedFingerprint⟩
  return withCredentials config signer c

theorem outcome_connectWith (config : Config) (signer : Signer) (kept : Option StoredCredentials)
    (w : World σ κ) :
    let out := (connectWith config signer kept : Act σ κ NodeError Node).outcome w
    out.2.traffic = w.traffic ++ (resolvedOver config signer w.net kept).calls ∧
      EndsWith config signer w out (resolvedOver config signer w.net kept).result := by
  obtain ⟨w1, hw1, hs1, ht1⟩ := outcome_resolve config signer kept w
  rw [connectWith, Act.outcome_bind, hw1]
  cases hr : (resolvedOver config signer w.net kept).result with
  | error e => exact ⟨ht1, rfl, hs1⟩
  | ok c =>
    unfold EndsWith KeepsIn keepingOf
    rw [← hs1]
    dsimp only
    rw [Act.outcome_bind, keepCredentials, Act.outcome_onStore]
    cases (Act.storeOutcome (CredentialStore.set ⟨c, signer.seedFingerprint⟩) w1.store).1 with
    | error e => exact ⟨ht1, rfl, rfl⟩
    | ok u => exact ⟨ht1, rfl, rfl⟩

section

variable {config : Config} {seed : Bytes} {signer : Signer} {w : World σ κ}

theorem connect_of_unopened (h : Signer.ofSeed seed = .ok signer) {e : TransportError}
    (ho : (opening config w).1 = .error e) :
    (connect config seed : Act σ κ NodeError Node).outcome w =
      (.error (.ofTransport e), openedIn config w) := by
  unfold opening at ho
  rw [connect_eq_connectAs config h, connectAs, Act.outcome_bind, Act.outcome_mapError,
    Act.outcome_openConnection, ho]
  rfl

theorem connect_of_opened (h : Signer.ofSeed seed = .ok signer)
    (ho : (opening config w).1 = .ok ()) :
    (connect config seed : Act σ κ NodeError Node).outcome w =
      (Act.ofExcept (CredentialStore.get w.store) >>= connectWith config signer :
        Act σ κ NodeError Node).outcome (openedIn config w) := by
  unfold opening at ho
  rw [connect_eq_connectAs config h, connectAs, Act.outcome_bind, Act.outcome_mapError,
    Act.outcome_openConnection, ho]
  rfl

end

/-- **Connecting opens one connection, makes the calls of its course, and keeps what it found.** -/
theorem outcome_connect (config : Config) {seed : Bytes} {signer : Signer}
    (h : Signer.ofSeed seed = .ok signer) (w : World σ κ) :
    let out := (connect config seed : Act σ κ NodeError Node).outcome w
    out.2.traffic = w.traffic ++
        .opened (schedulerConnection config) :: (courseOver config signer w).calls ∧
      EndsWith config signer w out (courseOver config signer w).result := by
  cases ho : (opening config w).1 with
  | error e =>
    rw [connect_of_unopened h ho, courseOver_of_unopened ho]
    exact ⟨traffic_openedIn config w, rfl, rfl⟩
  | ok u =>
    rw [connect_of_opened h ho, Act.outcome_bind, Act.outcome_ofExcept]
    cases hg : CredentialStore.get w.store with
    | error e =>
      rw [courseOver_of_unread ho hg]
      exact ⟨traffic_openedIn config w, rfl, rfl⟩
    | ok kept =>
      obtain ⟨ht, hends⟩ := outcome_connectWith config signer kept (openedIn config w)
      rw [traffic_openedIn, List.append_assoc, List.singleton_append] at ht
      rw [courseOver_of_read ho hg]
      exact ⟨ht, hends⟩

end Node

end HostedNode

import HostedNode.Proofs.Services.Sync

/-! # The stages of building services

Building services goes through stages: the check of the seed, the working directory, the storage in
it, the node, its start, and the first sync. `Advances` says what each stage does when it succeeds
and `Fails` what it does when it fails; `Passes` says how far the stages succeed from a world on.
Building comes to its stages and nothing else: it gives services just if all stages succeed, and
otherwise it is over with the first one that fails, in the world that this one leaves
(`Services.build_cases`). -/

namespace HostedNode

open Act Rpc

variable {σ β : Type}

/-- How far building has come: what the stages so far have given. -/
inductive Progress (β : Type) where
  | begun
  | checked
  | made
  | opened (storage : Storage)
  | obtained (node : β) (storage : Storage)
  | started (node : β) (storage : Storage)
  | done (services : Services β)

namespace Progress

/-- How many stages are left, at most. -/
def left : Progress β → Nat
  | begun => 6
  | checked => 5
  | made => 4
  | opened _ => 3
  | obtained _ _ => 2
  | started _ _ => 1
  | done _ => 0

/-- The storage, once there is one and the first sync is not done yet. -/
def storage? : Progress β → Option Storage
  | opened s => some s
  | obtained _ s => some s
  | started _ s => some s
  | _ => none

/-- The node, once there is one. -/
def node? : Progress β → Option β
  | obtained n _ => some n
  | started n _ => some n
  | done s => some s.node
  | _ => none

/-- There is a stage left. -/
def Unfinished : Progress β → Prop
  | done _ => False
  | _ => True

theorem unfinished_or_done (p : Progress β) : p.Unfinished ∨ ∃ s, p = done s := by
  cases p with
  | done s => exact Or.inr ⟨s, rfl⟩
  | _ => exact Or.inl trivial

end Progress

namespace Services

/-- The world once a line of information was logged. -/
def told (line : String) (w : World σ Disk) : World σ Disk := w.note (.logged (.of .info line))

/-- The outcome of making the working directory. -/
def madeOn (config : Config) (d : Disk) : Except DiskError Unit × Disk :=
  storeOutcome (Disk.makeDirectories config.workingDir) d

section

variable [Backend σ β] (acquire : Act σ Workspace NodeError β) (config : Config) (seed : Bytes)
  (given : Option Storage)

/-- What the node is obtained with over a storage. -/
def obtainedOver (storage : Storage) (w : World σ Disk) :
    Except ServiceError (β × Storage) × World σ Disk :=
  (Workspace.within storage (mapError ServiceError.node acquire)).outcome w

/-- A stage succeeds. -/
inductive Advances : Progress β → World σ Disk → Progress β → World σ Disk → Prop where
  | checks {w} : minSeedLength ≤ seed.length → given = none → Advances .begun w .checked w
  | takes {w storage} : minSeedLength ≤ seed.length → given = some storage →
      Advances .begun w (.opened storage) w
  | makes {w d} : madeOn config w.store = (.ok (), d) →
      Advances .checked w .made { w with store := d }
  | opens {w data} : Storage.load w.store config.workingDir = .ok data →
      Advances .made w (.opened ⟨config.workingDir, data⟩)
        (w.note (.logged
          (.of .debug ("opened storage at " ++ Storage.documentPath config.workingDir))))
  | obtains {w w' storage node kept} : obtainedOver acquire storage w = (.ok (node, kept), w') →
      Advances (.opened storage) w (.obtained node kept) w'
  | starts {w w' storage node node'} :
      (Backend.start node : Act σ Disk NodeError β).outcome
        (told ("starting node " ++ Backend.nodeId σ node) w) = (.ok node', w') →
      Advances (.obtained node storage) w (.started node' storage) w'
  | syncs {w w' storage node s} : (sync ⟨node, storage, true⟩).outcome w = (.ok s, w') →
      Advances (.started node storage) w (.done s)
        (told ("connected to node " ++ Backend.nodeId σ node) w')

/-- A stage fails. -/
inductive Fails : Progress β → World σ Disk → ServiceError → World σ Disk → Prop where
  | short {w} : seed.length < minSeedLength → Fails .begun w (.invalidSeed seed.length) w
  | unmade {w e d} : madeOn config w.store = (.error e, d) →
      Fails .checked w (.persistence e.message) { w with store := d }
  | unopened {w m} : Storage.load w.store config.workingDir = .error (.persistence m) →
      Fails .made w (.persistence m) w
  | unobtained {w w' storage e} : obtainedOver acquire storage w = (.error (.node e), w') →
      Fails (.opened storage) w (.node e) w'
  | unstarted {w w' storage node e} :
      (Backend.start node : Act σ Disk NodeError β).outcome
        (told ("starting node " ++ Backend.nodeId σ node) w) = (.error e, w') →
      Fails (.obtained node storage) w (.node e) w'
  | unsynced {w w' storage node e} : (sync ⟨node, storage, true⟩).outcome w = (.error e, w') →
      Fails (.started node storage) w e w'

/-- The stages up to some progress succeed, one after the other, and leave a world. -/
inductive Passes (w : World σ Disk) : Progress β → World σ Disk → Prop where
  | begun : Passes w .begun w
  | next {p p' v v'} : Passes w p v → Advances acquire config seed given p v p' v' →
      Passes w p' v'

/-- All stages that are left. -/
def remaining : Progress β → Act σ Disk ServiceError (Services β)
  | .begun => build acquire config seed given
  | .checked => openStorage config.workingDir >>= buildOver acquire
  | .made => Storage.openIn config.workingDir >>= buildOver acquire
  | .opened storage => buildOver acquire storage
  | .obtained node storage => do
    log .info ("starting node " ++ Backend.nodeId σ node)
    let node ← mapError .node (Backend.start node)
    let services ← sync ⟨node, storage, true⟩
    log .info ("connected to node " ++ Backend.nodeId σ node)
    return services
  | .started node storage => do
    let services ← sync ⟨node, storage, true⟩
    log .info ("connected to node " ++ Backend.nodeId σ node)
    return services
  | .done services => return services

end

/-! ### Each stage -/

theorem load_error_persistence {d : Disk} {directory : String} {e : ServiceError}
    (h : Storage.load d directory = .error e) : ∃ m, e = .persistence m := by
  unfold Storage.load at h
  split at h
  · rename_i bs _
    cases hd : StorageData.ofDocument bs with
    | ok data =>
      rw [hd] at h
      cases h
    | error t =>
      rw [hd] at h
      exact ⟨_, (Except.error.inj h).symm⟩
  · cases h
  · exact ⟨_, (Except.error.inj h).symm⟩

variable [Backend σ β] {acquire : Act σ Workspace NodeError β} {config : Config} {seed : Bytes}
  {given : Option Storage} {p p' : Progress β} {v v' w : World σ Disk}

theorem outcome_openIn (directory : String) (w : World σ Disk) :
    (Storage.openIn directory).outcome w =
      match Storage.load w.store directory with
      | .ok data => (.ok ⟨directory, data⟩,
          w.note (.logged (.of .debug ("opened storage at " ++ Storage.documentPath directory))))
      | .error e => (.error e, w) := by
  unfold outcome
  cases h : Storage.load w.store directory with
  | ok data => rw [Storage.openIn_ok h]
  | error e => rw [Storage.openIn_error h]

theorem left_advances (h : Advances acquire config seed given p v p' v') : p'.left < p.left := by
  cases h with
  | checks _ _ => simp only [Progress.left, Nat.lt_add_one]
  | takes _ _ => simp only [Progress.left, Nat.reduceLT]
  | makes _ => simp only [Progress.left, Nat.lt_add_one]
  | opens _ => simp only [Progress.left, Nat.lt_add_one]
  | obtains _ => simp only [Progress.left, Nat.lt_add_one]
  | starts _ => simp only [Progress.left, Nat.lt_add_one]
  | syncs _ => simp only [Progress.left, Nat.lt_add_one]

/-- After a stage that succeeds, what is left is what was left but for it. -/
theorem outcome_of_advances (h : Advances acquire config seed given p v p' v') :
    (remaining acquire config seed given p).outcome v =
      (remaining acquire config seed given p').outcome v' := by
  cases h with
  | checks hs hg =>
    subst hg
    simp only [remaining]
    unfold build
    simp only [if_neg (Nat.not_lt.mpr hs)]
    rfl
  | takes hs hg =>
    subst hg
    simp only [remaining]
    unfold build
    simp only [if_neg (Nat.not_lt.mpr hs)]
    rfl
  | makes hd =>
    unfold madeOn at hd
    simp only [remaining, openStorage, bind_assoc]
    rw [outcome_bind, outcome_mapError, outcome_onStore, hd]
    rfl
  | opens hload =>
    simp only [remaining]
    rw [outcome_bind, outcome_openIn, hload]
  | obtains ho =>
    unfold obtainedOver at ho
    simp only [remaining, buildOver]
    rw [outcome_bind, ho]
  | starts hstart =>
    simp only [remaining]
    rw [outcome_bind, outcome_log]
    dsimp only
    rw [outcome_bind, outcome_mapError]
    unfold told at hstart
    rw [hstart]
    rfl
  | syncs hsync =>
    simp only [remaining]
    rw [outcome_bind, hsync]
    rfl

theorem outcome_of_fails (given : Option Storage) {e : ServiceError}
    (h : Fails acquire config seed p v e v') :
    (remaining acquire config seed given p).outcome v = (.error e, v') := by
  cases h with
  | short hs =>
    simp only [remaining]
    unfold build
    simp only [if_pos hs]
    rfl
  | unmade hd =>
    unfold madeOn at hd
    simp only [remaining, openStorage, bind_assoc]
    rw [outcome_bind, outcome_mapError, outcome_onStore, hd]
    rfl
  | unopened hload =>
    simp only [remaining]
    rw [outcome_bind, outcome_openIn, hload]
  | unobtained ho =>
    unfold obtainedOver at ho
    simp only [remaining, buildOver]
    rw [outcome_bind, ho]
  | unstarted hstart =>
    simp only [remaining]
    rw [outcome_bind, outcome_log]
    dsimp only
    rw [outcome_bind, outcome_mapError]
    unfold told at hstart
    rw [hstart]
    rfl
  | unsynced hsync =>
    simp only [remaining]
    rw [outcome_bind, hsync]

omit [Backend σ β] in
/-- A node that is not obtained is a failure of the node. -/
theorem obtainedOver_error {storage : Storage} {e : ServiceError}
    (h : obtainedOver acquire storage v = (.error e, v')) : ∃ cause, e = .node cause := by
  unfold obtainedOver at h
  rw [outcome_within, outcome_mapError] at h
  cases ho : (acquire.outcome { v with store := { disk := v.store, storage } }).1 with
  | ok n =>
    rw [ho] at h
    cases (Prod.mk.inj h).1
  | error cause =>
    rw [ho] at h
    exact ⟨cause, (Except.error.inj (Prod.mk.inj h).1).symm⟩

/-- Each stage succeeds or fails. -/
theorem advances_or_fails (given : Option Storage) (hp : p.Unfinished) (v : World σ Disk) :
    (∃ p' v', Advances acquire config seed given p v p' v') ∨
      ∃ e v', Fails acquire config seed p v e v' := by
  cases p with
  | begun =>
    by_cases hs : seed.length < minSeedLength
    · exact Or.inr ⟨_, _, .short hs⟩
    · have hs := Nat.not_lt.mp hs
      cases given with
      | none => exact Or.inl ⟨_, _, .checks hs rfl⟩
      | some storage => exact Or.inl ⟨_, _, .takes hs rfl⟩
  | checked =>
    rcases hd : madeOn config v.store with ⟨e | u, d⟩
    · exact Or.inr ⟨_, _, .unmade hd⟩
    · exact Or.inl ⟨_, _, .makes hd⟩
  | made =>
    cases hload : Storage.load v.store config.workingDir with
    | ok data => exact Or.inl ⟨_, _, .opens hload⟩
    | error e =>
      obtain ⟨m, rfl⟩ := load_error_persistence hload
      exact Or.inr ⟨_, _, .unopened hload⟩
  | opened storage =>
    rcases ho : obtainedOver acquire storage v with ⟨e | ⟨node, kept⟩, v'⟩
    · obtain ⟨cause, rfl⟩ := obtainedOver_error ho
      exact Or.inr ⟨_, _, .unobtained ho⟩
    · exact Or.inl ⟨_, _, .obtains ho⟩
  | obtained node storage =>
    rcases hstart : (Backend.start node : Act σ Disk NodeError β).outcome
      (told ("starting node " ++ Backend.nodeId σ node) v) with ⟨e | node', v'⟩
    · exact Or.inr ⟨_, _, .unstarted hstart⟩
    · exact Or.inl ⟨_, _, .starts hstart⟩
  | started node storage =>
    rcases hsync : (sync ⟨node, storage, true⟩).outcome v with ⟨e | s, v'⟩
    · exact Or.inr ⟨_, _, .unsynced hsync⟩
    · exact Or.inl ⟨_, _, .syncs hsync⟩
  | done s => exact hp.elim

/-! ### All stages -/

/-- Building comes to what is left of it after the stages that succeed. -/
theorem outcome_of_passes (h : Passes acquire config seed given w p v) :
    (build acquire config seed given).outcome w =
      (remaining acquire config seed given p).outcome v := by
  induction h with
  | begun => rfl
  | next _ hnext ih => rw [ih, outcome_of_advances hnext]

/-- The stages succeed to the end, or up to one that fails. -/
theorem passes_or_fails (h : Passes acquire config seed given w p v) :
    (∃ s u, Passes acquire config seed given w (.done s) u) ∨
      ∃ q u e u', Passes acquire config seed given w q u ∧ Fails acquire config seed q u e u' := by
  induction hn : p.left using Nat.strongRecOn generalizing p v with
  | ind n ih =>
    rcases p.unfinished_or_done with hp | ⟨s, rfl⟩
    · rcases advances_or_fails given hp v with ⟨p', v', hnext⟩ | ⟨e, v', hfail⟩
      · have hlt : p'.left < n := hn ▸ left_advances hnext
        exact ih _ hlt (h.next hnext) rfl
      · exact Or.inr ⟨p, v, e, v', h, hfail⟩
    · exact Or.inl ⟨s, v, h⟩

/-- **Building is its stages.** It gives services just if all stages succeed, and otherwise it is
over with the first one that fails. -/
theorem build_cases (acquire : Act σ Workspace NodeError β) (config : Config) (seed : Bytes)
    (given : Option Storage) (w : World σ Disk) :
    (∃ s v, Passes acquire config seed given w (.done s) v ∧
      (build acquire config seed given).outcome w = (.ok s, v)) ∨
    ∃ p v e v', Passes acquire config seed given w p v ∧ Fails acquire config seed p v e v' ∧
      (build acquire config seed given).outcome w = (.error e, v') := by
  have hbegun : Passes acquire config seed given w .begun w := .begun
  rcases passes_or_fails hbegun with ⟨s, v, h⟩ | ⟨p, v, e, v', h, hfail⟩
  · exact Or.inl ⟨s, v, h, outcome_of_passes h⟩
  · exact Or.inr ⟨p, v, e, v', h, hfail, (outcome_of_passes h).trans (outcome_of_fails given hfail)⟩

end Services

end HostedNode

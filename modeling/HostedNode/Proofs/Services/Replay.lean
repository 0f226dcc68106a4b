import HostedNode.Proofs.Services.Live
import Mathlib.Data.List.Chain

/-! # Events tell the state of a node

A listener that knows the state that the storage had when it was opened, and keeps the state of the
last event that tells of one, has at all times the state that the services tell
(`NodeEvent.Replays`): a sync that fails raises no events and changes nothing that is told, and one
that succeeds raises the event that tells of its state unless that state was told before. -/

namespace HostedNode

open Act Json Rpc

/-! ### What events tell -/

namespace NodeEvent

/-- The state that an event tells of. -/
def state? : NodeEvent → Option NodeState
  | .nodeStateChanged s => some s
  | _ => none

/-- The states that events tell of. -/
def states (es : List NodeEvent) : List NodeState := es.filterMap state?

theorem states_append (es es' : List NodeEvent) : states (es ++ es') = states es ++ states es' :=
  List.filterMap_append

theorem states_announcing (previous : Option NodeState) (s : NodeState) :
    states (announcing previous s) = if ∀ p ∈ previous, p ≠ s then [s] else [] := by
  unfold announcing
  rw [states_append, states_append]
  have hblock : states (if ∀ p ∈ previous, p.blockHeight < s.blockHeight then
      [.newBlock s.blockHeight] else []) = [] := by
    split <;> rfl
  rw [hblock]
  split <;> rfl

/-- Events raised since a storage with the state `cached` was opened tell that the state is `s`: the
last state that they tell of is this one; if they tell of none, it is the one that was cached; and
no state is told of twice in a row. -/
structure Replays (cached : Option NodeState) (es : List NodeEvent) (s : NodeState) : Prop where
  last : ∀ t, (states es).getLast? = some t → t = s
  untold : states es = [] → cached = some s
  distinct : (states es).IsChain (· ≠ ·)

/-- With the cached state in front, the states told of end with `s`, and none comes twice in a
row. -/
def Ends (cached : Option NodeState) (es : List NodeEvent) (s : NodeState) : Prop :=
  (cached.toList ++ states es).getLast? = some s ∧ (cached.toList ++ states es).IsChain (· ≠ ·)

theorem ends_first (cached : Option NodeState) (s : NodeState) :
    Ends cached (announcing cached s) s := by
  unfold Ends
  rw [states_announcing]
  cases cached with
  | none => simp
  | some c => by_cases hc : c = s <;> simp [hc]

theorem Ends.next {cached : Option NodeState} {es : List NodeEvent} {s : NodeState}
    (h : Ends cached es s) (t : NodeState) : Ends cached (es ++ announcing (some s) t) t := by
  obtain ⟨hlast, hchain⟩ := h
  unfold Ends
  rw [states_append, states_announcing, ← List.append_assoc]
  by_cases hst : s = t
  · have hsame : ¬ ∀ p ∈ some s, p ≠ t := by simp [hst]
    rw [if_neg hsame, List.append_nil, ← hst]
    exact ⟨hlast, hchain⟩
  · have hother : ∀ p ∈ some s, p ≠ t := by simpa using hst
    rw [if_pos hother]
    refine ⟨by simp, List.isChain_append.mpr ⟨hchain, by simp, ?_⟩⟩
    rintro x hx y hy
    rw [hlast] at hx
    obtain rfl : s = x := by simpa using hx
    obtain rfl : t = y := by simpa using hy
    exact hst

theorem Ends.replays {cached : Option NodeState} {es : List NodeEvent} {s : NodeState}
    (h : Ends cached es s) : Replays cached es s := by
  obtain ⟨hlast, hchain⟩ := h
  refine ⟨fun t ht => ?_, fun hnone => ?_, hchain.right_of_append⟩
  · rw [List.getLast?_append, ht] at hlast
    exact Option.some.inj hlast
  · rw [hnone, List.append_nil] at hlast
    cases cached with
    | none => cases hlast
    | some c => exact hlast

end NodeEvent

/-! ### Many requests -/

namespace Live

variable {σ β : Type} {l l' : Live σ β} {opened : Storage} {past : List NodeEvent}
  {s t : NodeState}

/-- The services tell a state, the document is that of their storage, and the events raised since
`past` end with the state. -/
structure Told (opened : Storage) (past : List NodeEvent) (l : Live σ β) (s : NodeState) :
    Prop where
  state : l.services.nodeInfo = .ok s
  directory : l.services.storage.directory = opened.directory
  document : Storage.load l.world.store opened.directory = .ok l.services.storage.data
  events : ∃ es, l.world.events = past ++ es ∧ NodeEvent.Ends opened.data.nodeState es s

theorem Told.still (h : Told opened past l s) (hl : Still l l') : Told opened past l' s := by
  have hread := hl.document
  unfold Storage.path at hread
  rw [h.directory] at hread
  refine ⟨hl.state.trans h.state, ?_, ?_, ?_⟩
  · rw [hl.storage]
    exact h.directory
  · rw [hl.storage]
    exact (Storage.load_congr hread).trans h.document
  · rw [hl.events]
    exact h.events

variable [Backend σ β]

/-- The state that a request synced to: that which the node gave, if a sync succeeded. -/
def syncedTo (l : Live σ β) (r : ServiceRequest) : Option NodeState :=
  match r, (l.serve r).1,
    ((Backend.pull l.services.node : Act σ Disk NodeError NodeState).outcome l.world).1 with
  | .sync, .done, .ok s => some s
  | _, _, _ => none

/-- The state of the last sync among some requests that succeeded; `s` if none did. -/
def lastSynced (s : NodeState) (l : Live σ β) : List ServiceRequest → NodeState
  | [] => s
  | r :: rs => lastSynced ((l.syncedTo r).getD s) (l.serve r).2 rs

theorem syncedTo_of_ne {l : Live σ β} {r : ServiceRequest} (hr : r ≠ .sync) :
    l.syncedTo r = none := by
  cases r with
  | sync => exact absurd rfl hr
  | _ => rfl

theorem Told.synced (h : Told opened past l s) (hl : Synced l t l') : Told opened past l' t := by
  have hknown : l.known = some s := by
    unfold known
    rw [h.state]
    rfl
  obtain ⟨es, hes, hends⟩ := h.events
  refine ⟨hl.state, hl.directory.trans h.directory, ?_, _, ?_, hends.next t⟩
  · rw [← h.directory]
    exact hl.document
  · rw [hl.events, hes, hknown, List.append_assoc]

section

variable [QuietBackend σ β]

theorem told_serve (h : Told opened past l s) (r : ServiceRequest) :
    Told opened past (l.serve r).2 ((l.syncedTo r).getD s) := by
  by_cases hr : r = .sync
  · subst r
    unfold syncedTo
    rcases l.sync_cases with ⟨e, l', hserve, hstill⟩ | ⟨t, l', hserve, hsynced⟩
    · rw [hserve]
      exact h.still hstill
    · obtain ⟨w, hpulled⟩ := hsynced.pulled
      rw [hserve, hpulled]
      exact h.synced hsynced
  · rw [syncedTo_of_ne hr]
    exact h.still (still_serve l hr)

theorem told_run (h : Told opened past l s) (rs : List ServiceRequest) :
    Told opened past (l.run rs) (lastSynced s l rs) := by
  induction rs generalizing l s with
  | nil => exact h
  | cons r rs ih => exact ih (told_serve h r)

end

/-! ### Services that were built -/

/-- What comes first is a sync: of services over the storage that was opened, when no events were
raised yet. -/
def Began (opened : Storage) (past : List NodeEvent) (first : NodeState) (built : Live σ β) :
    Prop :=
  ∃ before : Live σ β, before.world.events = past ∧ before.known = opened.data.nodeState ∧
    before.services.storage.directory = opened.directory ∧ Synced before first built

/-- What holds of live services whose last sync that succeeded came to a state. -/
structure Faithful (opened : Storage) (past : List NodeEvent) (l : Live σ β) (s : NodeState) :
    Prop where
  state : l.services.nodeInfo = .ok s
  directory : l.services.storage.directory = opened.directory
  document : Storage.load l.world.store opened.directory = .ok l.services.storage.data
  sync : (∃ e l', l.serve .sync = (.failed e, l') ∧ Still l l') ∨
    ∃ t l', l.serve .sync = (.done, l') ∧ Synced l t l'
  others : ∀ r, r ≠ .sync → Still l (l.serve r).2
  events : ∃ es, l.world.events = past ++ es ∧ NodeEvent.Replays opened.data.nodeState es s

theorem Told.faithful [QuietBackend σ β] {opened : Storage} {past : List NodeEvent} {l : Live σ β}
    {s : NodeState} (h : Told opened past l s) : Faithful opened past l s := by
  obtain ⟨es, hes, hends⟩ := h.events
  exact ⟨h.state, h.directory, h.document, l.sync_cases, fun _ hr => still_serve l hr, es, hes,
    hends.replays⟩

/-- Services that are built with a node got in this way are faithful after any requests. -/
def FaithfulWith (acquire : Act σ Workspace NodeError β) : Prop :=
  ∀ (config : Config) (seed : Bytes) (given : Option Storage) (w w' : World σ Disk)
    (services : Services β),
    (Services.build acquire config seed given).outcome w = (.ok services, w') →
    ∃ opened w1 first, Services.openedOver config given w = (.ok opened, w1) ∧
      Began opened w.events first ⟨services, w'⟩ ∧
      ∀ rs, Faithful opened w.events (run ⟨services, w'⟩ rs) (lastSynced first ⟨services, w'⟩ rs)

theorem told_of_began {opened : Storage} {past : List NodeEvent} {first : NodeState}
    {built : Live σ β} (h : Began opened past first built) : Told opened past built first := by
  obtain ⟨before, hpast, hknown, hdirectory, hsynced⟩ := h
  have hevents := hsynced.events
  rw [hpast, hknown] at hevents
  refine ⟨hsynced.state, hsynced.directory.trans hdirectory, ?_, _, hevents,
    NodeEvent.ends_first _ _⟩
  rw [← hdirectory]
  exact hsynced.document

theorem faithfulWith_of_keeps [QuietBackend σ β] {acquire : Act σ Workspace NodeError β}
    (hacquire : Keeps Services.cacheAndEvents acquire) : FaithfulWith acquire := by
  intro config seed given w w' services h
  obtain ⟨opened, w1, hopened, before, w2, w3, hready, hsync, hstore, hevents⟩ :=
    Services.build_ok hacquire h
  rcases before.sync_cases w2 with ⟨e, w4, hfail, -⟩ | ⟨first, hkeeps⟩
  · rw [hfail] at hsync
    cases (Prod.mk.inj hsync).1
  · obtain ⟨l', hserve, hsynced⟩ := synced_of_keeps hkeeps
    have hl' : l' = ⟨services, w3⟩ := by
      unfold serve at hserve
      rw [hsync] at hserve
      exact (Prod.mk.inj hserve).2.symm
    rw [hl'] at hsynced
    have hbegan : Began opened w.events first ⟨services, w'⟩ := by
      refine ⟨⟨before, w2⟩, hready.events, (known_eq _).trans hready.nodeState, hready.directory,
        hsynced.pulled, hevents.trans hsynced.events, hsynced.state, hsynced.directory, ?_⟩
      rw [hstore]
      exact hsynced.document
    refine ⟨opened, w1, first, hopened, hbegan, fun rs => ?_⟩
    exact (told_run (told_of_began hbegan) rs).faithful

/-- Keeping credentials leaves the cached state alone. -/
theorem keeps_keepCredentials (c : StoredCredentials) :
    Keeps Services.cacheAndEvents (Node.keepCredentials c : Act σ Workspace NodeError Unit) := by
  intro w
  have hset : (CredentialStore.set c : EStateM NodeError Workspace Unit) =
      Workspace.setCredentials c := rfl
  rw [Node.keepCredentials, outcome_onStore, hset]
  unfold storeOutcome Workspace.setCredentials
  cases hr : w.store.storage.replace { w.store.storage.data with credentials := some c }
      w.store.disk with
  | error e d => rfl
  | ok storage d =>
    obtain ⟨rfl, -, -⟩ := Storage.replace_ok hr
    rfl

/-- **Events tell the state of a node.** However services are built, with a stand-in, with a node
that is given or with one that is connected to over any net, over any storage, and whatever they are
asked afterwards: a sync that fails raises no events and changes neither the state told nor the
document; one that succeeds raises the events that announce the state given by the node after the
one told before; the state told is that of the last sync that succeeded; and the events raised since
the storage was opened replay it. -/
theorem events_tell_state :
    (∀ node : StandIn,
      FaithfulWith (pure node : Act StandIn.Answers Workspace NodeError StandIn)) ∧
    (∀ (σ : Type) [Net σ] (node : Node),
      FaithfulWith (pure node : Act σ Workspace NodeError Node)) ∧
    ∀ (σ : Type) [Net σ] (config : Config) (seed : Bytes),
      FaithfulWith (Node.connect config seed : Act σ Workspace NodeError Node) := by
  refine ⟨fun node => ?_, fun σ _ node => ?_, fun σ _ config seed => ?_⟩
  · exact faithfulWith_of_keeps (keeps_pure node)
  · exact faithfulWith_of_keeps (keeps_pure node)
  · exact faithfulWith_of_keeps
      (keeps_connect Services.apart_cacheAndEvents keeps_keepCredentials config seed)

/-! ### Three states -/

/-- The state in the document. -/
def cachedState : NodeState :=
  { NodeState.empty with id := "02ab", blockHeight := 100, onchainBalanceMsat := 5000 }

/-- The state at the first sync: higher, and with a peer. -/
def pulledState : NodeState := { cachedState with blockHeight := 120, connectedPeers := ["03cd"] }

/-- The state at the last sync: not higher, but with another balance. -/
def laterState : NodeState := { pulledState with onchainBalanceMsat := 7000 }

/-- What the storage holds at first. -/
def cachedData : StorageData := ⟨none, some cachedState⟩

/-- A directory with this in its document, and a stand-in that has another state, cannot be reached,
and has a third one, in this order. -/
def standInWorld : World StandIn.Answers Disk where
  net := [(StandIn.address,
    [("start", [.ok .null]),
      ("pull", [.ok (toJson pulledState), .error (.connectivity "unreachable"),
        .ok (toJson laterState)])])]
  store := Storage.diskOf cachedData.document none

/-- What building services there comes to. -/
def standInBuild : Except ServiceError (Services StandIn) × World StandIn.Answers Disk :=
  (Services.build (pure ⟨"02ab"⟩ : Act StandIn.Answers Workspace NodeError StandIn) default
    (List.replicate minSeedLength 0) (some ⟨"d", cachedData⟩)).outcome standInWorld

/-- Two syncs after the build, the first of which fails. -/
theorem built_standIn :
    ∃ services w', standInBuild = (.ok services, w') ∧
      (run ⟨services, w'⟩ [.sync]).known = some pulledState ∧
      (run ⟨services, w'⟩ [.sync, .sync]).known = some laterState ∧
      (run ⟨services, w'⟩ [.sync, .sync]).world.events =
        [.newBlock 120, .nodeStateChanged pulledState, .synced, .nodeStateChanged laterState,
          .synced] := by
  have hbuilt : standInBuild.1.toOption.map (fun services =>
      ((run ⟨services, standInBuild.2⟩ [.sync]).known,
        (run ⟨services, standInBuild.2⟩ [.sync, .sync]).known,
        (run ⟨services, standInBuild.2⟩ [.sync, .sync]).world.events)) =
      some (some pulledState, some laterState,
        [.newBlock 120, .nodeStateChanged pulledState, .synced, .nodeStateChanged laterState,
          .synced]) := by
    decide +kernel
  rcases h : standInBuild with ⟨e | services, w'⟩
  · rw [h] at hbuilt
    cases hbuilt
  · rw [h] at hbuilt
    obtain ⟨h1, h2⟩ := Prod.mk.inj (Option.some.inj hbuilt)
    obtain ⟨h2, h3⟩ := Prod.mk.inj h2
    exact ⟨services, w', rfl, h1, h2, h3⟩

/-- The listener of a stand-in that knew the state in the document knows the state at all times:
after the build, after a sync that fails and after one that succeeds. -/
theorem faithful_standIn :
    Storage.load standInWorld.store "d" = .ok cachedData ∧
    ∃ services w', standInBuild = (.ok services, w') ∧
      ∃ first, Began ⟨"d", cachedData⟩ [] first ⟨services, w'⟩ ∧
        (∀ rs, Faithful ⟨"d", cachedData⟩ [] (run ⟨services, w'⟩ rs)
          (lastSynced first ⟨services, w'⟩ rs)) ∧
        lastSynced first ⟨services, w'⟩ [.sync] = pulledState ∧
        lastSynced first ⟨services, w'⟩ [.sync, .sync] = laterState ∧
        (run ⟨services, w'⟩ [.sync, .sync]).world.events =
          [.newBlock 120, .nodeStateChanged pulledState, .synced, .nodeStateChanged laterState,
            .synced] := by
  obtain ⟨services, w', h, hpulled, hlater, hevents⟩ := built_standIn
  obtain ⟨opened, w1, first, hopened, hbegan, hrun⟩ := events_tell_state.1 ⟨"02ab"⟩ _ _ _ _ _ _ h
  obtain rfl : ⟨"d", cachedData⟩ = opened := Except.ok.inj (Prod.mk.inj hopened).1
  refine ⟨Storage.load_diskOf _ none, services, w', h, first, hbegan, hrun, ?_, ?_, hevents⟩
  · rw [known, (hrun [.sync]).state] at hpulled
    exact Option.some.inj hpulled
  · rw [known, (hrun [.sync, .sync]).state] at hlater
    exact Option.some.inj hlater

end Live

end HostedNode

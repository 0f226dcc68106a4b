import HostedNode.Proofs.Services.Delivery
import HostedNode.Proofs.Services.Verdict

/-! # Syncs at the same time come to syncs one after the other

Whatever comes between the steps of calls of `sync`, whenever no call holds the lock, the services
are as after the calls that had the lock, one after the other in the order in which they got it
(`Concurrent.syncs_serialize`). The invariant is that of the lock (`Concurrent.Lock`): while it is
free this holds; while a call has it, the call will come to what a sync from start to end would have
come to when the call got it. Steps of the call leave its verdict as it is, and nothing else reaches
what the verdict depends on. -/

namespace HostedNode

open Act Rpc

variable {σ β : Type}

namespace Live

variable [Backend σ β]

/-- The services after some syncs, one after the other. -/
def synced (l : Live σ β) (n : Nat) : Live σ β := l.run (List.replicate n .sync)

theorem synced_succ (l : Live σ β) (n : Nat) :
    l.synced (n + 1) = ((l.synced n).serve .sync).2 := by
  unfold synced run
  rw [List.replicate_succ', List.foldl_append]
  rfl

theorem services_synced {l : Live σ β} (hc : l.services.connected = true) (n : Nat) :
    (l.synced n).services.node = l.services.node ∧ (l.synced n).services.connected = true := by
  induction n with
  | zero => exact ⟨rfl, hc⟩
  | succ n ih =>
    obtain ⟨w', hserve, -⟩ := serve_sync ih.2
    rw [synced_succ, hserve]
    exact ih

end Live

namespace Concurrent

/-- The services are like those that were called one after the other. -/
structure Agrees (c : Concurrent σ β) (s : Live σ β) : Prop where
  storage : c.services.storage = s.services.storage
  store : c.world.store = s.world.store
  net : c.world.net = s.world.net
  events : c.world.events = s.world.events
  traffic : c.world.traffic = s.world.traffic

theorem agrees_of_sight {c : Concurrent σ β} {s : Live σ β}
    (hstorage : c.services.storage = s.services.storage)
    (hsight : c.world.sight = s.world.sight) : Agrees c s := by
  obtain ⟨hnet, hrest⟩ := Prod.mk.inj hsight
  obtain ⟨hstore, hrecord⟩ := Prod.mk.inj hrest
  refine ⟨hstorage, hstore, hnet, ?_, ?_⟩
  · rw [World.events_eq_record, World.events_eq_record, hrecord]
  · rw [World.traffic_eq_record, World.traffic_eq_record, hrecord]

variable [Backend σ β]

/-! ### The invariant -/

/-- The lock is free, and the services are as after the calls that had it, one after the other; or a
call has it, and will come to what a sync after the earlier ones comes to. -/
inductive Lock (l : Live σ β) (c : Concurrent σ β) : Prop where
  | free (holder : c.holder = none)
      (storage : c.services.storage = (l.synced c.acquired.length).services.storage)
      (sight : c.world.sight = (l.synced c.acquired.length).world.sight)
  | held {i : Nat} {earlier : List Nat} (holder : c.holder = some i)
      (acquired : c.acquired = earlier ++ [i]) (inSection : (c.calls i).InSection)
      (connected : l.services.connected = true)
      (verdict : verdict c.services c.world (c.calls i) =
        verdict (l.synced earlier.length).services (l.synced earlier.length).world .holding)

/-- A call that ended never had the lock, since the services were not connected; or its result is
that of the sync in its place. -/
def Replied (l : Live σ β) (acquired : List Nat) (j : Nat) (r : Except ServiceError Unit) : Prop :=
  (j ∉ acquired ∧ r = .error .notConnected) ∨
    ∃ k, acquired[k]? = some j ∧ Verdict.reply r = ((l.synced k).serve .sync).1

/-- What is known of the calls: those in the section hold the lock, those that were checked were
connected, and those that have not had the lock or have ended are accounted for. -/
structure Book (l : Live σ β) (holder : Option Nat) (acquired : List Nat) (calls : Nat → Phase) :
    Prop where
  passed : ∀ j, calls j = .waiting → l.services.connected = true
  outside : ∀ j, holder ≠ some j → ¬ (calls j).InSection
  fresh : ∀ j, calls j = .called ∨ calls j = .waiting → j ∉ acquired
  finished : ∀ j r, calls j = .finished r → Replied l acquired j r
  nodup : acquired.Nodup

/-- What holds at all times. -/
structure Inv (l : Live σ β) (c : Concurrent σ β) : Prop where
  node : c.services.node = l.services.node
  connected : c.services.connected = true → l.services.connected = true
  lock : Lock l c
  book : Book l c.holder c.acquired c.calls

variable {l : Live σ β} {c : Concurrent σ β} {i : Nat}

theorem inv_start (l : Live σ β) (patience : Option Nat) :
    Inv l (start l.services l.world patience) where
  node := rfl
  connected h := h
  lock := .free rfl rfl rfl
  book :=
    { passed := fun _ h => by cases h
      outside := fun _ _ h => h
      fresh := fun _ _ h => by cases h
      finished := fun _ _ h => by cases h
      nodup := .nil }

/-- A call in the section is the one that holds the lock. -/
theorem Inv.holder_of_inSection (h : Inv l c) (hi : (c.calls i).InSection) : c.holder = some i := by
  by_contra hne
  exact h.book.outside i hne hi

/-- A call in the section is the last one that got the lock, and what it will come to is what a
sync after the earlier ones comes to. -/
theorem Inv.of_inSection (h : Inv l c) (hi : (c.calls i).InSection) :
    c.holder = some i ∧ l.services.connected = true ∧
      ∃ earlier, c.acquired = earlier ++ [i] ∧ verdict c.services c.world (c.calls i) =
        verdict (l.synced earlier.length).services (l.synced earlier.length).world .holding := by
  have hholder := h.holder_of_inSection hi
  cases h.lock with
  | free hfree _ _ =>
    rw [hfree] at hholder
    cases hholder
  | @held i' earlier hheld hacquired _ hconn hv =>
    obtain rfl : i' = i := Option.some.inj (hheld.symm.trans hholder)
    exact ⟨hheld, hconn, earlier, hacquired, hv⟩

/-- A call comes to another phase, and may give the lock back. -/
theorem Book.setPhase {holder : Option Nat} {p : Phase}
    (h : Book l c.holder c.acquired c.calls) (hpassed : p = .waiting → l.services.connected = true)
    (houtside : holder ≠ some i → ¬ p.InSection) (hkeep : ∀ j, j ≠ i → holder ≠ some j →
      c.holder ≠ some j) (hfresh : p = .called ∨ p = .waiting → i ∉ c.acquired)
    (hfinished : ∀ r, p = .finished r → Replied l c.acquired i r) :
    Book l holder c.acquired (c.setPhase i p).calls := by
  constructor
  case passed =>
    intro j hj
    rcases calls_cases c i p j with ⟨-, hcalls⟩ | ⟨-, hcalls⟩
    · exact hpassed (hcalls.symm.trans hj)
    · exact h.passed j (hcalls.symm.trans hj)
  case outside =>
    intro j hj
    rcases calls_cases c i p j with ⟨rfl, hcalls⟩ | ⟨hne, hcalls⟩
    · rw [hcalls]
      exact houtside hj
    · rw [hcalls]
      exact h.outside j (hkeep j hne hj)
  case fresh =>
    intro j hj
    rcases calls_cases c i p j with ⟨rfl, hcalls⟩ | ⟨-, hcalls⟩
    · exact hfresh (hj.imp hcalls.symm.trans hcalls.symm.trans)
    · exact h.fresh j (hj.imp hcalls.symm.trans hcalls.symm.trans)
  case finished =>
    intro j r hj
    rcases calls_cases c i p j with ⟨rfl, hcalls⟩ | ⟨-, hcalls⟩
    · exact hfinished r (hcalls.symm.trans hj)
    · exact h.finished j r (hcalls.symm.trans hj)
  case nodup => exact h.nodup

/-- A call that waits gets the lock, which is free. -/
theorem Book.acquire (h : Book l none c.acquired c.calls) (hi : c.calls i = .waiting) :
    Book l (some i) (c.acquired ++ [i]) (c.setPhase i .holding).calls := by
  have hnotMem : i ∉ c.acquired := h.fresh i (Or.inr hi)
  constructor
  case passed =>
    intro j hj
    rcases calls_cases c i .holding j with ⟨-, hcalls⟩ | ⟨-, hcalls⟩
    · cases hcalls.symm.trans hj
    · exact h.passed j (hcalls.symm.trans hj)
  case outside =>
    intro j hj
    rcases calls_cases c i .holding j with ⟨rfl, -⟩ | ⟨-, hcalls⟩
    · exact absurd rfl hj
    · rw [hcalls]
      exact h.outside j (fun hnone => nomatch hnone)
  case fresh =>
    intro j hj hmem
    rcases calls_cases c i .holding j with ⟨-, hcalls⟩ | ⟨hne, hcalls⟩
    · rcases hj with hj | hj
      · cases hcalls.symm.trans hj
      · cases hcalls.symm.trans hj
    · rcases List.mem_append.mp hmem with hmem | hmem
      · exact h.fresh j (hj.imp hcalls.symm.trans hcalls.symm.trans) hmem
      · exact hne (List.mem_singleton.mp hmem)
  case finished =>
    intro j r hj
    rcases calls_cases c i .holding j with ⟨-, hcalls⟩ | ⟨hne, hcalls⟩
    · cases hcalls.symm.trans hj
    · rcases h.finished j r (hcalls.symm.trans hj) with ⟨hmem, hr⟩ | ⟨k, hk, hr⟩
      · refine Or.inl ⟨fun hmem' => ?_, hr⟩
        rcases List.mem_append.mp hmem' with hmem' | hmem'
        · exact hmem hmem'
        · exact hne (List.mem_singleton.mp hmem')
      · refine Or.inr ⟨k, ?_, hr⟩
        have hlt : k < c.acquired.length := (List.getElem?_eq_some_iff.mp hk).1
        rw [List.getElem?_append_left hlt]
        exact hk
  case nodup =>
    refine List.nodup_append.mpr ⟨h.nodup, List.nodup_singleton i, ?_⟩
    rintro a ha b hb rfl
    rw [List.mem_singleton] at hb
    exact hnotMem (hb ▸ ha)

/-- A step in the section that leaves the verdict as it is. -/
theorem Inv.inside (h : Inv l c) (hi : (c.calls i).InSection) (services : Services β)
    (world : World σ Disk) (dispatcher : Dispatcher) (p : Phase) (hp : p.InSection)
    (hnode : services.node = c.services.node)
    (hconnected : services.connected = c.services.connected)
    (hverdict : verdict services world p = verdict c.services c.world (c.calls i)) :
    Inv l { c.setPhase i p with services, world, dispatcher } := by
  obtain ⟨hholder, hconn, earlier, hacquired, hv⟩ := h.of_inSection hi
  constructor
  case node => exact hnode.trans h.node
  case connected => exact fun hc => h.connected (hconnected ▸ hc)
  case lock =>
    have hcalls : (c.setPhase i p).calls i = p := calls_setPhase_self c i p
    refine .held hholder hacquired ?_ hconn ?_
    · show ((c.setPhase i p).calls i).InSection
      rw [hcalls]
      exact hp
    · show HostedNode.verdict services world ((c.setPhase i p).calls i) = _
      rw [hcalls, hverdict, hv]
  case book =>
    refine h.book.setPhase ?_ (fun hne => absurd hholder hne) (fun _ _ hj => hj) ?_ ?_
    · rintro rfl
      exact hp.elim
    · rintro (rfl | rfl)
      · exact hp.elim
      · exact hp.elim
    · rintro r rfl
      exact hp.elim

/-- A call outside of the section does not matter to the lock. -/
theorem Lock.setPhase (h : Lock l c) (hi : ¬ (c.calls i).InSection) (p : Phase) :
    Lock l (c.setPhase i p) := by
  cases h with
  | free hfree hstorage hsight => exact .free hfree hstorage hsight
  | @held i' earlier hheld hacquired hsection hconn hv =>
    have hne : i' ≠ i := by
      rintro rfl
      exact hi hsection
    have hcalls : (c.setPhase i p).calls i' = c.calls i' := if_neg hne
    refine .held hheld hacquired ?_ hconn ?_
    · rw [hcalls]
      exact hsection
    · rw [hcalls]
      exact hv

/-! ### Steps of a call in the section -/

/-- Something done with the world in the section, if each of its outcomes leaves the verdict as it
is. -/
theorem Inv.performed {α : Type} (h : Inv l c) (hi : (c.calls i).InSection)
    {act : Act σ Disk ServiceError α} {next : α → Concurrent σ β → Concurrent σ β}
    (hok : ∀ a w', act.outcome c.world = (.ok a, w') → Inv l (next a { c with world := w' }))
    (herror : ∀ e w', act.outcome c.world = (.error e, w') →
      verdict c.services w' (.leaving (.error e)) = verdict c.services c.world (c.calls i)) :
    Inv l (c.perform i act next) := by
  rcases perform_cases c i act next with ⟨a, w', ho, hperform⟩ | ⟨e, w', ho, hperform⟩
  · rw [hperform]
    exact hok a w' ho
  · rw [hperform]
    exact h.inside hi c.services w' c.dispatcher (.leaving (.error e)) trivial rfl rfl
      (herror e w' ho)

theorem Inv.informed (h : Inv l c) {previous : Option NodeState}
    (hp : c.calls i = .informed previous) : Inv l (c.advance i) := by
  have hi : (c.calls i).InSection := by
    rw [hp]
    trivial
  unfold advance
  rw [hp]
  refine h.performed hi (fun state w' ho => ?_) fun e w' ho => ?_
  · refine h.inside hi c.services w' c.dispatcher (.pulled previous state) trivial rfl rfl ?_
    rw [hp]
    exact verdict_pull ho
  · rw [hp]
    exact verdict_unpulled ho

theorem Inv.pulled (h : Inv l c) {previous : Option NodeState} {state : NodeState}
    (hp : c.calls i = .pulled previous state) : Inv l (c.advance i) := by
  have hi : (c.calls i).InSection := by
    rw [hp]
    trivial
  unfold advance
  rw [hp]
  refine h.performed hi (fun storage w' ho => ?_) fun e w' ho => ?_
  · refine h.inside hi { c.services with storage } w' c.dispatcher
      (.raising state (Services.eventsOf previous state)) trivial rfl rfl ?_
    rw [hp]
    exact verdict_keep ho
  · rw [hp]
    exact verdict_unkept ho

theorem Inv.raising [BlindBackend σ β] (h : Inv l c) {state : NodeState} {es : List NodeEvent}
    (hp : c.calls i = .raising state es) : Inv l (c.advance i) := by
  have hi : (c.calls i).InSection := by
    rw [hp]
    trivial
  unfold advance
  rw [hp]
  cases es with
  | nil =>
    refine h.performed hi (fun u w' ho => ?_) fun e w' ho => ?_
    · refine h.inside hi c.services w' c.dispatcher (.leaving (.ok ())) trivial rfl rfl ?_
      rw [hp]
      exact verdict_announced c.services state ho
    · cases (Prod.mk.inj ho).1
  | cons e es =>
    obtain ⟨w', ho, -⟩ := outcome_raise (ε := ServiceError) c.dispatcher.broken e c.world
    dsimp only
    rw [perform_of_ok ho]
    refine h.inside hi c.services w' (c.dispatcher.raise e) (.raising state es) trivial rfl rfl ?_
    rw [hp]
    exact verdict_raise ho

/-- With the lock a call gives back, the services are as after one sync more. -/
theorem Inv.leaving (h : Inv l c) {r : Except ServiceError Unit}
    (hp : c.calls i = .leaving r) : Inv l (c.advance i) := by
  have hi : (c.calls i).InSection := by
    rw [hp]
    trivial
  obtain ⟨hholder, hconn, earlier, hacquired, hv⟩ := h.of_inSection hi
  rw [hp, verdict_leaving] at hv
  obtain ⟨w', hserve, hsight⟩ := Live.serve_sync (Live.services_synced hconn earlier.length).2
  rw [← hv] at hserve hsight
  have hlength : c.acquired.length = earlier.length + 1 := by
    rw [hacquired, List.length_append]
    rfl
  have hreplied : Replied l c.acquired i r := by
    refine Or.inr ⟨earlier.length, ?_, by rw [hserve]⟩
    rw [hacquired]
    exact List.getElem?_concat_length
  unfold advance
  rw [hp]
  constructor
  case node => exact h.node
  case connected => exact h.connected
  case lock =>
    refine .free rfl ?_ ?_
    · show c.services.storage = (l.synced c.acquired.length).services.storage
      rw [hlength, Live.synced_succ, hserve]
    · show c.world.sight = (l.synced c.acquired.length).world.sight
      rw [hlength, Live.synced_succ, hserve, hsight]
  case book =>
    refine h.book.setPhase Phase.noConfusion (fun _ => id) (fun j hne _ hj => hne ?_)
      (fun hp => hp.elim Phase.noConfusion Phase.noConfusion) fun r' hr' => ?_
    · exact Option.some.inj (hj.symm.trans hholder)
    · obtain rfl := Phase.finished.inj hr'
      exact hreplied

/-! ### Steps outside of the section -/

theorem ensureConnected_error {s : Services β} {e : ServiceError}
    (h : s.ensureConnected = .error e) : e = .notConnected := by
  unfold Services.ensureConnected at h
  split at h
  · cases h
  · exact (Except.error.inj h).symm

theorem connected_of_ensured {s : Services β} (h : s.ensureConnected = .ok ()) :
    s.connected = true := by
  unfold Services.ensureConnected at h
  split at h
  · assumption
  · cases h

theorem Inv.called (h : Inv l c) (hp : c.calls i = .called) : Inv l (c.advance i) := by
  have hnotMem : i ∉ c.acquired := h.book.fresh i (Or.inl hp)
  have hout : ¬ (c.calls i).InSection := by
    rw [hp]
    exact id
  unfold advance
  rw [hp]
  dsimp only
  cases hc : c.services.ensureConnected with
  | ok u =>
    have hconn : l.services.connected = true := h.connected (connected_of_ensured hc)
    refine ⟨h.node, h.connected, h.lock.setPhase hout _, ?_⟩
    exact h.book.setPhase (fun _ => hconn) (fun _ => id) (fun _ _ hj => hj) (fun _ => hnotMem)
      fun r hr => by cases hr
  | error e =>
    obtain rfl := ensureConnected_error hc
    refine ⟨h.node, h.connected, h.lock.setPhase hout _, ?_⟩
    refine h.book.setPhase Phase.noConfusion (fun _ => id) (fun _ _ hj => hj)
      (fun hp => hp.elim Phase.noConfusion Phase.noConfusion) fun r hr => ?_
    obtain rfl := Phase.finished.inj hr
    exact Or.inl ⟨hnotMem, rfl⟩

theorem Inv.waiting (h : Inv l c) (hp : c.calls i = .waiting) [BlindBackend σ β] :
    Inv l (c.advance i) := by
  have hconn : l.services.connected = true := h.book.passed i hp
  unfold advance
  rw [hp]
  dsimp only
  cases h.lock with
  | held hheld _ _ _ _ =>
    rw [hheld]
    exact h
  | free hfree hstorage hsight =>
    rw [hfree]
    have hbook := h.book
    rw [hfree] at hbook
    refine ⟨h.node, h.connected, ?_, hbook.acquire hp⟩
    have hcalls : (c.setPhase i .holding).calls i = .holding := calls_setPhase_self c i _
    have hnode := (Live.services_synced hconn c.acquired.length).1
    refine .held rfl rfl ?_ hconn ?_
    · show ((c.setPhase i .holding).calls i).InSection
      rw [hcalls]
      trivial
    · show verdict c.services c.world ((c.setPhase i .holding).calls i) = _
      rw [hcalls]
      exact verdict_congr (h.node.trans hnode.symm) hstorage hsight _

/-! ### All moves -/

variable [BlindBackend σ β]

theorem Inv.advance (h : Inv l c) (i : Nat) : Inv l (c.advance i) := by
  cases hp : c.calls i with
  | called => exact h.called hp
  | waiting => exact h.waiting hp
  | holding =>
    have hi : (c.calls i).InSection := by
      rw [hp]
      trivial
    unfold Concurrent.advance
    rw [hp]
    refine h.inside hi c.services c.world c.dispatcher
      (.informed c.services.storage.data.nodeState) trivial rfl rfl ?_
    rw [hp]
    exact verdict_holding _ _
  | informed previous => exact h.informed hp
  | pulled previous state => exact h.pulled hp
  | raising state es => exact h.raising hp
  | leaving r => exact h.leaving hp
  | finished r =>
    unfold Concurrent.advance
    rw [hp]
    exact h

theorem Inv.step (h : Inv l c) (m : Move) : Inv l (c.step m) := by
  cases m with
  | sync i => exact h.advance i
  | disconnect =>
    obtain ⟨services, world, hstep, hnode, hstorage, hconnected, hsight, -⟩ := step_disconnect c
    rw [hstep]
    refine ⟨hnode.trans h.node, fun hc => ?_, ?_, h.book⟩
    · rw [show services.connected = true from hc] at hconnected
      cases hconnected
    · cases h.lock with
      | free hfree hs hw => exact .free hfree (hstorage.trans hs) (hsight.trans hw)
      | held hheld hacquired hsection hconn hv =>
        exact .held hheld hacquired hsection hconn
          ((verdict_congr hnode hstorage hsight _).trans hv)
  | deliver =>
    refine ⟨h.node, h.connected, ?_, h.book⟩
    cases h.lock with
    | free hfree hs hw => exact .free hfree hs hw
    | held hheld hacquired hsection hconn hv => exact .held hheld hacquired hsection hconn hv

theorem Inv.run (h : Inv l c) (ms : List Move) : Inv l (c.run ms) :=
  run_preserves (Inv l) (fun _ m h => h.step m) h ms

/-! ### The result -/

/-- Calls at the same time are like calls one after the other. -/
structure Serialized (l : Live σ β) (c : Concurrent σ β) : Prop where
  free : c.holder = none → Agrees c (l.run (c.acquired.map fun _ => .sync))
  once : c.acquired.Nodup
  exclusive : ∀ i j, (c.calls i).InSection → (c.calls j).InSection → i = j
  replies : ∀ j r, c.calls j = .finished r → Replied l c.acquired j r
  delivered : Delivers l.world.events c
  /-- A delivery brings the listener the oldest event that it has not received. -/
  next : ∀ e rest, c.dispatcher.broken = false → c.dispatcher.patience ≠ some 0 →
    c.dispatcher.queued = e :: rest →
    (c.step .deliver).dispatcher.received = c.dispatcher.received ++ [e] ∧
      (c.step .deliver).dispatcher.queued = rest
  breaks : ∀ e rest, c.dispatcher.broken = false → c.dispatcher.patience = some 0 →
    c.dispatcher.queued = e :: rest →
    (c.step .deliver).dispatcher.received = c.dispatcher.received ∧
      (c.step .deliver).dispatcher.broken = true
  /-- A listener that does not break down receives all, once there are deliveries enough. -/
  drained : c.dispatcher.patience = none → ∀ n, c.dispatcher.queued.length ≤ n →
    l.world.events ++ (c.run (List.replicate n .deliver)).dispatcher.received = c.world.events

/-- A call that is checked after a disconnect never has the lock, and its only step, which changes
nothing else, ends it. -/
structure TurnedAway (c : Concurrent σ β) (after : List Move) (i : Nat) : Prop where
  late : Late c i
  refused : c.calls i = .called →
    c.step (.sync i) = c.setPhase i (.finished (.error .notConnected))
  ended : .sync i ∈ after → c.calls i = .finished (.error .notConnected)

/-- **Syncs at the same time are syncs one after the other.** For any number of calls and
disconnects, and any order of their steps and of the deliveries: whenever the lock is free, the
storage, the document, the net, the events raised and the calls made are those of the syncs that had
the lock, run one after the other in the order in which they got it, and each of them has ended with
the result that it has there. What the listener has received is always a first part of what was
raised, and the rest is in the queue unless the listener broke down; each delivery brings it the
oldest event in the queue. A call that is checked after a disconnect fails, never has the lock, and
asks the node nothing. -/
theorem syncs_serialize [QuietBackend σ β] (l : Live σ β) (patience : Option Nat)
    (moves : List Move) :
    Serialized l ((start l.services l.world patience).run moves) ∧
    ∀ before after i, moves = before ++ .disconnect :: after →
      ((start l.services l.world patience).run before).calls i = .called →
      TurnedAway ((start l.services l.world patience).run moves) after i := by
  refine ⟨?_, fun before after i hmoves hcalled => ?_⟩
  · have hinv := (inv_start l patience).run moves
    have hstart : Delivers l.world.events (start l.services l.world patience) :=
      ⟨[], (List.append_nil _).symm, Dispatcher.tells_ofPatience patience⟩
    constructor
    case free =>
      intro hholder
      have hmap : (((start l.services l.world patience).run moves).acquired.map fun _ =>
          ServiceRequest.sync) = List.replicate
            ((start l.services l.world patience).run moves).acquired.length .sync :=
        List.map_const'
      rw [hmap]
      cases hinv.lock with
      | free _ hstorage hsight => exact agrees_of_sight hstorage hsight
      | held hheld _ _ _ _ =>
        rw [hheld] at hholder
        cases hholder
    case once => exact hinv.book.nodup
    case exclusive =>
      intro i j hi hj
      have hheld := hinv.holder_of_inSection hi
      exact Option.some.inj (hheld.symm.trans (hinv.holder_of_inSection hj))
    case replies => exact hinv.book.finished
    case delivered => exact hstart.run moves
    case next =>
      intro e rest hb hp hq
      have hdeliver := Dispatcher.deliver_cons hb hp hq
      exact ⟨congrArg Dispatcher.received hdeliver, congrArg Dispatcher.queued hdeliver⟩
    case breaks =>
      intro e rest hb hp hq
      have hbreaks := Dispatcher.deliver_impatient hb hp hq
      have hreceived := congrArg Dispatcher.received hbreaks
      exact ⟨hreceived, congrArg Dispatcher.broken hbreaks⟩
    case drained => exact fun hp n hn => (hstart.run moves).drained hp hn
  · have hinv := (inv_start l patience).run before
    have hsplit : (start l.services l.world patience).run moves =
        ((((start l.services l.world patience).run before).step .disconnect).run after) := by
      rw [hmoves]
      unfold run
      rw [List.foldl_append]
      rfl
    have hlate : Late (((start l.services l.world patience).run before).step .disconnect) i := by
      obtain ⟨services, world, hstep, -, -, hdisconnected, -, -⟩ :=
        step_disconnect ((start l.services l.world patience).run before)
      rw [hstep]
      exact ⟨hdisconnected, Or.inl hcalled, hinv.book.fresh i (Or.inl hcalled)⟩
    rw [hsplit]
    exact ⟨hlate.run after, (hlate.run after).refused, hlate.ended_run⟩

/-- Services over an empty directory, with a stand-in that is at two heights one after the other. -/
def crossing : Live StandIn.Answers StandIn where
  services := ⟨⟨"02ab"⟩, ⟨"d", ⟨none, none⟩⟩, true⟩
  world :=
    { net := [(StandIn.address, [("pull",
        [.ok (Json.toJson { NodeState.empty with blockHeight := 7 }),
          .ok (Json.toJson { NodeState.empty with blockHeight := 8 })])])]
      store := Storage.emptyDisk }

/-- Two calls ask for the lock before the services are disconnected, and a third one comes too
late. -/
def crossingMoves : List Move :=
  [.sync 0, .sync 1, .sync 1, .sync 0, .sync 1] ++
    .disconnect :: (.sync 2 :: List.replicate 5 (.sync 1) ++ .deliver ::
      List.replicate 3 (.sync 1) ++ .deliver :: List.replicate 9 (.sync 0) ++ [.deliver, .deliver])

/-- Where these moves lead, if the listener breaks down over its fourth event. -/
def crossed : Concurrent StandIn.Answers StandIn :=
  (start crossing.services crossing.world (some 3)).run crossingMoves

theorem crossing_serialized :
    crossed.holder = none ∧ crossed.acquired = [1, 0] ∧
    Agrees crossed (crossing.run [.sync, .sync]) ∧
    crossed.calls 2 = .finished (.error .notConnected) ∧
    crossed.dispatcher.received = [.newBlock 7,
      .nodeStateChanged { NodeState.empty with blockHeight := 7 }, .synced] ∧
    crossed.dispatcher.broken = true ∧
    crossed.world.events = crossed.dispatcher.received ++ [.newBlock 8,
      .nodeStateChanged { NodeState.empty with blockHeight := 8 }, .synced] := by
  have hholder : crossed.holder = none := by decide +kernel
  have hacquired : crossed.acquired = [1, 0] := by decide +kernel
  obtain ⟨hserialized, hlate⟩ := syncs_serialize crossing (some 3) crossingMoves
  have hagrees := hserialized.free hholder
  rw [show ((start crossing.services crossing.world (some 3)).run crossingMoves).acquired = [1, 0]
    from hacquired] at hagrees
  refine ⟨hholder, hacquired, hagrees, (hlate _ _ 2 rfl rfl).ended (List.mem_cons_self ..), ?_⟩
  decide +kernel

end Concurrent

end HostedNode

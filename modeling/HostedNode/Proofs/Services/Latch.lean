import HostedNode.Proofs.Rpc.Script
import HostedNode.Proofs.Services.Ownership

/-! # Disconnecting is for good

Services that were built are connected. Their first disconnect succeeds and every later one is
refused; once disconnected, no sync and no command gets to the node any more, and nothing is kept and
nothing is raised (`Live.Latched`). What carries this is that a request to disconnected services,
unless it is one to sign or to check, leaves everything as it is (`Live.serve_idle`).

Signing and checking go on as if nothing had happened. They rest on a part of the net that nothing
else touches (`SteadySigning`), so a run gives the same signatures and verdicts as the same run
without its disconnects (`Live.attestations_filter`). -/

namespace HostedNode

open Act Json Rpc

/-! ### Steps that rest on a part of the net -/

namespace Act

variable {σ κ ε α β γ : Type} {part : σ → γ}

/-- What a step comes to, and what becomes of a part of the net, depends on this part alone. -/
def RestsOn (part : σ → γ) (act : Act σ κ ε α) : Prop :=
  ∀ w w' : World σ κ, part w.net = part w'.net →
    (act.outcome w).1 = (act.outcome w').1 ∧
      part (act.outcome w).2.net = part (act.outcome w').2.net

theorem restsOn_ofExcept (r : Except ε α) : RestsOn part (ofExcept r : Act σ κ ε α) := by
  intro w w' h
  rw [outcome_ofExcept, outcome_ofExcept]
  exact ⟨rfl, h⟩

theorem restsOn_pure (a : α) : RestsOn part (pure a : Act σ κ ε α) := fun _ _ h => ⟨rfl, h⟩

theorem restsOn_bind {act : Act σ κ ε α} {f : α → Act σ κ ε β} (h : RestsOn part act)
    (hf : ∀ a, RestsOn part (f a)) : RestsOn part (act >>= f) := by
  intro w w' hw
  obtain ⟨hresult, hpart⟩ := h w w' hw
  rw [outcome_bind, outcome_bind]
  rcases ho : act.outcome w with ⟨r, v⟩
  rcases ho' : act.outcome w' with ⟨r', v'⟩
  rw [ho, ho'] at hresult hpart
  obtain rfl : r = r' := hresult
  cases r with
  | error e => exact ⟨rfl, hpart⟩
  | ok a => exact hf a v v' hpart

theorem restsOn_mapError {ε' : Type} {act : Act σ κ ε α} (f : ε → ε') (h : RestsOn part act) :
    RestsOn part (mapError f act) := by
  intro w w' hw
  obtain ⟨hresult, hpart⟩ := h w w' hw
  rw [outcome_mapError, outcome_mapError]
  exact ⟨congrArg (Except.mapError f) hresult, hpart⟩

/-- The view of a part of the net. -/
def netView (part : σ → γ) (w : World σ κ) : γ := part w.net

theorem keeps_note_net (h : Happening) :
    Keeps (netView part) (note h : Act σ κ ε Unit) := fun _ => rfl

theorem keeps_onStore_net (f : EStateM ε κ α) :
    Keeps (netView part) (onStore f : Act σ κ ε α) := fun w => by
  rw [outcome_onStore]
  rfl

theorem keeps_raiseAll_net (es : List NodeEvent) :
    Keeps (netView part) (raiseAll es : Act σ κ ε Unit) := by
  induction es with
  | nil => exact keeps_pure ()
  | cons e es ih =>
    have hraise : Keeps (netView part) (raise false e : Act σ κ ε Unit) :=
      keeps_bind (keeps_note_net _) fun _ =>
        keeps_bind (keeps_note_net _) fun _ => keeps_pure ()
    exact keeps_bind hraise fun _ => ih

end Act

/-- Backends that sign and check by a part of the net that nothing else touches. -/
class SteadySigning (σ β : Type) [Backend σ β] where
  Part : Type
  part : σ → Part
  sign : ∀ (n : β) (message : String),
    RestsOn part (Backend.sign n message : Act σ Disk NodeError String)
  check : ∀ (n : β) (message key signature : String),
    RestsOn part (Backend.check n message key signature : Act σ Disk NodeError Bool)
  pull : ∀ n : β, Keeps (netView part) (Backend.pull n : Act σ Disk NodeError NodeState)
  command : ∀ (n : β) (text : String),
    Keeps (netView part) (Backend.command n text : Act σ Disk NodeError String)

/-- The part of the net that backends of a kind sign by. -/
def signingPart (σ β : Type) [Backend σ β] [SteadySigning σ β] : σ → SteadySigning.Part σ β :=
  SteadySigning.part

/-- A hosted node signs and checks by itself. -/
instance {σ : Type} [Net σ] : SteadySigning σ Node where
  Part := Unit
  part _ := ()
  sign _ _ := restsOn_pure _
  check _ _ _ _ := restsOn_ofExcept _
  pull _ _ := Subsingleton.elim _ _
  command _ _ _ := Subsingleton.elim _ _

namespace StandIn

/-- The answers that are left to requests to sign and to check. -/
def signingAnswers (net : Answers) :
    List (Except NodeError Json) × List (Except NodeError Json) :=
  (net.replies address "sign", net.replies address "check")

theorem net_answer {κ : Type} (question : String) (args : List String) (w : World Answers κ) :
    ((answer question args : Act Answers κ NodeError Json).outcome w).2.net =
      (w.net.take address question).2 := by
  unfold outcome answer
  rcases w.net.take address question with ⟨_ | _ | _, net⟩ <;> rfl

theorem result_answer {κ : Type} (question : String) (args : List String) (w : World Answers κ) :
    ((answer question args : Act Answers κ NodeError Json).outcome w).1 =
      ((w.net.replies address question).head?.getD
        (.error (.generic ("unscripted " ++ question)))) := by
  rw [← ScriptOf.take_fst]
  unfold outcome answer
  rcases w.net.take address question with ⟨_ | _ | _, net⟩ <;> rfl

/-- Answering one of the two questions rests on the answers that are left to them. -/
theorem restsOn_answer {κ : Type} {question : String} (hq : question = "sign" ∨ question = "check")
    (args : List String) :
    RestsOn signingAnswers (answer question args : Act Answers κ NodeError Json) := by
  intro w w' h
  obtain ⟨hsign, hcheck⟩ := Prod.mk.inj h
  have hother : ∀ (net : Answers) {q q' : String}, q' ≠ q →
      (net.take address q).2.replies address q' = net.replies address q' :=
    fun net _ _ hne => ScriptOf.replies_take_of_ne net (Or.inr hne)
  unfold signingAnswers
  simp only [net_answer, result_answer]
  rcases hq with rfl | rfl
  · refine ⟨by rw [hsign], Prod.ext ?_ ?_⟩
    · simp only [ScriptOf.replies_take_self, hsign]
    · simp only [hother _ (show "check" ≠ "sign" by decide), hcheck]
  · refine ⟨by rw [hcheck], Prod.ext ?_ ?_⟩
    · simp only [hother _ (show "sign" ≠ "check" by decide), hsign]
    · simp only [ScriptOf.replies_take_self, hcheck]

theorem restsOn_answerAs (α : Type) [Coded α] {κ : Type} {question : String}
    (hq : question = "sign" ∨ question = "check") (args : List String) :
    RestsOn signingAnswers (answerAs α question args : Act Answers κ NodeError α) :=
  restsOn_bind (restsOn_answer hq args) fun _ => restsOn_ofExcept _

/-- Answering another question leaves the answers to them. -/
theorem keeps_answerAs_net (α : Type) [Coded α] {κ : Type} {question : String}
    (hs : "sign" ≠ question) (hc : "check" ≠ question) (args : List String) :
    Keeps (netView signingAnswers) (answerAs α question args : Act Answers κ NodeError α) := by
  refine keeps_bind (fun w => ?_) fun _ => keeps_ofExcept _
  unfold netView signingAnswers
  rw [net_answer, ScriptOf.replies_take_of_ne _ (Or.inr hs),
    ScriptOf.replies_take_of_ne _ (Or.inr hc)]

instance : SteadySigning Answers StandIn where
  Part := List (Except NodeError Json) × List (Except NodeError Json)
  part := signingAnswers
  sign _ _ := restsOn_answerAs String (Or.inl rfl) _
  check _ _ _ _ := restsOn_answerAs Bool (Or.inr rfl) _
  pull _ := keeps_answerAs_net NodeState (by decide) (by decide) _
  command _ _ := keeps_answerAs_net String (by decide) (by decide) _

end StandIn

/-- A request to sign or to check. -/
def ServiceRequest.isSigning : ServiceRequest → Bool
  | .sign _ => true
  | .check _ => true
  | _ => false

/-- A request to disconnect. -/
def ServiceRequest.isDisconnect : ServiceRequest → Bool
  | .disconnect => true
  | _ => false

namespace Live

variable {σ β : Type}

theorem world_settle (s : Services β) (out : Except ServiceError (Services β) × World σ Disk) :
    (settle s out).2.world = out.2 := by
  rcases out with ⟨_ | _, _⟩ <;> rfl

theorem world_answered {α : Type} (s : Services β) (reply : α → ServiceReply)
    (out : Except ServiceError α × World σ Disk) : (answered s reply out).2.world = out.2 := by
  rcases out with ⟨_ | _, _⟩ <;> rfl

/-- The reply to a question depends on the result alone. -/
theorem answered_congr {α : Type} (s s' : Services β) (reply : α → ServiceReply)
    {out out' : Except ServiceError α × World σ Disk} (h : out.1 = out'.1) :
    (answered s reply out).1 = (answered s' reply out').1 := by
  rcases out with ⟨r, w⟩
  rcases out' with ⟨r', w'⟩
  obtain rfl : r = r' := h
  cases r <;> rfl

variable [Backend σ β] {l l' : Live σ β}

/-! ### Connected or not -/

theorem ensureConnected_eq (s : Services β) :
    s.ensureConnected = if s.connected then .ok () else .error .notConnected := rfl

/-- Disconnecting connected services. -/
theorem serve_disconnect_connected (h : l.services.connected = true) :
    l.serve .disconnect = (.done, ⟨{ l.services with connected := false },
      l.world.note (.logged (.of .info
        ("disconnected from node " ++ Backend.nodeId σ l.services.node)))⟩) := by
  have hconn : l.services.ensureConnected = .ok () := by rw [ensureConnected_eq, if_pos h]
  simp only [serve, Services.disconnect, outcome_bind, outcome_ofExcept, hconn]
  rfl

/-- **Disconnected services refuse what needs the node, and do nothing at all.** -/
theorem serve_refused (h : l.services.connected = false) :
    l.serve .disconnect = (.failed .notConnected, l) ∧
      l.serve .sync = (.failed .notConnected, l) ∧
      ∀ text, l.serve (.command text) = (.failed .notConnected, l) := by
  have hrefused : l.services.ensureConnected = .error .notConnected := by
    rw [ensureConnected_eq, h]
    rfl
  refine ⟨?_, ?_, fun text => ?_⟩
  · simp only [serve, Services.disconnect, outcome_bind, outcome_ofExcept, hrefused]
    rfl
  · simp only [serve, Services.sync, outcome_bind, outcome_ofExcept, hrefused]
    rfl
  · simp only [serve, Services.command, outcome_bind, outcome_ofExcept, hrefused]
    rfl

theorem serve_tellState {s : NodeState} (h : l.services.nodeInfo = .ok s) :
    l.serve .tellState = (.state s, l) := by
  rw [serve, h]
  rfl

/-- Of the requests to disconnected services only those to sign and to check do anything. -/
theorem serve_idle (h : l.services.connected = false) {r : ServiceRequest}
    (hr : r.isSigning = false) : (l.serve r).2 = l := by
  obtain ⟨hdisconnect, hsync, hcommand⟩ := serve_refused h
  cases r with
  | sync => rw [hsync]
  | disconnect => rw [hdisconnect]
  | command text => rw [hcommand]
  | tellState =>
    unfold serve answered
    cases l.services.nodeInfo <;> rfl
  | sign r => cases hr
  | check r => cases hr

/-! ### Runs of disconnected services -/

theorem run_append (l : Live σ β) (rs rs' : List ServiceRequest) :
    l.run (rs ++ rs') = (l.run rs).run rs' := List.foldl_append

section

variable [QuietBackend σ β]

/-- What requests to disconnected services leave as it is. -/
structure Rests (l l' : Live σ β) : Prop where
  services : l'.services = l.services
  store : l'.world.store = l.world.store
  events : l'.world.events = l.world.events

theorem rests_serve (h : l.services.connected = false) (r : ServiceRequest) :
    Rests l (l.serve r).2 := by
  cases hr : r.isSigning with
  | false =>
    rw [serve_idle h hr]
    exact ⟨rfl, rfl, rfl⟩
  | true =>
    have hne : r ≠ .sync := by
      rintro rfl
      cases hr
    refine ⟨?_, store_serve l hne, (still_serve l hne).events⟩
    cases r with
    | sign r => exact services_answered _ _ _
    | check r => exact services_answered _ _ _
    | _ => cases hr

theorem rests_run (h : l.services.connected = false) (rs : List ServiceRequest) :
    Rests l (l.run rs) := by
  induction rs generalizing l with
  | nil => exact ⟨rfl, rfl, rfl⟩
  | cons r rs ih =>
    have hstep := rests_serve h r
    have hoff : (l.serve r).2.services.connected = false := by rw [hstep.services, h]
    have hrest := ih hoff
    exact ⟨hrest.services.trans hstep.services, hrest.store.trans hstep.store,
      hrest.events.trans hstep.events⟩

/-- A run of disconnected services is the run of the requests to sign and to check in it. -/
theorem run_filter_signing (h : l.services.connected = false) (rs : List ServiceRequest) :
    l.run rs = l.run (rs.filter ServiceRequest.isSigning) := by
  induction rs generalizing l with
  | nil => rfl
  | cons r rs ih =>
    cases hr : r.isSigning with
    | false =>
      rw [List.filter_cons_of_neg (by simp [hr])]
      show (l.serve r).2.run rs = _
      rw [serve_idle h hr]
      exact ih h
    | true =>
      have hoff : (l.serve r).2.services.connected = false := by
        rw [(rests_serve h r).services, h]
      rw [List.filter_cons_of_pos hr]
      exact ih hoff

/-- As long as nobody disconnects, services that are connected stay so. -/
theorem connected_serve {r : ServiceRequest} (hr : r ≠ .disconnect) :
    (l.serve r).2.services.connected = l.services.connected := by
  cases r with
  | disconnect => exact absurd rfl hr
  | sync =>
    rcases l.services.sync_cases l.world with ⟨e, w', hsync, -⟩ | ⟨state, w1, w', -, hsync, -⟩
    · unfold serve
      rw [hsync]
      rfl
    · unfold serve
      rw [hsync]
      rfl
  | tellState => exact congrArg Services.connected (services_answered _ _ _)
  | sign r => exact congrArg Services.connected (services_answered _ _ _)
  | check r => exact congrArg Services.connected (services_answered _ _ _)
  | command text => exact congrArg Services.connected (services_answered _ _ _)

theorem connected_run {rs : List ServiceRequest} (hrs : .disconnect ∉ rs) :
    (l.run rs).services.connected = l.services.connected := by
  induction rs generalizing l with
  | nil => rfl
  | cons r rs ih =>
    have hne : r ≠ .disconnect := fun h => hrs (h ▸ List.mem_cons_self)
    have hrest : .disconnect ∉ rs := fun h => hrs (List.mem_cons_of_mem r h)
    exact (ih hrest).trans (connected_serve hne)

end

/-! ### Signatures and verdicts -/

/-- The replies to requests to sign and to check in a run, in order. -/
def attestations (l : Live σ β) : List ServiceRequest → List ServiceReply
  | [] => []
  | r :: rs =>
    (if r.isSigning then [(l.serve r).1] else []) ++ attestations (l.serve r).2 rs

section

variable [SteadySigning σ β]

/-- Both have the same node, and the same part of the net for signing. -/
structure SignAlike (l l' : Live σ β) : Prop where
  node : l'.services.node = l.services.node
  part : signingPart σ β l'.world.net = signingPart σ β l.world.net

theorem SignAlike.trans {l'' : Live σ β} (h : SignAlike l l') (h' : SignAlike l' l'') :
    SignAlike l l'' := ⟨h'.node.trans h.node, h'.part.trans h.part⟩

theorem SignAlike.symm (h : SignAlike l l') : SignAlike l' l := ⟨h.node.symm, h.part.symm⟩

variable [QuietBackend σ β]

/-- What is no request to sign or to check does not touch the part for signing. -/
theorem signAlike_serve {r : ServiceRequest} (hr : r.isSigning = false) :
    SignAlike l (l.serve r).2 := by
  have hpull : Keeps (netView (signingPart σ β)) (l.services.sync :
      Act σ Disk ServiceError (Services β)) :=
    keeps_bind (keeps_ofExcept _) fun _ =>
      keeps_bind (keeps_mapError _ (SteadySigning.pull _)) fun _ =>
        keeps_bind (keeps_mapError _ (keeps_onStore_net _)) fun _ =>
          keeps_bind (keeps_raiseAll_net _) fun _ =>
            keeps_bind (keeps_note_net _) fun _ => keeps_pure _
  have hdisconnect : Keeps (netView (signingPart σ β)) (l.services.disconnect :
      Act σ Disk ServiceError (Services β)) :=
    keeps_bind (keeps_ofExcept _) fun _ => keeps_bind (keeps_note_net _) fun _ => keeps_pure _
  have hcommand : ∀ text, Keeps (netView (signingPart σ β)) (l.services.command text :
      Act σ Disk ServiceError String) := fun text =>
    keeps_bind (keeps_ofExcept _) fun _ => keeps_mapError _ (SteadySigning.command _ _)
  refine ⟨node_serve l r, ?_⟩
  cases r with
  | sync =>
    rw [serve, world_settle]
    exact hpull l.world
  | disconnect =>
    rw [serve, world_settle]
    exact hdisconnect l.world
  | tellState => rw [serve, world_answered]
  | command text =>
    rw [serve, world_answered]
    exact hcommand text l.world
  | sign r => cases hr
  | check r => cases hr

/-- A request to sign or to check gets the same reply, whatever else is different. -/
theorem SignAlike.serve (h : SignAlike l l') {r : ServiceRequest} (hr : r.isSigning = true) :
    (l.serve r).1 = (l'.serve r).1 ∧ SignAlike (l.serve r).2 (l'.serve r).2 := by
  have hnode : (l'.serve r).2.services.node = (l.serve r).2.services.node := by
    rw [node_serve, node_serve, h.node]
  cases r with
  | sign r =>
    have hsign : RestsOn (signingPart σ β) (l.services.signMessage r :
        Act σ Disk ServiceError SignMessageResponse) :=
      restsOn_bind (restsOn_mapError _ (SteadySigning.sign _ _)) fun _ => restsOn_pure _
    obtain ⟨hresult, hpart⟩ := hsign l.world l'.world h.part.symm
    have hsame : (l'.services.signMessage r : Act σ Disk ServiceError _) =
        l.services.signMessage r := by
      rw [Services.signMessage, Services.signMessage, h.node]
    refine ⟨?_, hnode, ?_⟩
    · rw [Live.serve, Live.serve, hsame]
      exact answered_congr _ _ _ hresult
    · rw [Live.serve, Live.serve, world_answered, world_answered, hsame]
      exact hpart.symm
  | check r =>
    have hcheck : RestsOn (signingPart σ β) (l.services.checkMessage r :
        Act σ Disk ServiceError CheckMessageResponse) :=
      restsOn_bind (restsOn_mapError _ (SteadySigning.check _ _ _ _)) fun _ => restsOn_pure _
    obtain ⟨hresult, hpart⟩ := hcheck l.world l'.world h.part.symm
    have hsame : (l'.services.checkMessage r : Act σ Disk ServiceError _) =
        l.services.checkMessage r := by
      rw [Services.checkMessage, Services.checkMessage, h.node]
    refine ⟨?_, hnode, ?_⟩
    · rw [Live.serve, Live.serve, hsame]
      exact answered_congr _ _ _ hresult
    · rw [Live.serve, Live.serve, world_answered, world_answered, hsame]
      exact hpart.symm
  | _ => cases hr

theorem SignAlike.attestations (h : SignAlike l l') (rs : List ServiceRequest) :
    l.attestations rs = l'.attestations (rs.filter (!·.isDisconnect)) := by
  induction rs generalizing l l' with
  | nil => rfl
  | cons r rs ih =>
    cases hr : r.isSigning with
    | true =>
      have hstay : (r :: rs).filter (!·.isDisconnect) = r :: rs.filter (!·.isDisconnect) := by
        refine List.filter_cons_of_pos ?_
        cases r with
        | disconnect => cases hr
        | _ => rfl
      obtain ⟨hreply, hnext⟩ := h.serve hr
      rw [hstay, Live.attestations, Live.attestations, if_pos hr, if_pos hr, hreply, ih hnext]
    | false =>
      have hmoved := (signAlike_serve (l := l) hr).symm.trans h
      cases hd : r.isDisconnect with
      | true =>
        rw [List.filter_cons_of_neg (by simp [hd]), Live.attestations, if_neg (by simp [hr]),
          List.nil_append]
        exact ih hmoved
      | false =>
        have hboth := hmoved.trans (signAlike_serve hr)
        rw [List.filter_cons_of_pos (by simp [hd]), Live.attestations, Live.attestations,
          if_neg (by simp [hr]), if_neg (by simp [hr]), List.nil_append, List.nil_append]
        exact ih hboth

/-- **A run gives the signatures and verdicts of the same run without its disconnects.** -/
theorem attestations_filter (l : Live σ β) (rs : List ServiceRequest) :
    l.attestations rs = l.attestations (rs.filter (!·.isDisconnect)) :=
  SignAlike.attestations ⟨rfl, rfl⟩ rs

end

/-! ### Services that were built -/

section

variable [QuietBackend σ β]

/-- Services that were built are connected. -/
theorem connected_of_build {acquire : Act σ Workspace NodeError β}
    (hacquire : Keeps Services.cacheAndEvents acquire) {config : Config} {seed : Bytes}
    {given : Option Storage} {w w' : World σ Disk} {s : Services β}
    (h : (Services.build acquire config seed given).outcome w = (.ok s, w')) :
    s.connected = true := by
  obtain ⟨opened, w1, -, before, w2, w3, -, hsync, -, -⟩ := Services.build_ok hacquire h
  have hconnected : before.connected = true := by
    cases hc : before.connected with
    | true => rfl
    | false =>
      have hrefused : before.ensureConnected = .error .notConnected := by
        rw [ensureConnected_eq, hc]
        rfl
      rw [Services.sync, outcome_bind, outcome_ofExcept, hrefused] at hsync
      cases (Prod.mk.inj hsync).1
  rcases before.sync_cases w2 with ⟨e, v, hfails, -⟩ | ⟨state, v, v', -, hkeeps, -⟩
  · rw [hfails] at hsync
    cases (Prod.mk.inj hsync).1
  · rw [hkeeps] at hsync
    obtain rfl := Except.ok.inj (Prod.mk.inj hsync).1
    exact hconnected

/-- Services that were disconnected in one moment, at a later one: what needs the node is refused
and does nothing, the state told is still the same, and so are all that is kept and all events. -/
structure Latched (s : NodeState) (before l : Live σ β) : Prop where
  disconnect : l.serve .disconnect = (.failed .notConnected, l)
  sync : l.serve .sync = (.failed .notConnected, l)
  command : ∀ text, l.serve (.command text) = (.failed .notConnected, l)
  state : l.serve .tellState = (.state s, l)
  storage : l.services.storage = before.services.storage
  store : l.world.store = before.world.store
  events : l.world.events = before.world.events

/-- The first disconnect succeeds, and latches. -/
theorem latched_of_connected (hl : l.services.connected = true) {s : NodeState}
    (hs : l.services.nodeInfo = .ok s) (post : List ServiceRequest) :
    (l.serve .disconnect).1 = .done ∧ Latched s l ((l.serve .disconnect).2.run post) := by
  have hserve := serve_disconnect_connected hl
  have hstill := still_disconnect l
  have hoff : (l.serve .disconnect).2.services.connected = false := by rw [hserve]
  have hrests := rests_run hoff post
  have hlater : ((l.serve .disconnect).2.run post).services.connected = false := by
    rw [hrests.services, hoff]
  have hstorage : ((l.serve .disconnect).2.run post).services.storage = l.services.storage := by
    rw [hrests.services, hstill.storage]
  have hstate : ((l.serve .disconnect).2.run post).services.nodeInfo = .ok s := by
    rw [hrests.services, hstill.state, hs]
  obtain ⟨hdisconnect, hsync, hcommand⟩ := serve_refused hlater
  refine ⟨by rw [hserve], hdisconnect, hsync, hcommand, serve_tellState hstate, hstorage, ?_, ?_⟩
  · exact hrests.store.trans (serve_disconnect l).2
  · exact hrests.events.trans hstill.events

/-- Disconnecting is for good, for services that are built with a node got in this way. -/
def LatchesWith (acquire : Act σ Workspace NodeError β) : Prop :=
  ∀ (config : Config) (seed : Bytes) (given : Option Storage) (w w' : World σ Disk)
    (services : Services β),
    (Services.build acquire config seed given).outcome w = (.ok services, w') →
    ∃ before first, Synced before first ⟨services, w'⟩ ∧
      (∀ pre post : List ServiceRequest, .disconnect ∉ pre →
        ((run ⟨services, w'⟩ pre).serve .disconnect).1 = .done ∧
          Latched (lastSynced first ⟨services, w'⟩ pre) (run ⟨services, w'⟩ pre)
            (run ⟨services, w'⟩ (pre ++ .disconnect :: post)) ∧
          run ⟨services, w'⟩ (pre ++ .disconnect :: post) =
            run ⟨services, w'⟩ (pre ++ .disconnect :: post.filter ServiceRequest.isSigning)) ∧
      ∀ rs, attestations ⟨services, w'⟩ rs =
        attestations ⟨services, w'⟩ (rs.filter (!·.isDisconnect))

theorem latchesWith_of_keeps [SteadySigning σ β] {acquire : Act σ Workspace NodeError β}
    (hacquire : Keeps Services.cacheAndEvents acquire) : LatchesWith acquire := by
  intro config seed given w w' services h
  obtain ⟨opened, -, first, -, hbegan, -⟩ :=
    faithfulWith_of_keeps hacquire config seed given w w' services h
  have hconnected := connected_of_build hacquire h
  have htold := told_of_began hbegan
  obtain ⟨before, -, -, -, hsynced⟩ := hbegan
  refine ⟨before, first, hsynced, fun pre post hpre => ?_, attestations_filter _⟩
  have hon : (run ⟨services, w'⟩ pre).services.connected = true := by
    rw [connected_run hpre]
    exact hconnected
  have hstate := (told_run htold pre).state
  obtain ⟨hdone, hlatched⟩ := latched_of_connected hon hstate post
  have hoff : ((run ⟨services, w'⟩ pre).serve .disconnect).2.services.connected = false := by
    rw [serve_disconnect_connected hon]
  rw [run_append, run_append]
  exact ⟨hdone, hlatched, run_filter_signing hoff post⟩

end

/-- **Disconnecting is for good.** However services are built, with a stand-in, with a node that is
given or with one that is connected to over any net, and whatever they are asked and how often: the
first disconnect succeeds and every later one is refused, as are all syncs and commands after it,
and none of these does anything; the state told is that of the last sync before it that succeeded;
what is kept, on the disk and in memory, and the events raised stay as they were; only requests to
sign and to check do anything at all, and these get what they would get without any disconnect. -/
theorem disconnect_latches :
    (∀ node : StandIn,
      LatchesWith (pure node : Act StandIn.Answers Workspace NodeError StandIn)) ∧
    (∀ (σ : Type) [Net σ] (node : Node),
      LatchesWith (pure node : Act σ Workspace NodeError Node)) ∧
    ∀ (σ : Type) [Net σ] (config : Config) (seed : Bytes),
      LatchesWith (Node.connect config seed : Act σ Workspace NodeError Node) := by
  refine ⟨fun node => ?_, fun σ _ node => ?_, fun σ _ config seed => ?_⟩
  · exact latchesWith_of_keeps (keeps_pure node)
  · exact latchesWith_of_keeps (keeps_pure node)
  · exact latchesWith_of_keeps
      (keeps_connect Services.apart_cacheAndEvents keeps_keepCredentials config seed)

/-- The state that is told for good is the one that was told before. -/
theorem Latched.known {σ β : Type} [Backend σ β] {s : NodeState} {before l : Live σ β}
    (h : Latched s before l) : before.known = some s := by
  have hstate := h.state
  rw [known_eq, ← h.storage, ← known_eq, Live.known]
  unfold serve at hstate
  cases hn : l.services.nodeInfo with
  | error e =>
    rw [hn] at hstate
    cases hstate
  | ok t =>
    rw [hn] at hstate
    rw [ServiceReply.state.inj (Prod.mk.inj hstate).1]
    rfl

/-- A stand-in that is disconnected after two syncs: the state of the last one stays. -/
theorem latched_standIn :
    ∃ services w', standInBuild = (.ok services, w') ∧
      ∀ post, Latched laterState (run ⟨services, w'⟩ [.sync, .sync])
        (run ⟨services, w'⟩ ([.sync, .sync] ++ .disconnect :: post)) := by
  obtain ⟨services, w', h, -, hlater, -⟩ := built_standIn
  obtain ⟨-, first, -, hrun, -⟩ := disconnect_latches.1 ⟨"02ab"⟩ _ _ _ _ _ _ h
  refine ⟨services, w', h, fun post => ?_⟩
  obtain ⟨-, hlatched, -⟩ := hrun [.sync, .sync] post (by simp)
  rwa [← Option.some.inj (hlater.symm.trans hlatched.known)] at hlatched

end Live

end HostedNode

import HostedNode.Proofs.Key.Signer
import HostedNode.Proofs.Provider.Command
import HostedNode.Proofs.Provider.Identity
import HostedNode.Proofs.Text.Hex

/-! # The connection to a node over time

A node that was connected to is asked for one thing after the other (`Hosted.run`). The only thing
about it that changes is the connection, and only a start that succeeds changes that: it is the one
to the address that the scheduler gave at the last such start (`Hosted.node_run`). So it is known
what goes over which connection at every moment (`Hosted.served`). The connection to the scheduler
and the one to the node have no headers in common (`Node.link_follows_starts`). -/

namespace HostedNode

open Act Json Rpc Text

/-! ### Traffic -/

/-- What was added to the traffic are the entries that were added to the journal. -/
theorem World.Extends.traffic {σ σ' κ κ' : Type} {P : Happening → Prop} {w : World σ κ}
    {w' : World σ' κ'} (h : World.Extends P w w') :
    ∃ hs, w'.traffic = w.traffic ++ hs ∧ ∀ x ∈ hs, P x ∧ x.isTraffic = true := by
  obtain ⟨hs, hj, hall⟩ := h
  refine ⟨hs.filter Happening.isTraffic, ?_, fun x hx => ?_⟩
  · rw [World.traffic, hj, List.filter_append]
    rfl
  · obtain ⟨hmem, htraffic⟩ := List.mem_filter.mp hx
    exact ⟨hall x hmem, htraffic⟩

/-- Lines that are logged are no traffic. -/
theorem Happening.of_logOr {P : Happening → Prop} {h : Happening} (hh : h.LogOr P)
    (ht : h.isTraffic = true) : P h := by
  rcases hh with ⟨e, rfl⟩ | hh
  · cases ht
  · exact hh

namespace Node

variable {σ κ : Type} [Net σ]

/-! ### Starting -/

/-- The connection to the node at an address. -/
def linkTo (n : Node) (uri : String) : Connection := ⟨uri, n.linkOptions⟩

/-- The node with the connection to an address, or with none. -/
def linkedAt (n : Node) (last : Option String) : Node := { n with link := last.map n.linkTo }

/-- What the scheduler is asked for the address of the node with. -/
def addressParams (n : Node) : List Json := [.obj [("node_id", .str n.signer.nodeId)]]

/-- The reply of the scheduler when it is asked for the address, and the net after it. -/
def addressReply (n : Node) (net : σ) : Except TransportError Json × σ :=
  Net.answer n.scheduler.connection "schedule" n.addressParams net

/-- The address that the scheduler gives: the one in its answer, which must not be empty. -/
def address? (n : Node) (net : σ) : Option String :=
  match (n.addressReply net).1 with
  | .error _ => none
  | .ok v =>
    match decode scheduleAnswer v with
    | .error _ => none
    | .ok uri => if uri = "" then none else some uri

/-- The scheduler was asked for the address. -/
def askedAddress (n : Node) : Happening :=
  .called n.scheduler.connection "schedule" n.addressParams

/-- How a start goes over a net: what is sent, and the result. -/
inductive StartOver (n : Node) (net : σ) : List Happening → Except NodeError Node → Prop where
  | unscheduled {e : NodeError} (h : n.address? net = none) :
    StartOver n net [n.askedAddress] (.error e)
  | unopened {uri : String} {e : TransportError} (h : n.address? net = some uri)
    (ho : (Net.opening (n.linkTo uri) (n.addressReply net).2).1 = .error e) :
    StartOver n net [n.askedAddress, .opened (n.linkTo uri)] (.error (.ofTransport e))
  | opened {uri : String} (h : n.address? net = some uri)
    (ho : (Net.opening (n.linkTo uri) (n.addressReply net).2).1 = .ok ()) :
    StartOver n net [n.askedAddress, .opened (n.linkTo uri)]
      (.ok { n with link := some (n.linkTo uri) })

/-- The scheduler is asked for the address in one call. -/
theorem outcome_schedule (n : Node) (w : World σ κ) :
    ∃ result w', (n.scheduler.schedule n.signer.nodeId : Act σ κ NodeError String).outcome w =
        (result, w') ∧
      w'.net = (n.addressReply w.net).2 ∧ w'.traffic = w.traffic ++ [n.askedAddress] ∧
      result.toOption = n.address? w.net := by
  have hparams : [Json.object [("node_id", .str n.signer.nodeId)]] = n.addressParams := rfl
  rw [Scheduler.schedule, outcome_bind, Scheduler.outcome_ask, hparams, ← addressReply]
  unfold address?
  cases hr : (n.addressReply w.net).1 with
  | error e => exact ⟨_, _, rfl, rfl, by simp [Happening.isTraffic, askedAddress], rfl⟩
  | ok v =>
    simp only [Scheduler.readReply]
    cases hd : decode scheduleAnswer v with
    | error e => exact ⟨_, _, rfl, rfl, by simp [Happening.isTraffic, askedAddress], rfl⟩
    | ok uri =>
      simp only [Except.mapError, String.isEmpty_iff]
      by_cases hempty : uri = ""
      · simp only [if_pos hempty, outcome_throw]
        exact ⟨_, _, rfl, rfl, by simp [Happening.isTraffic, askedAddress], rfl⟩
      · simp only [if_neg hempty, outcome_bind, outcome_log, outcome_pure]
        exact ⟨_, _, rfl, rfl, by simp [Happening.isTraffic, askedAddress], rfl⟩

/-- **A start goes one of three ways.** -/
theorem outcome_start (n : Node) (w : World σ κ) :
    ∃ hs, n.StartOver w.net hs ((n.start : Act σ κ NodeError Node).outcome w).1 ∧
      ((n.start : Act σ κ NodeError Node).outcome w).2.traffic = w.traffic ++ hs := by
  obtain ⟨result, w1, hw1, hnet, htraffic, haddress⟩ := outcome_schedule n w
  rw [start, outcome_bind, hw1]
  cases result with
  | error e => exact ⟨_, .unscheduled haddress.symm, htraffic⟩
  | ok uri =>
    dsimp only
    rw [outcome_bind, outcome_mapError, outcome_openConnection, hnet, ← linkTo]
    cases ho : (Net.opening (n.linkTo uri) (n.addressReply w.net).2).1 with
    | error e =>
      refine ⟨_, .unopened haddress.symm ho, ?_⟩
      show (World.note _ (.opened (n.linkTo uri))).traffic = _
      simp [htraffic, Happening.isTraffic]
    | ok u =>
      refine ⟨_, .opened haddress.symm ho, ?_⟩
      show (World.note (World.note _ (.opened (n.linkTo uri))) _).traffic = _
      simp [htraffic, Happening.isTraffic]

/-! ### Asking -/

/-- What happens while a command is put to a node. -/
def Asking (n : Node) (h : Happening) : Prop :=
  ∃ link method, n.link = some link ∧ h = .called link method []

theorem adds_command (n : Node) (text : String) :
    Adds (Happening.LogOr n.Asking) (n.command text : Act σ κ NodeError String) := by
  refine adds_bind (adds_ofExcept _) fun q => fun w => ?_
  rw [outcome_bind, outcome_ofExcept]
  cases hs : n.started with
  | error e => exact World.extends_of_eq rfl
  | ok link =>
    have hl : n.link = some link := link_of_started hs
    exact adds_bind (adds_log Happening.logOr_logged _ _)
      (fun _ => adds_bind (adds_mapError _ (adds_call (Or.inr ⟨link, q.method, hl, rfl⟩)))
        fun _ => adds_pure _) w

theorem asking_of_pulling {n : Node} {h : Happening} (hh : n.Pulling h) : n.Asking h := by
  obtain ⟨link, method, hl, hcalled, -⟩ := hh
  exact ⟨link, method, hl, hcalled⟩

end Node

/-! ### Requests -/

/-- What a node is asked for once it was connected to. -/
inductive NodeRequest where
  | start
  | pull
  | command (text : String)
  | sign (message : String)
  | check (message key signature : String)

/-- What comes of a request. -/
inductive NodeReply where
  | started
  | state (state : NodeState)
  | answer (text : String)
  | signed (signature : String)
  | checked (genuine : Bool)
  | failed (cause : NodeError)

/-- A node with the world that it is asked in. -/
structure Hosted (σ κ : Type) where
  node : Node
  world : World σ κ

namespace Hosted

variable {σ κ : Type}

/-- The reply to a question, which leaves the node as it is. -/
def told {α : Type} (n : Node) (reply : α → NodeReply) :
    Except NodeError α × World σ κ → NodeReply × Hosted σ κ
  | (.ok a, w) => (reply a, ⟨n, w⟩)
  | (.error e, w) => (.failed e, ⟨n, w⟩)

/-- The reply to a start; if it fails, the node is as it was. -/
def restarted (before : Node) : Except NodeError Node × World σ κ → NodeReply × Hosted σ κ
  | (.ok n, w) => (.started, ⟨n, w⟩)
  | (.error e, w) => (.failed e, ⟨before, w⟩)

variable [Net σ]

/-- A request. -/
def serve (h : Hosted σ κ) : NodeRequest → NodeReply × Hosted σ κ
  | .start => restarted h.node (h.node.start.outcome h.world)
  | .pull => told h.node .state (h.node.pull.outcome h.world)
  | .command text => told h.node .answer ((h.node.command text).outcome h.world)
  | .sign message => (.signed (h.node.signMessage message), h)
  | .check message key signature =>
    told h.node .checked (Node.checkMessage message key signature, h.world)

/-- One request after the other. -/
def run (h : Hosted σ κ) (rs : List NodeRequest) : Hosted σ κ :=
  rs.foldl (fun h r => (h.serve r).2) h

/-- The address of the node, if the request is a start that succeeds. -/
def startedAt (h : Hosted σ κ) (r : NodeRequest) : Option String :=
  match (h.serve r).1 with
  | .started => h.node.address? h.world.net
  | _ => none

/-- The address of the node at the last start that succeeded. -/
def lastStart (h : Hosted σ κ) : List NodeRequest → Option String
  | [] => none
  | r :: rs => (lastStart (h.serve r).2 rs).or (h.startedAt r)

/-! ### One request -/

/-- What a request sends if the node was last started at an address. -/
inductive Sends (n : Node) (last : Option String) (net : σ) : NodeRequest → List Happening → Prop
    where
  | unscheduled (h : n.address? net = none) : Sends n last net .start [n.askedAddress]
  | scheduled {uri : String} (h : n.address? net = some uri) :
    Sends n last net .start [n.askedAddress, .opened (n.linkTo uri)]
  | pull {hs : List Happening}
    (h : ∀ x ∈ hs, ∃ uri method, last = some uri ∧ x = .called (n.linkTo uri) method []) :
    Sends n last net .pull hs
  | command {text : String} {hs : List Happening}
    (h : ∀ x ∈ hs, ∃ uri method, last = some uri ∧ x = .called (n.linkTo uri) method []) :
    Sends n last net (.command text) hs
  | sign (message : String) : Sends n last net (.sign message) []
  | check (message key signature : String) : Sends n last net (.check message key signature) []

/-- A request is served to a node that was last started at an address. -/
structure Served (n : Node) (last : Option String) (h : Hosted σ κ) (r : NodeRequest) : Prop where
  /-- The connection is the one to that address; nothing else of the node has changed. -/
  node : h.node = n.linkedAt last
  sends : ∃ hs, (h.serve r).2.world.traffic = h.world.traffic ++ hs ∧
    Sends n last h.world.net r hs
  pull : r = .pull → last = none →
    (h.serve r).1 = .failed (.connectivity "node is not started, call start() first")
  /-- A start succeeds if there is an address and a connection to it opens. -/
  start : r = .start → ((h.serve r).1 = .started ↔ ∃ uri, n.address? h.world.net = some uri ∧
    (Net.opening (n.linkTo uri) (n.addressReply h.world.net).2).1 = .ok ())
  started : (h.serve r).1 = .started → r = .start ∧
    ∃ uri, n.address? h.world.net = some uri ∧ (h.serve r).2.node = n.linkedAt (some uri)
  kept : (h.serve r).1 ≠ .started → (h.serve r).2.node = h.node

/-! ### What was asked is answered -/

section

variable {n : Node} {last : Option String} {h : Hosted σ κ}

omit [Net σ] in
/-- What is asked over the connection of a node goes to the address of the last start. -/
theorem asked_of_extends (hn : h.node = n.linkedAt last) {w : World σ κ}
    (hw : World.Extends (Happening.LogOr h.node.Asking) h.world w) :
    ∃ hs, w.traffic = h.world.traffic ++ hs ∧
      ∀ x ∈ hs, ∃ uri method, last = some uri ∧ x = .called (n.linkTo uri) method [] := by
  obtain ⟨hs, htraffic, hall⟩ := hw.traffic
  refine ⟨hs, htraffic, fun x hx => ?_⟩
  obtain ⟨link, method, hl, rfl⟩ := Happening.of_logOr (hall x hx).1 (hall x hx).2
  rw [hn] at hl
  obtain ⟨uri, huri, rfl⟩ := Option.map_eq_some_iff.mp hl
  exact ⟨uri, method, huri, rfl⟩

/-- A request that is told the outcome of a question is served, if it sends what it may. -/
theorem served_of_told {α : Type} {reply : α → NodeReply} {r : NodeRequest}
    (hn : h.node = n.linkedAt last) (hreply : ∀ a, reply a ≠ .started)
    {out : Except NodeError α × World σ κ} (hr : h.serve r = told h.node reply out)
    (hstart : r ≠ .start)
    (hsends : ∃ hs, out.2.traffic = h.world.traffic ++ hs ∧ Sends n last h.world.net r hs)
    (hpull : r = .pull → last = none →
      out.1 = .error (.connectivity "node is not started, call start() first")) :
    Served n last h r := by
  rcases out with ⟨result, w⟩
  have hstarted : (told h.node reply (result, w)).1 ≠ .started := by
    cases result with
    | ok a => exact hreply a
    | error e => nofun
  have hleft : (told h.node reply (result, w)).2 = ⟨h.node, w⟩ := by
    cases result <;> rfl
  rw [← hr] at hstarted hleft
  refine ⟨hn, ?_, fun hp hnone => ?_, fun hs => absurd hs hstart, fun hs => absurd hs hstarted,
    fun _ => by rw [hleft]⟩
  · rw [hleft]
    exact hsends
  · obtain rfl : result = _ := hpull hp hnone
    rw [hr]
    rfl

/-- A start that fails leaves the connection. -/
theorem served_of_failed (hn : h.node = n.linkedAt last) {e : NodeError} {w : World σ κ}
    (hserve : h.serve .start = (.failed e, ⟨h.node, w⟩))
    (hsends : ∃ hs, w.traffic = h.world.traffic ++ hs ∧ Sends n last h.world.net .start hs)
    (hno : ∀ uri, n.address? h.world.net = some uri →
      (Net.opening (n.linkTo uri) (n.addressReply h.world.net).2).1 ≠ .ok ()) :
    Served n last h .start := by
  have hnot : (h.serve .start).1 ≠ .started := by
    rw [hserve]
    nofun
  refine ⟨hn, ?_, nofun, fun _ => ⟨fun hs => absurd hs hnot, ?_⟩,
    fun hs => absurd hs hnot, fun _ => ?_⟩
  · rw [hserve]
    exact hsends
  · rintro ⟨uri, huri, hopen⟩
    exact absurd hopen (hno uri huri)
  · rw [hserve]

theorem served_start (hn : h.node = n.linkedAt last) : Served n last h .start := by
  obtain ⟨hs, hstart, htraffic⟩ := Node.outcome_start h.node h.world
  rcases hout : (h.node.start : Act σ κ NodeError Node).outcome h.world with ⟨result, w⟩
  have hserve : h.serve .start = restarted h.node (result, w) := by
    rw [← hout]
    rfl
  have haddress : h.node.address? h.world.net = n.address? h.world.net := by rw [hn]; rfl
  have hlink : h.node.linkTo = n.linkTo := by rw [hn]; rfl
  have hreply : h.node.addressReply h.world.net = n.addressReply h.world.net := by rw [hn]; rfl
  have hasked : h.node.askedAddress = n.askedAddress := by rw [hn]; rfl
  rw [hout] at hstart htraffic
  cases hstart with
  | unscheduled hnone =>
    rw [haddress] at hnone
    rw [hasked] at htraffic
    exact served_of_failed hn hserve ⟨_, htraffic, .unscheduled hnone⟩
      fun uri huri => by cases hnone.symm.trans huri
  | unopened huri ho =>
    rw [haddress] at huri
    rw [hasked, hlink] at htraffic
    rw [hlink, hreply] at ho
    refine served_of_failed hn hserve ⟨_, htraffic, .scheduled huri⟩ fun uri' huri' hopen => ?_
    obtain rfl := Option.some.inj (huri.symm.trans huri')
    cases ho.symm.trans hopen
  | opened huri ho =>
    rw [haddress] at huri
    rw [hasked, hlink] at htraffic
    rw [hlink] at hserve
    rw [hlink, hreply] at ho
    refine ⟨hn, ?_, nofun, fun _ => ⟨fun _ => ⟨_, huri, ho⟩, fun _ => ?_⟩,
      fun _ => ⟨rfl, _, huri, ?_⟩, fun hf => absurd ?_ hf⟩
    · rw [hserve]
      exact ⟨_, htraffic, .scheduled huri⟩
    · rw [hserve]
      rfl
    · rw [hserve, hn]
      rfl
    · rw [hserve]
      rfl

theorem served_pull (hn : h.node = n.linkedAt last) : Served n last h .pull := by
  obtain ⟨hs, htraffic, hall⟩ := asked_of_extends hn
    ((adds_pull h.node h.world).mono fun x hx => hx.imp id Node.asking_of_pulling)
  refine served_of_told hn nofun rfl nofun
    ⟨hs, htraffic, .pull hall⟩ fun _ hnone => ?_
  have hlink : h.node.link = none := by rw [hn, hnone]; rfl
  rw [Node.pull, outcome_bind, outcome_ofExcept, started_of_noLink hlink]

/-- **A request is served at every moment as the last start tells.** -/
theorem served_of_node (hn : h.node = n.linkedAt last) (r : NodeRequest) : Served n last h r := by
  cases r with
  | start => exact served_start hn
  | pull => exact served_pull hn
  | command text =>
    obtain ⟨hs, htraffic, hall⟩ := asked_of_extends hn (Node.adds_command h.node text h.world)
    have hserve : h.serve (.command text) =
      told h.node .answer ((h.node.command text).outcome h.world) := rfl
    exact served_of_told hn nofun hserve nofun ⟨hs, htraffic, .command hall⟩ nofun
  | sign message =>
    have hserve : h.serve (.sign message) =
      told h.node .signed (.ok (h.node.signMessage message), h.world) := rfl
    exact served_of_told hn nofun hserve nofun ⟨[], (List.append_nil _).symm, .sign message⟩ nofun
  | check message key signature =>
    have hserve : h.serve (.check message key signature) =
      told h.node .checked (Node.checkMessage message key signature, h.world) := rfl
    exact served_of_told hn nofun hserve nofun
      ⟨[], (List.append_nil _).symm, .check message key signature⟩ nofun

end

/-! ### Runs -/

/-- A start that succeeds moves the connection, and no other request does. -/
theorem node_serve {n : Node} {last : Option String} {h : Hosted σ κ}
    (hn : h.node = n.linkedAt last) (r : NodeRequest) :
    (h.serve r).2.node = n.linkedAt ((h.startedAt r).or last) := by
  have hserved := served_of_node hn r
  have haddress : h.node.address? h.world.net = n.address? h.world.net := by rw [hn]; rfl
  by_cases hr : (h.serve r).1 = .started
  · obtain ⟨-, uri, huri, hnode⟩ := hserved.started hr
    have hat : h.startedAt r = some uri := by
      simp only [startedAt, hr, haddress, huri]
    rw [hat, hnode, Option.some_or]
  · have hat : h.startedAt r = none := by
      unfold startedAt
      split
      · next hs => exact absurd hs hr
      · rfl
    rw [hat, hserved.kept hr, hn, Option.none_or]

/-- **The connection is that of the last start that succeeded.** -/
theorem node_run {n : Node} {last : Option String} {h : Hosted σ κ}
    (hn : h.node = n.linkedAt last) (rs : List NodeRequest) :
    (h.run rs).node = n.linkedAt ((lastStart h rs).or last) := by
  induction rs generalizing h last with
  | nil => exact hn
  | cons r rs ih =>
    rw [run, List.foldl_cons, ← run, ih (node_serve hn r), lastStart, Option.or_assoc]

end Hosted

/-! ### From connecting on -/

namespace Node

variable {σ κ : Type} [Net σ]

/-- The settings show the credentials of a device, and nothing else. -/
structure Shows (c : DeviceCredentials) (limit : UInt64) (o : Options) : Prop where
  timeout : o.timeout = some (.ofSeconds limit.toNat)
  headers : ∃ cert key, o.headers = [("x-device-cert", cert), ("x-device-key", key)] ∧
    Hex.decode cert = .ok c.cert ∧ Hex.decode key = .ok c.key

/-- A connection to the scheduler: the settings show the key of the configuration, if there is one,
and nothing else. -/
structure SchedulerLink (config : Config) (c : Connection) : Prop where
  address : c.address = config.schedulerUrl
  timeout : c.options.timeout = some (.ofSeconds config.requestTimeoutSec.toNat)
  headers : c.options.headers = (config.apiKey.map fun key => ("x-api-key", key)).toList

theorem shows_linkOptions (n : Node) :
    Shows n.credentials n.config.requestTimeoutSec n.linkOptions where
  timeout := rfl
  headers := ⟨_, _, rfl, Hex.decode_encode _, Hex.decode_encode _⟩

theorem schedulerLink_schedulerConnection (config : Config) :
    SchedulerLink config (schedulerConnection config) := by
  unfold schedulerConnection
  cases hkey : config.apiKey with
  | none => exact ⟨rfl, rfl, by simp [hkey, Options.withTimeout]⟩
  | some key => exact ⟨rfl, rfl, by simp [hkey, Options.withTimeout, Options.header]⟩

/-- **The connection to a node follows its starts.** Whatever a node that was connected to is asked
for, and whatever the world answers: connecting sends something to the scheduler alone, with none of
the headers of the node; every connection to the node shows the credentials of the device alone; and
each request after any others is served as the last start that succeeded tells. -/
theorem link_follows_starts [CredentialStore κ] {config : Config} {seed : Bytes} {n : Node}
    {w w' : World σ κ}
    (h : (connect config seed : Act σ κ NodeError Node).outcome w = (.ok n, w')) :
    (∃ hs, w'.traffic = w.traffic ++ hs ∧ ∀ x ∈ hs, x = .opened n.scheduler.connection ∨
      ∃ method params, x = .called n.scheduler.connection method params) ∧
    SchedulerLink config n.scheduler.connection ∧
    Signer.ofSeed seed = .ok n.signer ∧
    (∀ uri, (n.linkTo uri).address = uri ∧
      Shows n.credentials config.requestTimeoutSec (n.linkTo uri).options) ∧
    ∀ (v : World σ κ) (rs : List NodeRequest) (r : NodeRequest),
      Hosted.Served n (Hosted.lastStart ⟨n, v⟩ rs) (Hosted.run ⟨n, v⟩ rs) r := by
  obtain ⟨hsigner, hnode⟩ := node_of_connect h
  have hconnection : n.scheduler.connection = schedulerConnection config := by rw [hnode]; rfl
  have hconfig : n.config = config := by rw [hnode]; rfl
  have hlink : n = n.linkedAt none := by rw [hnode]; rfl
  refine ⟨?_, ?_, hsigner, fun uri => ⟨rfl, ?_⟩, fun v rs r => ?_⟩
  · obtain ⟨hs, htraffic, hall⟩ := (adds_connect config seed w).traffic
    rw [h] at htraffic
    refine ⟨hs, htraffic, fun x hx => ?_⟩
    rw [hconnection]
    rcases Happening.of_logOr (hall x hx).1 (hall x hx).2 with hx | ⟨method, params, hx, -⟩
    · exact Or.inl hx
    · exact Or.inr ⟨method, params, hx⟩
  · rw [hconnection]
    exact schedulerLink_schedulerConnection config
  · rw [← hconfig]
    exact shows_linkOptions n
  · have hbefore : (⟨n, v⟩ : Hosted σ κ).node = n.linkedAt none := hlink
    have hrun := Hosted.node_run hbefore rs
    rw [Option.or_none] at hrun
    exact Hosted.served_of_node hrun r

/-- A world where credentials of a seed are kept, and where the scheduler gives an address for the
node and then an empty one. -/
def movingWorld (signer : Signer) : World Script CredentialSlot where
  net := [("", [("schedule", [.ok (.obj [("node_uri", .str "https://a")]),
      .ok (.obj [("node_uri", .str "")])])]),
    ("https://a", [])]
  store := ⟨some ⟨⟨[107], [99]⟩, signer.seedFingerprint⟩, none, none⟩

/-- The node of these credentials. -/
def movingNode (signer : Signer) : Node := withCredentials default signer ⟨[107], [99]⟩

theorem connect_movingWorld {signer : Signer} {seed : Bytes} (h : Signer.ofSeed seed = .ok signer) :
    ((connect default seed : Act Script CredentialSlot NodeError Node).outcome
      (movingWorld signer)).1 = .ok (movingNode signer) := by
  have hresolved : resolvedOver default signer (opening default (movingWorld signer)).2
      (movingWorld signer).store.held = ⟨[], .ok ⟨[107], [99]⟩⟩ := if_pos rfl
  obtain ⟨-, hends⟩ := outcome_connect default h (movingWorld signer)
  rw [courseOver_of_read rfl rfl, hresolved] at hends
  exact hends.1

theorem link_follows_starts_moving :
    ∃ signer w, Signer.ofSeed (List.replicate minSeedLength 0) = .ok signer ∧
      (connect default (List.replicate minSeedLength 0) :
          Act Script CredentialSlot NodeError Node).outcome (movingWorld signer) =
        (.ok (movingNode signer), w) ∧
      Hosted.lastStart ⟨movingNode signer, movingWorld signer⟩ [.start, .start] =
        some "https://a" ∧
      Hosted.Served (movingNode signer) (some "https://a")
        (Hosted.run ⟨movingNode signer, movingWorld signer⟩ [.start, .start]) .pull := by
  obtain ⟨signer, hs⟩ : ∃ signer, Signer.ofSeed (List.replicate minSeedLength 0) = .ok signer :=
    ⟨_, Signer.ofSeed_zeros⟩
  rcases hout : (connect default (List.replicate minSeedLength 0) :
    Act Script CredentialSlot NodeError Node).outcome (movingWorld signer) with ⟨result, w⟩
  have hresult := connect_movingWorld hs
  rw [hout] at hresult
  obtain rfl : result = .ok (movingNode signer) := hresult
  have hlast : Hosted.lastStart ⟨movingNode signer, movingWorld signer⟩ [.start, .start] =
      some "https://a" := rfl
  have hserved := (link_follows_starts hout).2.2.2.2 (movingWorld signer) [.start, .start] .pull
  rw [hlast] at hserved
  exact ⟨signer, w, hs, hout, hlast, hserved⟩

end Node

end HostedNode

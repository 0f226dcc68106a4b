import HostedNode.Cli.Console
import HostedNode.Proofs.Text.Shown

/-! # The console shows what happened

A sink holds one piece of text a notice that its listeners were told, in the order of telling,
behind what it held before (`getElem?_tellAll`): this is the run lemma over the step `writeTo_eq`.

The texts of an event come from a node, and may hold any characters. Shown, an event is one line
nevertheless, and no two events are shown alike (`NodeEvent.oneLine`, `NodeEvent.shown_injective`),
since its records are made of legible fields. So from a sink of events alone the lines give the
events back (`consoleText_events_injective`). -/

namespace HostedNode

open Text

/-! ### Shown events -/

instance : Legible UnspentOutput :=
  .ofRecord (fun _ => rfl) (fun _ => List.cons_ne_nil _ _) (by decide) ⟨'U', _, rfl, by decide⟩
    (fun o o' =>
      .cons "txid" (by decide) o.txid o'.txid
        (.cons "outnum" (by decide) o.outnum o'.outnum
          (.cons "amount_millisatoshi" (by decide) o.amountMsat o'.amountMsat
            (.cons "address" (by decide) o.address o'.address
              (.cons "reserved" (by decide) o.reserved o'.reserved .nil)))))
    (by
      rintro ⟨⟩ ⟨⟩ ⟨rfl, rfl, rfl, rfl, rfl, -⟩
      rfl)

instance : Legible NodeState :=
  .ofRecord (fun _ => rfl) (fun _ => List.cons_ne_nil _ _) (by decide) ⟨'N', _, rfl, by decide⟩
    (fun s t =>
      .cons "id" (by decide) s.id t.id
        (.cons "block_height" (by decide) s.blockHeight t.blockHeight
          (.cons "channels_balance_msat" (by decide) s.channelsBalanceMsat t.channelsBalanceMsat
            (.cons "onchain_balance_msat" (by decide) s.onchainBalanceMsat t.onchainBalanceMsat
              (.cons "utxos" (by decide) s.utxos t.utxos
                (.cons "max_payable_msat" (by decide) s.maxPayableMsat t.maxPayableMsat
                  (.cons "max_receivable_msat" (by decide) s.maxReceivableMsat t.maxReceivableMsat
                    (.cons "max_single_payment_amount_msat" (by decide)
                      s.maxSinglePaymentAmountMsat t.maxSinglePaymentAmountMsat
                      (.cons "max_chan_reserve_msats" (by decide)
                        s.maxChanReserveMsats t.maxChanReserveMsats
                        (.cons "connected_peers" (by decide) s.connectedPeers t.connectedPeers
                          (.cons "inbound_liquidity_msats" (by decide)
                            s.inboundLiquidityMsats t.inboundLiquidityMsats .nil)))))))))))
    (by
      rintro ⟨⟩ ⟨⟩ ⟨rfl, rfl, rfl, rfl, rfl, rfl, rfl, rfl, rfl, rfl, rfl, -⟩
      rfl)

namespace NodeEvent

theorem alike_newBlock (b c : UInt32) :
    Alike [("block", shown b)] [("block", shown c)] (b = c ∧ True) :=
  .cons "block" (by decide) b c .nil

theorem alike_nodeStateChanged (s t : NodeState) :
    Alike [("node_state", shown s)] [("node_state", shown t)] (s = t ∧ True) :=
  .cons "node_state" (by decide) s t .nil

/-- **An event is shown on one line.** -/
theorem oneLine (e : NodeEvent) : OneLine (shown e).toList := by
  cases e with
  | newBlock b =>
    exact (alike_newBlock b b).oneLine_shownRecord (List.cons_ne_nil _ _) (by decide)
  | nodeStateChanged s =>
    exact (alike_nodeStateChanged s s).oneLine_shownRecord (List.cons_ne_nil _ _) (by decide)
  | synced => decide

/-- The first letters of an event say which kind of event it is. -/
def initials : NodeEvent → List Char
  | newBlock _ => ['N', 'e']
  | nodeStateChanged _ => ['N', 'o']
  | synced => ['S', 'y']

theorem take_shown (e : NodeEvent) : (shown e).toList.take 2 = e.initials := by
  cases e with
  | newBlock b =>
    show ((shownRecord "NewBlock" [("block", shown b)]).toList).take 2 = _
    rw [toList_shownRecord (List.cons_ne_nil _ _)]
    rfl
  | nodeStateChanged s =>
    show ((shownRecord "NodeStateChanged" [("node_state", shown s)]).toList).take 2 = _
    rw [toList_shownRecord (List.cons_ne_nil _ _)]
    rfl
  | synced => rfl

/-- **Events that are shown alike are the same.** -/
theorem shown_injective : Function.Injective (shown : NodeEvent → String) := by
  intro e e' h
  have hinitials : e.initials = e'.initials := by rw [← take_shown, ← take_shown, h]
  have hchars : (shown e).toList ++ [] = (shown e').toList ++ [] := by rw [h]
  cases e with
  | newBlock b =>
    cases e' with
    | newBlock c =>
      obtain ⟨⟨rfl, -⟩, -⟩ := (alike_newBlock b c).split_shownRecord (List.cons_ne_nil _ _) hchars
      rfl
    | nodeStateChanged t => simp [initials] at hinitials
    | synced => simp [initials] at hinitials
  | nodeStateChanged s =>
    cases e' with
    | newBlock c => simp [initials] at hinitials
    | nodeStateChanged t =>
      obtain ⟨⟨rfl, -⟩, -⟩ :=
        (alike_nodeStateChanged s t).split_shownRecord (List.cons_ne_nil _ _) hchars
      rfl
    | synced => simp [initials] at hinitials
  | synced =>
    cases e' with
    | newBlock c => simp [initials] at hinitials
    | nodeStateChanged t => simp [initials] at hinitials
    | synced => rfl

end NodeEvent

namespace Cli

/-! ### What is written -/

namespace Notice

/-- The text that a notice adds to a sink. -/
def piece : Notice → String
  | entry e => if e.level = "TRACE" then "" else "[" ++ e.level ++ "] " ++ e.line ++ "\n"
  | event e => "received event " ++ shown e ++ "\n"

/-- A notice adds its piece. -/
theorem writeTo_eq (sink : String) (n : Notice) : n.writeTo sink = sink ++ n.piece := by
  cases n with
  | entry e =>
    by_cases h : e.level = "TRACE"
    · have hline : (entry e).line? = none := if_pos h
      have hpiece : (entry e).piece = "" := if_pos h
      rw [writeTo, hline, hpiece, String.append_empty]
    · have hline : (entry e).line? = some ("[" ++ e.level ++ "] " ++ e.line) := if_neg h
      have hpiece : (entry e).piece = "[" ++ e.level ++ "] " ++ e.line ++ "\n" := if_neg h
      rw [writeTo, hline, hpiece]
      exact String.append_assoc
  | event e => exact String.append_assoc

/-- **Notices add their pieces, one behind the other.** -/
theorem foldl_writeTo (ns : List Notice) (sink : String) :
    ns.foldl writeTo sink = sink ++ String.join (ns.map piece) := by
  induction ns generalizing sink with
  | nil => rw [List.map_nil, String.join_nil, String.append_empty, List.foldl_nil]
  | cons n ns ih =>
    rw [List.foldl_cons, ih, writeTo_eq, List.map_cons, String.join_cons, String.append_assoc]

end Notice

theorem consoleText_eq (ns : List Notice) : consoleText ns = String.join (ns.map Notice.piece) := by
  rw [consoleText, Notice.foldl_writeTo, String.empty_append]

namespace Listener

/-- The second listener has come about by copying the first one, any number of times. -/
inductive CopyOf (l : Listener) : Listener → Prop where
  | self : CopyOf l l
  | copy {m : Listener} (h : CopyOf l m) : CopyOf l m.copy

theorem CopyOf.sink_eq {l m : Listener} (h : CopyOf l m) : m.sink = l.sink := by
  induction h with
  | self => rfl
  | copy _ ih => exact ih

theorem getElem?_tell (sinks : Sinks) (m : Listener) (n : Notice) (k : Nat) :
    (tell sinks m n)[k]? = (sinks[k]?).map fun text =>
      if m.sink = k then text ++ n.piece else text := by
  rw [tell, List.getElem?_modify, Option.map_eq_map]
  by_cases hk : m.sink = k
  · simp only [if_pos hk, Notice.writeTo_eq]
  · simp only [if_neg hk]

/-- **A sink gets the pieces of what the listeners on it are told**, whoever else is told what in
between. -/
theorem getElem?_tellAll (told : List (Listener × Notice)) {sinks : Sinks} {k : Nat} {text : String}
    (h : sinks[k]? = some text) :
    (tellAll sinks told)[k]? =
      some (text ++ String.join ((told.filter (·.1.sink = k)).map (·.2.piece))) := by
  induction told generalizing sinks text with
  | nil => simpa [tellAll] using h
  | cons t told ih =>
    have hstep : (tell sinks t.1 t.2)[k]? =
        some (if t.1.sink = k then text ++ t.2.piece else text) := by
      rw [getElem?_tell, h, Option.map_some]
    have hrest := ih hstep
    show (tellAll (tell sinks t.1 t.2) told)[k]? = _
    rw [hrest]
    by_cases hk : t.1.sink = k
    · rw [if_pos hk, List.filter_cons_of_pos (by simpa using hk), List.map_cons, String.join_cons,
        String.append_assoc]
    · rw [if_neg hk, List.filter_cons_of_neg (by simpa using hk)]

theorem getElem?_new (sinks : Sinks) : (new sinks).2[(new sinks).1.sink]? = some "" := by
  show (sinks ++ [""])[sinks.length]? = some ""
  rw [List.getElem?_concat_length]

/-- A new listener and its copies write to a sink of their own. -/
theorem getElem?_tellAll_new (sinks : Sinks) {told : List (Listener × Notice)}
    (h : ∀ t ∈ told, CopyOf (new sinks).1 t.1) :
    (tellAll (new sinks).2 told)[(new sinks).1.sink]? =
      some (String.join (told.map (·.2.piece))) := by
  have hall : told.filter (·.1.sink = (new sinks).1.sink) = told :=
    List.filter_eq_self.mpr fun t ht => by simpa using (h t ht).sink_eq
  rw [getElem?_tellAll told (getElem?_new sinks), hall, String.empty_append]

end Listener

/-! ### Lines of events -/

/-- The line of an event. -/
def eventLine (e : NodeEvent) : List Char := ("received event " ++ shown e).toList

theorem oneLine_eventLine (e : NodeEvent) : OneLine (eventLine e) := by
  have hstart : OneLine "received event ".toList := by decide
  rw [eventLine, String.toList_append]
  exact hstart.append e.oneLine

theorem eventLine_injective : Function.Injective eventLine := by
  intro e e' h
  have hshown : shown e = shown e' := (String.append_right_inj _).mp (String.toList_inj.mp h)
  exact NodeEvent.shown_injective hshown

/-- **Events alone are one line each.** -/
theorem splitOn_events (es : List NodeEvent) :
    (consoleText (es.map .event)).toList.splitOn '\n' = es.map eventLine ++ [[]] := by
  rw [consoleText_eq]
  induction es with
  | nil =>
    rw [List.map_nil, List.map_nil, String.join_nil]
    rfl
  | cons e es ih =>
    have hpiece : (Notice.event e).piece.toList = eventLine e ++ ['\n'] := by
      show ("received event " ++ shown e ++ "\n").toList = _
      rw [String.toList_append]
      rfl
    have hline : '\n' ∉ eventLine e := fun h => (oneLine_eventLine e _ h).1 rfl
    rw [List.map_cons, List.map_cons, String.join_cons, String.toList_append, hpiece,
      List.append_assoc, List.singleton_append, List.splitOn_append_cons_self_of_not_mem hline, ih]
    rfl

/-- **Events are read back from what is shown of them.** -/
theorem consoleText_events_injective :
    Function.Injective fun es : List NodeEvent => consoleText (es.map .event) := by
  intro es es' h
  have hlines : es.map eventLine ++ [[]] = es'.map eventLine ++ [[]] := by
    rw [← splitOn_events, ← splitOn_events]
    exact congrArg (fun text : String => text.toList.splitOn '\n') h
  exact List.map_injective_iff.mpr eventLine_injective (List.append_cancel_right hlines)

/-- **The console is faithful, and events cannot forge lines.** Whatever a listener and its copies
are told, their sink holds a line for each entry above the least severity and for each event, in the
order of telling, and nothing else; listeners with other sinks add nothing. The line of an event
ends where its piece ends, different events are shown differently, and so a sink that only got
events gives the events back. -/
theorem console_faithful :
    (∀ (l : Listener) (sinks : Sinks) (text : String) (told : List (Listener × Notice)),
      sinks[l.sink]? = some text →
        (Listener.tellAll sinks told)[l.sink]? =
          some (text ++ String.join ((told.filter (·.1.sink = l.sink)).map (·.2.piece)))) ∧
    (∀ (others : Sinks) (told : List (Listener × Notice)),
      (∀ t ∈ told, Listener.CopyOf (Listener.new others).1 t.1) →
        (Listener.tellAll (Listener.new others).2 told)[(Listener.new others).1.sink]? =
          some (consoleText (told.map (·.2)))) ∧
    (∀ ns : List Notice, consoleText ns = String.join (ns.map Notice.piece)) ∧
    (∀ e : NodeEvent, '\n' ∉ (shown e).toList ∧ '\r' ∉ (shown e).toList) ∧
    Function.Injective (shown : NodeEvent → String) ∧
    (∀ es : List NodeEvent, (consoleText (es.map .event)).toList.splitOn '\n' =
      es.map (fun e => ("received event " ++ shown e).toList) ++ [[]]) ∧
    Function.Injective fun es : List NodeEvent => consoleText (es.map .event) := by
  refine ⟨fun l sinks text told h => Listener.getElem?_tellAll told h, fun others told h => ?_,
    consoleText_eq, fun e => ⟨fun h => (e.oneLine _ h).1 rfl, fun h => (e.oneLine _ h).2 rfl⟩,
    NodeEvent.shown_injective, splitOn_events, consoleText_events_injective⟩
  rw [Listener.getElem?_tellAll_new others h, consoleText_eq, List.map_map]
  rfl

/-- What a listener and its copy are told, among others an entry of the least severity. -/
def blockTold : List (Listener × Notice) :=
  [(⟨1⟩, .entry ⟨"asked", "TRACE"⟩), (Listener.copy ⟨1⟩, .entry ⟨"ready", "INFO"⟩),
    (⟨1⟩, .event (.newBlock 7)), (Listener.copy ⟨1⟩, .event .synced)]

theorem console_faithful_block :
    (Listener.tellAll ["before\n", "elsewhere"] ((⟨0⟩, .event .synced) :: blockTold))[0]? =
      some "before\nreceived event Synced\n" ∧
    (Listener.tellAll (Listener.new ["elsewhere"]).2 blockTold)[1]? =
      some (consoleText (blockTold.map (·.2))) ∧
    consoleText (blockTold.map (·.2)) =
      "[INFO] ready\nreceived event NewBlock \x7b block: 7 \x7d\nreceived event Synced\n" := by
  have hcopies : ∀ t ∈ blockTold, Listener.CopyOf (Listener.new ["elsewhere"]).1 t.1 := by
    intro t ht
    simp only [blockTold, List.mem_cons, List.not_mem_nil, or_false] at ht
    rcases ht with rfl | rfl | rfl | rfl
    · exact .self
    · exact .copy .self
    · exact .self
    · exact .copy .self
  have hsink := console_faithful.1 ⟨0⟩ ["before\n", "elsewhere"] "before\n"
    ((⟨0⟩, .event .synced) :: blockTold) rfl
  exact ⟨hsink, console_faithful.2.1 ["elsewhere"] blockTold hcopies, by decide +kernel⟩

end Cli

end HostedNode

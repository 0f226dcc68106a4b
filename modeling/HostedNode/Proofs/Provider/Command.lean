import HostedNode.Proofs.Json.Plain
import HostedNode.Proofs.Provider.Identity
import HostedNode.Proofs.Text.Blank
import HostedNode.Rpc.Script

/-! # Commands only ask

A user may put seven names to a node, and they stand for six methods that only read (`questions`).
A text says a name in any letter case and with blanks around it (`Says`, `lower_trim_eq_iff`).
Whatever the text and the state of the node, no more than one call is made, and it is for one of
these methods; no other text gets as far as a call, and none does before the node is started
(`Node.command_confined`). What the node answers is given as a text that reads back to the
answer. -/

namespace HostedNode

open Act Json Rpc Text

/-! ### Names in a text -/

/-- The text is the word in any case of the letters `A` to `Z`, with blank characters around it. -/
def Says (word text : String) : Prop :=
  ∃ before said after : List Char, text.toList = before ++ (said ++ after) ∧
    (∀ c ∈ before, isBlank c = true) ∧ (∀ c ∈ after, isBlank c = true) ∧
    said.map Char.toLower = word.toList

/-- Trimming drops blank characters at both ends, and nothing else. -/
theorem trimChars_split (cs : List Char) :
    ∃ before after : List Char, cs = before ++ (trimChars cs ++ after) ∧
      (∀ c ∈ before, isBlank c = true) ∧ (∀ c ∈ after, isBlank c = true) := by
  refine ⟨cs.takeWhile isBlank, ((cs.dropWhile isBlank).reverse.takeWhile isBlank).reverse, ?_,
    fun c hc => List.mem_takeWhile_imp hc,
    fun c hc => List.mem_takeWhile_imp (List.mem_reverse.mp hc)⟩
  rw [trimChars, ← List.reverse_append, List.takeWhile_append_dropWhile, List.reverse_reverse,
    List.takeWhile_append_dropWhile]

theorem trimChars_of_split {before said after : List Char}
    (hbefore : ∀ c ∈ before, isBlank c = true) (hafter : ∀ c ∈ after, isBlank c = true)
    (ht : Tight said) (hne : said ≠ []) :
    trimChars (before ++ (said ++ after)) = said := by
  have hfirst : ∀ c, (said ++ after).head? = some c → isBlank c = false := by
    intro c hc
    rw [List.head?_append, Option.or_of_isSome (by simpa using hne)] at hc
    exact ht.first c hc
  have hlast : ∀ c, said.reverse.head? = some c → isBlank c = false := by
    intro c hc
    rw [List.head?_reverse] at hc
    exact ht.last c hc
  rw [trimChars, List.dropWhile_append_of_pos hbefore, dropWhile_of_head hfirst,
    List.reverse_append,
    List.dropWhile_append_of_pos fun c hc => hafter c (List.mem_reverse.mp hc),
    dropWhile_of_head hlast, List.reverse_reverse]

/-- No blank character is a letter. -/
theorem isBlank_toLower {c : Char} (h : isBlank c = true) : isBlank c.toLower = true := by
  unfold Char.toLower
  split
  · next hupper =>
    have hrange : 65 ≤ c.toNat ∧ c.toNat ≤ 90 := by
      simp only [ge_iff_le, UInt32.le_iff_toNat_le] at hupper
      exact hupper
    have hmem : c.toNat ∈ blankCodes := by simpa [isBlank] using h
    simp only [blankCodes, List.mem_cons, List.not_mem_nil, or_false] at hmem
    omega
  · exact h

/-- **A text says a word if trimmed and in lower case it is the word.** -/
theorem lower_trim_eq_iff {word : String} (hw : IsWord word) (text : String) :
    lower (trim text) = word ↔ Says word text := by
  have hchars : (lower (trim text)).toList = (trimChars text.toList).map Char.toLower := by
    rw [toList_lower, trim, String.toList_ofList]
  constructor
  · intro h
    obtain ⟨before, after, hsplit, hbefore, hafter⟩ := trimChars_split text.toList
    exact ⟨before, _, after, hsplit, hbefore, hafter, by rw [← hchars, h]⟩
  · rintro ⟨before, said, after, hsplit, hbefore, hafter, hsaid⟩
    have hsaidword : IsWord (String.ofList said) := by
      constructor
      · rw [String.toList_ofList]
        rintro rfl
        exact hw.nonempty hsaid.symm
      · intro c hc
        rw [String.toList_ofList] at hc
        have hmem : c.toLower ∈ word.toList := hsaid ▸ List.mem_map_of_mem hc
        refine Bool.eq_false_iff.mpr fun hblank => ?_
        have hnot := hw.noBlank _ hmem
        rw [isBlank_toLower hblank] at hnot
        cases hnot
    have htight := hsaidword.tight
    have hne := hsaidword.nonempty
    rw [String.toList_ofList] at htight hne
    apply String.toList_inj.mp
    rw [hchars, hsplit, trimChars_of_split hbefore hafter htight hne, hsaid]

/-! ### Questions -/

/-- The names that a user may put to a node, each with the method that is called. -/
def questions : List (String × String) :=
  [("getinfo", "getinfo"), ("listfunds", "listfunds"), ("listpeers", "listpeers"),
    ("listpeerchannels", "listpeerchannels"), ("listinvoices", "listinvoices"),
    ("listpayments", "listpays"), ("listpays", "listpays")]

theorem isWord_question : ∀ q ∈ questions, IsWord q.1 := by
  intro q hq
  have hall : ∀ q ∈ questions, q.1.toList ≠ [] ∧ q.1.toList.all (fun c => !isBlank c) = true := by
    decide +kernel
  obtain ⟨hne, hletters⟩ := hall q hq
  refine ⟨hne, fun c hc => ?_⟩
  have hc' := List.all_eq_true.mp hletters c hc
  rwa [Bool.not_eq_true'] at hc'

theorem lookup_names_of_mem {q : String × String} (hq : q ∈ questions) :
    ∃ c, NodeCommand.names.lookup q.1 = some c ∧ c.method = q.2 := by
  have hall : ∀ q ∈ questions, (NodeCommand.names.lookup q.1).map (·.method) = some q.2 := by
    decide +kernel
  exact Option.map_eq_some_iff.mp (hall q hq)

theorem mem_of_lookup_names {name : String} {c : NodeCommand}
    (h : NodeCommand.names.lookup name = some c) : (name, c.method) ∈ questions := by
  obtain ⟨before, after, hnames, -⟩ := List.lookup_eq_some_iff.mp h
  have hmem : (name, c) ∈ NodeCommand.names := by simp [hnames]
  have hall : ∀ e ∈ NodeCommand.names, (e.1, e.2.method) ∈ questions := by decide +kernel
  exact hall (name, c) hmem

/-- A text that says a name is that question. -/
theorem parse_of_says {q : String × String} (hq : q ∈ questions) {text : String}
    (h : Says q.1 text) : ∃ c, NodeCommand.parse text = .ok c ∧ c.method = q.2 := by
  obtain ⟨c, hc, hmethod⟩ := lookup_names_of_mem hq
  refine ⟨c, ?_, hmethod⟩
  rw [NodeCommand.parse, (lower_trim_eq_iff (isWord_question q hq) text).mpr h, hc]

/-- A text that says none of the names is no question. -/
theorem parse_of_silent {text : String} (h : ∀ q ∈ questions, ¬ Says q.1 text) :
    NodeCommand.parse text = .error (.command text) := by
  cases hc : NodeCommand.names.lookup (lower (trim text)) with
  | none => rw [NodeCommand.parse, hc]
  | some c =>
    have hq := mem_of_lookup_names hc
    have htold : Says (lower (trim text)) text :=
      (lower_trim_eq_iff (isWord_question _ hq) text).mp rfl
    have hnot := h (lower (trim text), c.method) hq
    exact absurd htold hnot

/-! ### Commands -/

namespace Node

variable {σ κ : Type} [Net σ]

/-- What a command comes to. -/
structure Confined (n : Node) (text : String) (w : World σ κ) (result : Except NodeError String)
    (after : World σ κ) : Prop where
  /-- Neither the store nor the events are touched. -/
  apart : after.store = w.store ∧ after.events = w.events
  unknown : (∀ q ∈ questions, ¬ Says q.1 text) →
    result = .error (.generic ("command not found: " ++ text)) ∧ after = w
  notStarted : ∀ q ∈ questions, Says q.1 text → n.link = none →
    result = .error (.connectivity "node is not started, call start() first") ∧ after = w
  asked : ∀ q ∈ questions, Says q.1 text → ∀ c, n.link = some c →
    after.traffic = w.traffic ++ [.called c q.2 []] ∧ after.net = (Net.answer c q.2 [] w.net).2
  failed : ∀ q ∈ questions, Says q.1 text → ∀ c, n.link = some c → ∀ e,
    (Net.answer c q.2 [] w.net).1 = .error e → result = .error (.ofTransport e)
  answered : ∀ q ∈ questions, Says q.1 text → ∀ c, n.link = some c → ∀ v,
    (Net.answer c q.2 [] w.net).1 = .ok v →
      result = .ok v.pretty ∧ (Plain v → depth v ≤ 127 → read v.pretty = .ok v)

theorem outcome_command_of_error {n : Node} {text : String} {e : NameError}
    (h : NodeCommand.parse text = .error e) (w : World σ κ) :
    (n.command text : Act σ κ NodeError String).outcome w = (.error (.generic e.message), w) := by
  rw [command, h, outcome_bind, outcome_ofExcept]
  rfl

theorem outcome_command_of_not_started {n : Node} {text : String} {q : NodeCommand}
    (h : NodeCommand.parse text = .ok q) (hl : n.link = none) (w : World σ κ) :
    (n.command text : Act σ κ NodeError String).outcome w =
      (.error (.connectivity "node is not started, call start() first"), w) := by
  rw [command, h, outcome_bind, outcome_ofExcept]
  show (Act.ofExcept n.started >>= _ : Act σ κ NodeError String).outcome w = _
  rw [outcome_bind, outcome_ofExcept, started_of_noLink hl]

theorem outcome_command {n : Node} {text : String} {q : NodeCommand} {c : Connection}
    (h : NodeCommand.parse text = .ok q) (hl : n.link = some c) (w : World σ κ) :
    (n.command text : Act σ κ NodeError String).outcome w =
      (((Net.answer c q.method [] w.net).1.mapError .ofTransport).map Json.pretty,
        askedOver c q.method
          (w.note (.logged (.of .debug ("executing " ++ q.method ++ " on " ++ c.address))))) := by
  rw [command, h, outcome_bind, outcome_ofExcept]
  show (Act.ofExcept n.started >>= _ : Act σ κ NodeError String).outcome w = _
  rw [outcome_bind, outcome_ofExcept, started_of_link hl]
  simp only [outcome_bind, outcome_log, outcome_mapError, outcome_call, World.net_note, askedOver]
  cases (Net.answer c q.method [] w.net).1 with
  | error e => rfl
  | ok v => rfl

/-- **A command only asks.** Whatever the text, the node and the world: no call is made if the text
does not say one of the names, or if the node is not started; otherwise one call is made, without
parameters and for the method of the name, and what the node answers is lost in no part. -/
theorem command_confined (n : Node) (text : String) (w : World σ κ) :
    Confined n text w ((n.command text : Act σ κ NodeError String).outcome w).1
      ((n.command text : Act σ κ NodeError String).outcome w).2 := by
  by_cases hsilent : ∀ q ∈ questions, ¬ Says q.1 text
  case pos =>
    rw [outcome_command_of_error (parse_of_silent hsilent) w]
    exact ⟨⟨rfl, rfl⟩, fun _ => ⟨rfl, rfl⟩, fun q hq hs => absurd hs (hsilent q hq),
      fun q hq hs => absurd hs (hsilent q hq), fun q hq hs => absurd hs (hsilent q hq),
      fun q hq hs => absurd hs (hsilent q hq)⟩
  case neg =>
    -- all names that the text says are the same question
    obtain ⟨command, hparse⟩ : ∃ command, NodeCommand.parse text = .ok command := by
      push Not at hsilent
      obtain ⟨q, hq, hs⟩ := hsilent
      obtain ⟨command, hparse, -⟩ := parse_of_says hq hs
      exact ⟨command, hparse⟩
    have hmethod : ∀ q ∈ questions, Says q.1 text → q.2 = command.method := by
      intro q hq hs
      obtain ⟨command', hparse', hmethod⟩ := parse_of_says hq hs
      rw [← hmethod, Except.ok.inj (hparse.symm.trans hparse')]
    cases hl : n.link with
    | none =>
      rw [outcome_command_of_not_started hparse hl w]
      exact ⟨⟨rfl, rfl⟩, fun h => absurd h hsilent, fun _ _ _ _ => ⟨rfl, rfl⟩,
        fun _ _ _ c hc => absurd (hl.symm.trans hc) (by simp),
        fun _ _ _ c hc => absurd (hl.symm.trans hc) (by simp),
        fun _ _ _ c hc => absurd (hl.symm.trans hc) (by simp)⟩
    | some c =>
      have hlink : ∀ c', n.link = some c' → c' = c := fun c' hc =>
        Option.some.inj (hc.symm.trans hl)
      rw [outcome_command hparse hl w]
      refine ⟨⟨rfl, by simp [askedOver, Happening.event?]⟩, fun h => absurd h hsilent,
        fun _ _ _ hnone => absurd (hl.symm.trans hnone) (by simp), ?_, ?_, ?_⟩
      · intro q hq hs c' hc
        rw [hmethod q hq hs, hlink c' hc]
        exact ⟨by simp [askedOver, Happening.isTraffic], rfl⟩
      · intro q hq hs c' hc e he
        rw [hmethod q hq hs, hlink c' hc] at he
        rw [he]
        rfl
      · intro q hq hs c' hc v hv
        rw [hmethod q hq hs, hlink c' hc] at hv
        rw [hv]
        exact ⟨rfl, read_pretty⟩

/-- A node that is started. -/
def onLine : Node := { (default : Node) with link := some ⟨"https://node", ⟨none, []⟩⟩ }

/-- What it answers. -/
def payments : Json := .obj [("pays", .arr [.obj [("amount", .int 7), ("bolt11", .str "ln\"")]])]

/-- A world in which it answers. -/
def paymentsWorld : World Script Unit :=
  ⟨[("https://node", [("listpays", [.ok payments])])], (), []⟩

theorem command_confined_payments :
    Says "listpayments" "\u3000ListPayments\n" ∧ Plain payments ∧ depth payments ≤ 127 ∧
      ∃ t, ((onLine.command "\u3000ListPayments\n" :
        Act Script Unit NodeError String).outcome paymentsWorld).1 = .ok t ∧
          read t = .ok payments := by
  have htold : Says "listpayments" "\u3000ListPayments\n" :=
    ⟨['\u3000'], ['L', 'i', 's', 't', 'P', 'a', 'y', 'm', 'e', 'n', 't', 's'], ['\n'], by
      decide +kernel, List.all_eq_true.mp (by decide +kernel),
      List.all_eq_true.mp (by decide +kernel), by decide +kernel⟩
  have hplain : Plain payments := by
    have hsorted : "amount" < "bolt11" := by decide +kernel
    have hamount : InRange 7 := by simp [InRange]
    exact ⟨List.pairwise_singleton .., ⟨⟨List.pairwise_pair.mpr hsorted, hamount, trivial, trivial⟩,
      trivial⟩, trivial⟩
  have hdepth : depth payments ≤ 127 := by decide
  have h := command_confined onLine "\u3000ListPayments\n" paymentsWorld
  obtain ⟨hresult, hread⟩ :=
    h.answered ("listpayments", "listpays") (by decide) htold _ rfl payments rfl
  exact ⟨htold, hplain, hdepth, _, hresult, hread hplain hdepth⟩

end Node

end HostedNode

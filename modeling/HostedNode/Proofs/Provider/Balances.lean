import HostedNode.Provider.Report
import Mathlib.Algebra.BigOperators.Group.List.Basic
import Mathlib.Data.UInt

/-! # The balances of a node agree with what it reports

The state that the answers of a node make is consistent, if its sums fit into 64 bits
(`Report.Consistent`): what is held in channels and what can be received make the most that a node
may hold, nothing that is held is kept back, and every balance is told by the channels and outputs
that count. The others do not matter, nor does any order (`Report.sameBalances_of_rearranged`), and
channels that come to those there are add to the balance (`Report.consistent_state`). -/

namespace HostedNode

/-! ### Sums -/

theorem sumMsat_eq_sum (as : List UInt64) : sumMsat as = as.sum := List.sum_eq_foldl.symm

/-- A sum that fits is the sum. -/
theorem toNat_sum {as : List UInt64} (h : (as.map UInt64.toNat).sum < UInt64.size) :
    as.sum.toNat = (as.map UInt64.toNat).sum := by
  induction as with
  | nil => rfl
  | cons a as ih =>
    rw [List.map_cons, List.sum_cons] at h
    have hrest : as.sum.toNat = (as.map UInt64.toNat).sum := ih (by omega)
    rw [List.sum_cons, UInt64.toNat_add, hrest, Nat.mod_eq_of_lt h, List.map_cons, List.sum_cons]

/-! ### Largest amounts -/

theorem toNat_max (a b : UInt64) : (max a b).toNat = max a.toNat b.toNat := by
  show (if a ≤ b then b else a).toNat = max a.toNat b.toNat
  split
  · next h =>
    rw [UInt64.le_iff_toNat_le] at h
    omega
  · next h =>
    rw [UInt64.le_iff_toNat_le] at h
    omega

theorem toNat_foldl_max (as : List UInt64) (a : UInt64) :
    (as.foldl max a).toNat = max a.toNat ((as.map UInt64.toNat).foldr max 0) := by
  induction as generalizing a with
  | nil => simp
  | cons b as ih =>
    rw [List.foldl_cons, ih, toNat_max, List.map_cons, List.foldr_cons]
    omega

theorem toNat_largestMsat (as : List UInt64) :
    (largestMsat as).toNat = (as.map UInt64.toNat).foldr max 0 := by
  rw [largestMsat, toNat_foldl_max]
  exact Nat.zero_max _

/-- No amount is larger than the largest one. -/
theorem toNat_le_largestMsat {as : List UInt64} {a : UInt64} (h : a ∈ as) :
    a.toNat ≤ (largestMsat as).toNat := by
  rw [toNat_largestMsat]
  induction as with
  | nil => cases h
  | cons b as ih =>
    rw [List.map_cons, List.foldr_cons]
    rcases List.mem_cons.mp h with rfl | h
    · exact Nat.le_max_left _ _
    · exact (ih h).trans (Nat.le_max_right _ _)

theorem foldl_max_mem (as : List UInt64) (a : UInt64) : as.foldl max a ∈ a :: as := by
  induction as generalizing a with
  | nil => exact List.mem_singleton_self a
  | cons b as ih =>
    have hstep : max a b = a ∨ max a b = b := by
      show (if a ≤ b then b else a) = a ∨ (if a ≤ b then b else a) = b
      split
      · exact Or.inr rfl
      · exact Or.inl rfl
    rw [List.foldl_cons]
    rcases List.mem_cons.mp (ih (max a b)) with h | h
    · rw [h]
      rcases hstep with hab | hab
      · rw [hab]
        exact List.mem_cons_self
      · rw [hab]
        exact List.mem_cons_of_mem a List.mem_cons_self
    · exact List.mem_cons_of_mem a (List.mem_cons_of_mem b h)

/-- The largest amount is one of them, if there are any. -/
theorem largestMsat_mem {as : List UInt64} (h : as ≠ []) : largestMsat as ∈ as := by
  obtain ⟨a, as, rfl⟩ := List.exists_cons_of_ne_nil h
  have hzero : max 0 a = a := if_pos (UInt64.le_iff_toNat_le.mpr (Nat.zero_le _))
  rw [largestMsat, List.foldl_cons, hzero]
  exact foldl_max_mem as a

theorem foldr_max_append (xs ys : List Nat) :
    (xs ++ ys).foldr max 0 = max (xs.foldr max 0) (ys.foldr max 0) := by
  induction xs with
  | nil => exact (Nat.zero_max _).symm
  | cons x xs ih => rw [List.cons_append, List.foldr_cons, List.foldr_cons, ih, Nat.max_assoc]

theorem largestMsat_perm {as bs : List UInt64} (h : as.Perm bs) :
    largestMsat as = largestMsat bs := by
  rw [← UInt64.toNat_inj, toNat_largestMsat, toNat_largestMsat]
  exact (h.map UInt64.toNat).foldr_eq 0

/-! ### Reports -/

/-- The answers of a node. -/
structure Report where
  info : NodeInfo
  outputs : List Output
  peers : List Peer
  channels : List Channel

/-- What can be spent of a channel; nothing if the node does not say. -/
def Channel.spendable (c : Channel) : Nat := (c.spendableMsat.getD 0).toNat

/-- What can be received over a channel; nothing if the node does not say. -/
def Channel.receivable (c : Channel) : Nat := (c.receivableMsat.getD 0).toNat

namespace Report

/-- The state that the answers make. -/
def state (r : Report) : NodeState := .ofReport r.info r.outputs r.peers r.channels

/-- The channels that can be used for payments. -/
def usable (r : Report) : List Channel := r.channels.filter fun c => c.state = "CHANNELD_NORMAL"

/-- The outputs that are not reserved. -/
def free (r : Report) : List Output := r.outputs.filter fun o => o.reserved = false

/-- The sums of the amounts fit into 64 bits. -/
structure Fits (r : Report) : Prop where
  spendable : (r.usable.map Channel.spendable).sum < UInt64.size
  amounts : (r.free.map (·.amountMsat.toNat)).sum < UInt64.size

/-- An output as the state lists it. -/
structure Lists (o : Output) (u : UnspentOutput) : Prop where
  txid : u.txid = o.txid
  outnum : u.outnum = o.output
  amount : u.amountMsat = o.amountMsat
  address : u.address = o.address.getD ""
  reserved : u.reserved = o.reserved

/-- A state says what a report does, and its balances agree with each other. -/
structure Consistent (r : Report) (s : NodeState) : Prop where
  id : s.id = r.info.id
  height : s.blockHeight = r.info.blockHeight
  balance : s.channelsBalanceMsat.toNat = (r.usable.map Channel.spendable).sum
  payable : s.maxPayableMsat = s.channelsBalanceMsat
  receivable : s.channelsBalanceMsat.toNat + s.maxReceivableMsat.toNat =
    max s.channelsBalanceMsat.toNat 4000000000
  reserve : s.maxChanReserveMsats.toNat = s.channelsBalanceMsat.toNat - s.maxPayableMsat.toNat ∧
    s.maxChanReserveMsats = 0
  inbound_le : ∀ c ∈ r.usable, c.receivable ≤ s.inboundLiquidityMsats.toNat
  inbound_mem : r.usable ≠ [] → ∃ c ∈ r.usable, c.receivable = s.inboundLiquidityMsats.toNat
  inbound_none : r.usable = [] → s.inboundLiquidityMsats = 0
  onchain : s.onchainBalanceMsat.toNat =
    ((s.utxos.filter fun u => u.reserved = false).map (·.amountMsat.toNat)).sum
  utxos : List.Forall₂ Lists r.outputs s.utxos
  peers : s.connectedPeers = (r.peers.filter (·.connected)).map (·.id)

/-- The balances of two states are the same. -/
structure SameBalances (s s' : NodeState) : Prop where
  channels : s'.channelsBalanceMsat = s.channelsBalanceMsat
  onchain : s'.onchainBalanceMsat = s.onchainBalanceMsat
  payable : s'.maxPayableMsat = s.maxPayableMsat
  receivable : s'.maxReceivableMsat = s.maxReceivableMsat
  single : s'.maxSinglePaymentAmountMsat = s.maxSinglePaymentAmountMsat
  reserve : s'.maxChanReserveMsats = s.maxChanReserveMsats
  inbound : s'.inboundLiquidityMsats = s.inboundLiquidityMsats

/-- The second report has the channels and outputs of the first one in another order, and there are
more or fewer in it of those that do not count. -/
inductive Rearranged : Report → Report → Prop where
  | channels {r : Report} {cs : List Channel} (h : r.channels.Perm cs) :
    Rearranged r { r with channels := cs }
  | outputs {r : Report} {os : List Output} (h : r.outputs.Perm os) :
    Rearranged r { r with outputs := os }
  | channel {r : Report} {before after : List Channel} {c : Channel}
    (h : c.state ≠ "CHANNELD_NORMAL") :
    Rearranged { r with channels := before ++ after } { r with channels := before ++ c :: after }
  | output {r : Report} {before after : List Output} {o : Output} (h : o.reserved = true) :
    Rearranged { r with outputs := before ++ after } { r with outputs := before ++ o :: after }
  | peer {r : Report} {before after : List Peer} {p : Peer} (h : p.connected = false) :
    Rearranged { r with peers := before ++ after } { r with peers := before ++ p :: after }
  | symm {r r' : Report} (h : Rearranged r r') : Rearranged r' r
  | trans {r r' r'' : Report} (h : Rearranged r r') (h' : Rearranged r' r'') : Rearranged r r''

/-! ### What the state is made of -/

variable (r : Report)

theorem channelsBalance_state :
    r.state.channelsBalanceMsat = (r.usable.map fun c => c.spendableMsat.getD 0).sum :=
  sumMsat_eq_sum _

theorem onchainBalance_state :
    r.state.onchainBalanceMsat = (r.free.map Output.amountMsat).sum := by
  have hfree : (fun o : Output => !o.reserved) = fun o => decide (o.reserved = false) := by
    funext o
    cases o.reserved <;> rfl
  show sumMsat ((r.outputs.filter fun o => !o.reserved).map Output.amountMsat) = _
  rw [sumMsat_eq_sum, hfree, free]

theorem inbound_state :
    r.state.inboundLiquidityMsats = largestMsat (r.usable.map fun c => c.receivableMsat.getD 0) :=
  rfl

theorem maxReceivable_state :
    r.state.maxReceivableMsat = leftMsat maxHeldMsat r.state.channelsBalanceMsat := rfl

theorem toNat_leftMsat (a b : UInt64) : (leftMsat a b).toNat = a.toNat - b.toNat := by
  unfold leftMsat
  split
  · next h => exact UInt64.toNat_sub_of_le a b h
  · next h =>
    rw [UInt64.le_iff_toNat_le] at h
    exact (Nat.sub_eq_zero_of_le (by omega)).symm

variable {r}

/-! ### Consistency -/

theorem toNat_channelsBalance (h : r.Fits) :
    r.state.channelsBalanceMsat.toNat = (r.usable.map Channel.spendable).sum := by
  have hamounts : (r.usable.map fun c => c.spendableMsat.getD 0).map UInt64.toNat =
      r.usable.map Channel.spendable := List.map_map
  have hfits := h.spendable
  rw [← hamounts] at hfits ⊢
  rw [channelsBalance_state, toNat_sum hfits]

/-- The outputs that are not reserved are listed as such. -/
theorem amounts_free (r : Report) :
    ((r.state.utxos.filter fun u => u.reserved = false).map (·.amountMsat.toNat)) =
      (r.free.map Output.amountMsat).map UInt64.toNat := by
  show ((r.outputs.map Output.toUnspent).filter _).map _ = _
  rw [List.filter_map, List.map_map, List.map_map]
  rfl

theorem forall₂_utxos (os : List Output) : List.Forall₂ Lists os (os.map Output.toUnspent) := by
  rw [List.forall₂_map_right_iff, List.forall₂_same]
  exact fun o _ => ⟨rfl, rfl, rfl, rfl, rfl⟩

theorem consistent_of_fits (h : r.Fits) : r.Consistent r.state where
  id := rfl
  height := rfl
  balance := toNat_channelsBalance h
  payable := rfl
  receivable := by
    have hmost : maxHeldMsat.toNat = 4000000000 := rfl
    rw [maxReceivable_state, toNat_leftMsat, hmost]
    omega
  reserve := by
    have hleft : r.state.maxChanReserveMsats.toNat =
        r.state.channelsBalanceMsat.toNat - r.state.maxPayableMsat.toNat := toNat_leftMsat _ _
    refine ⟨hleft, UInt64.toNat_inj.mp ?_⟩
    rw [hleft]
    exact Nat.sub_self _
  inbound_le c hc := toNat_le_largestMsat (List.mem_map_of_mem hc)
  inbound_mem hne := by
    have hmem : r.state.inboundLiquidityMsats ∈ r.usable.map fun c => c.receivableMsat.getD 0 :=
      largestMsat_mem (by simpa using hne)
    obtain ⟨c, hc, hreceivable⟩ := List.mem_map.mp hmem
    exact ⟨c, hc, congrArg UInt64.toNat hreceivable⟩
  inbound_none hnil := by
    rw [inbound_state, hnil]
    rfl
  onchain := by
    have hfits : ((r.free.map Output.amountMsat).map UInt64.toNat).sum < UInt64.size := by
      rw [List.map_map]
      exact h.amounts
    rw [onchainBalance_state, toNat_sum hfits, amounts_free]
  utxos := forall₂_utxos r.outputs
  peers := rfl

/-! ### Other orders, and what does not count -/

theorem SameBalances.symm {s s' : NodeState} (h : SameBalances s s') : SameBalances s' s :=
  ⟨h.channels.symm, h.onchain.symm, h.payable.symm, h.receivable.symm, h.single.symm,
    h.reserve.symm, h.inbound.symm⟩

theorem SameBalances.trans {s s' s'' : NodeState} (h : SameBalances s s')
    (h' : SameBalances s' s'') : SameBalances s s'' :=
  ⟨h'.channels.trans h.channels, h'.onchain.trans h.onchain, h'.payable.trans h.payable,
    h'.receivable.trans h.receivable, h'.single.trans h.single, h'.reserve.trans h.reserve,
    h'.inbound.trans h.inbound⟩

/-- Only usable channels and free outputs count, in any order. -/
theorem sameBalances_of_perm {r r' : Report} (hchannels : r.usable.Perm r'.usable)
    (houtputs : r.free.Perm r'.free) : SameBalances r.state r'.state := by
  have hbalance : r'.state.channelsBalanceMsat = r.state.channelsBalanceMsat := by
    rw [channelsBalance_state, channelsBalance_state]
    exact (hchannels.map _).sum_eq.symm
  refine ⟨hbalance, ?_, hbalance, ?_, rfl, ?_, ?_⟩
  · rw [onchainBalance_state, onchainBalance_state]
    exact (houtputs.map _).sum_eq.symm
  · rw [maxReceivable_state, maxReceivable_state, hbalance]
  · show leftMsat r'.state.channelsBalanceMsat r'.state.channelsBalanceMsat =
      leftMsat r.state.channelsBalanceMsat r.state.channelsBalanceMsat
    rw [hbalance]
  · rw [inbound_state, inbound_state]
    exact (largestMsat_perm (hchannels.map _)).symm

/-- **Neither order nor what does not count makes a difference to the balances.** -/
theorem sameBalances_of_rearranged {r r' : Report} (h : Rearranged r r') :
    SameBalances r.state r'.state := by
  induction h with
  | channels h => exact sameBalances_of_perm (h.filter _) (.refl _)
  | outputs h => exact sameBalances_of_perm (.refl _) (h.filter _)
  | channel h =>
    refine sameBalances_of_perm (.of_eq ?_) (.refl _)
    simp [usable, h]
  | output h =>
    refine sameBalances_of_perm (.refl _) (.of_eq ?_)
    simp [free, h]
  | peer h => exact sameBalances_of_perm (.refl _) (.refl _)
  | symm h ih => exact ih.symm
  | trans h h' ih ih' => exact ih.trans ih'

/-! ### More channels -/

/-- The report with these channels. -/
def withChannels (r : Report) (cs : List Channel) : Report := { r with channels := cs }

theorem usable_append (r : Report) (xs ys : List Channel) :
    (r.withChannels (xs ++ ys)).usable =
      (r.withChannels xs).usable ++ (r.withChannels ys).usable := List.filter_append _ _

theorem Fits.of_append {xs ys : List Channel} (h : (r.withChannels (xs ++ ys)).Fits) :
    (r.withChannels xs).Fits ∧ (r.withChannels ys).Fits := by
  have hsum := h.spendable
  rw [usable_append, List.map_append, List.sum_append] at hsum
  exact ⟨⟨by omega, h.amounts⟩, ⟨by omega, h.amounts⟩⟩

theorem channelsBalance_append {xs ys : List Channel} (h : (r.withChannels (xs ++ ys)).Fits) :
    (r.withChannels (xs ++ ys)).state.channelsBalanceMsat.toNat =
      (r.withChannels xs).state.channelsBalanceMsat.toNat +
        (r.withChannels ys).state.channelsBalanceMsat.toNat := by
  rw [toNat_channelsBalance h, toNat_channelsBalance h.of_append.1,
    toNat_channelsBalance h.of_append.2, usable_append, List.map_append, List.sum_append]

theorem inbound_append (r : Report) (xs ys : List Channel) :
    (r.withChannels (xs ++ ys)).state.inboundLiquidityMsats.toNat =
      max (r.withChannels xs).state.inboundLiquidityMsats.toNat
        (r.withChannels ys).state.inboundLiquidityMsats.toNat := by
  rw [inbound_state, inbound_state, inbound_state, usable_append, toNat_largestMsat,
    toNat_largestMsat, toNat_largestMsat, List.map_append, List.map_append, foldr_max_append]

/-- **The state of a node agrees with what the node reports.** If the sums fit into 64 bits, the
state says what the report does, and its balances agree with each other; a report with the same
channels and outputs in another order, and with more or fewer of those that do not count, has the
same balances; and if the channels are those of two lists, one behind the other, the balance is the
sum of the balances with each list, and the largest amount that can be received is the larger one of
the two. -/
theorem consistent_state (r : Report) (h : r.Fits) :
    r.Consistent r.state ∧
      (∀ r', Rearranged r r' → SameBalances r.state r'.state) ∧
      ∀ xs ys, r.channels = xs ++ ys →
        r.state.channelsBalanceMsat.toNat =
            (r.withChannels xs).state.channelsBalanceMsat.toNat +
              (r.withChannels ys).state.channelsBalanceMsat.toNat ∧
          r.state.inboundLiquidityMsats.toNat =
            max (r.withChannels xs).state.inboundLiquidityMsats.toNat
              (r.withChannels ys).state.inboundLiquidityMsats.toNat := by
  refine ⟨consistent_of_fits h, fun r' => sameBalances_of_rearranged, fun xs ys hsplit => ?_⟩
  have hr : r = r.withChannels (xs ++ ys) := by rw [← hsplit]; rfl
  rw [hr] at h
  have hbalance := channelsBalance_append h
  have hinbound := inbound_append r xs ys
  rw [← hr] at hbalance hinbound
  exact ⟨hbalance, hinbound⟩

/-- A node with two usable channels and one that is closed, an output that is reserved and one that
is not. -/
def mixed : Report where
  info := ⟨"02aa", 800123⟩
  outputs := [⟨"t1", 0, 50000000, some "bc1qa", false⟩, ⟨"t2", 2, 9000, none, true⟩]
  peers := [⟨"03aa", true⟩, ⟨"03bb", false⟩]
  channels := [⟨"CHANNELD_NORMAL", some 900000, some 3000000⟩, ⟨"ONCHAIN", some 7, some 9⟩,
    ⟨"CHANNELD_NORMAL", none, some 5000000⟩]

theorem consistent_mixed :
    mixed.Fits ∧ mixed.Consistent mixed.state ∧ mixed.state.channelsBalanceMsat = 900000 ∧
      mixed.state.inboundLiquidityMsats = 5000000 := by
  have hfits : mixed.Fits := ⟨by decide, by decide⟩
  exact ⟨hfits, (consistent_state mixed hfits).1, by decide, by decide⟩

end Report

end HostedNode

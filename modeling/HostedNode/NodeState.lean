import HostedNode.Json.Coded

/-! # The state of a node

A snapshot of a node: its height, balances, unspent outputs and peers. Amounts are in thousandths of
a satoshi. -/

namespace HostedNode

open Json Text

/-- An output that can be spent. -/
structure UnspentOutput where
  txid : String
  outnum : UInt32
  amountMsat : UInt64
  /-- The address, empty if unknown. -/
  address : String
  reserved : Bool
deriving DecidableEq, Repr, Inhabited

namespace UnspentOutput

/-- Reads an output from JSON. -/
def reader : RecordReader UnspentOutput :=
  UnspentOutput.mk <$> .required "txid" decoder <*> .required "outnum" decoder
    <*> .required "amount_millisatoshi" decoder <*> .required "address" decoder
    <*> .required "reserved" decoder

instance : Coded UnspentOutput where
  toJson o :=
    .obj [entry "txid" o.txid, entry "outnum" o.outnum, entry "amount_millisatoshi" o.amountMsat,
      entry "address" o.address, entry "reserved" o.reserved]
  decoder := reader.decoder "UnspentTransactionOutput"

instance : Shown UnspentOutput :=
  ⟨fun o =>
    shownRecord "UnspentTransactionOutput"
      [("txid", shown o.txid), ("outnum", shown o.outnum),
        ("amount_millisatoshi", shown o.amountMsat), ("address", shown o.address),
        ("reserved", shown o.reserved)]⟩

end UnspentOutput

/-- A snapshot of a node. -/
structure NodeState where
  id : String
  blockHeight : UInt32
  channelsBalanceMsat : UInt64
  onchainBalanceMsat : UInt64
  utxos : List UnspentOutput
  maxPayableMsat : UInt64
  maxReceivableMsat : UInt64
  maxSinglePaymentAmountMsat : UInt64
  maxChanReserveMsats : UInt64
  connectedPeers : List String
  inboundLiquidityMsats : UInt64
deriving DecidableEq, Repr, Inhabited

namespace NodeState

/-- Reads a state from JSON. -/
def reader : RecordReader NodeState :=
  NodeState.mk <$> .required "id" decoder <*> .required "block_height" decoder
    <*> .required "channels_balance_msat" decoder <*> .required "onchain_balance_msat" decoder
    <*> .required "utxos" decoder <*> .required "max_payable_msat" decoder
    <*> .required "max_receivable_msat" decoder
    <*> .required "max_single_payment_amount_msat" decoder
    <*> .required "max_chan_reserve_msats" decoder <*> .required "connected_peers" decoder
    <*> .required "inbound_liquidity_msats" decoder

instance : Coded NodeState where
  toJson s :=
    .obj [entry "id" s.id, entry "block_height" s.blockHeight,
      entry "channels_balance_msat" s.channelsBalanceMsat,
      entry "onchain_balance_msat" s.onchainBalanceMsat, entry "utxos" s.utxos,
      entry "max_payable_msat" s.maxPayableMsat, entry "max_receivable_msat" s.maxReceivableMsat,
      entry "max_single_payment_amount_msat" s.maxSinglePaymentAmountMsat,
      entry "max_chan_reserve_msats" s.maxChanReserveMsats,
      entry "connected_peers" s.connectedPeers,
      entry "inbound_liquidity_msats" s.inboundLiquidityMsats]
  decoder := reader.decoder "NodeState"

instance : Shown NodeState :=
  ⟨fun s =>
    shownRecord "NodeState"
      [("id", shown s.id), ("block_height", shown s.blockHeight),
        ("channels_balance_msat", shown s.channelsBalanceMsat),
        ("onchain_balance_msat", shown s.onchainBalanceMsat), ("utxos", shown s.utxos),
        ("max_payable_msat", shown s.maxPayableMsat),
        ("max_receivable_msat", shown s.maxReceivableMsat),
        ("max_single_payment_amount_msat", shown s.maxSinglePaymentAmountMsat),
        ("max_chan_reserve_msats", shown s.maxChanReserveMsats),
        ("connected_peers", shown s.connectedPeers),
        ("inbound_liquidity_msats", shown s.inboundLiquidityMsats)]⟩

/-- The state with nothing in it. -/
def empty : NodeState := ⟨"", 0, 0, 0, [], 0, 0, 0, 0, [], 0⟩

end NodeState

end HostedNode

import HostedNode.NodeState

/-! # What a node reports

The answers of a node about itself, its funds, its peers and its channels, and the state that they
make together. A channel counts if it is in its normal state, an output if it is not reserved. -/

namespace HostedNode

open Json

/-! ### Answers -/

/-- What a node says about itself. -/
structure NodeInfo where
  id : String
  blockHeight : UInt32
deriving DecidableEq, Repr, Inhabited

/-- Reads what a node says about itself. -/
def NodeInfo.answer : Decoder NodeInfo :=
  RecordReader.decoder "GetinfoResponse"
    (NodeInfo.mk <$> .required "id" decoder <*> .required "blockheight" decoder)

/-- An output that a node holds. -/
structure Output where
  txid : String
  output : UInt32
  amountMsat : UInt64
  address : Option String
  reserved : Bool
deriving DecidableEq, Repr, Inhabited

/-- Reads an output. -/
def Output.answer : Decoder Output :=
  RecordReader.decoder "ListfundsOutput"
    (Output.mk <$> .required "txid" decoder <*> .required "output" decoder
      <*> .required "amount_msat" decoder <*> .withDefault "address" decoder none
      <*> .withDefault "reserved" decoder false)

/-- Reads the outputs of a node. -/
def Output.listAnswer : Decoder (List Output) :=
  RecordReader.decoder "ListfundsResponse" (.withDefault "outputs" Output.answer.list [])

/-- A peer of a node. -/
structure Peer where
  id : String
  connected : Bool
deriving DecidableEq, Repr, Inhabited

/-- Reads a peer. -/
def Peer.answer : Decoder Peer :=
  RecordReader.decoder "Peer"
    (Peer.mk <$> .required "id" decoder <*> .withDefault "connected" decoder false)

/-- Reads the peers of a node. -/
def Peer.listAnswer : Decoder (List Peer) :=
  RecordReader.decoder "ListpeersResponse" (.withDefault "peers" Peer.answer.list [])

/-- A channel of a node. -/
structure Channel where
  state : String
  spendableMsat : Option UInt64
  receivableMsat : Option UInt64
deriving DecidableEq, Repr, Inhabited

/-- Reads a channel. -/
def Channel.answer : Decoder Channel :=
  RecordReader.decoder "PeerChannel"
    (Channel.mk <$> .required "state" decoder <*> .withDefault "spendable_msat" decoder none
      <*> .withDefault "receivable_msat" decoder none)

/-- Reads the channels of a node. -/
def Channel.listAnswer : Decoder (List Channel) :=
  RecordReader.decoder "ListpeerchannelsResponse" (.withDefault "channels" Channel.answer.list [])

/-! ### The state -/

/-- The most that one payment can carry. -/
def maxPaymentMsat : UInt64 := 4294967000

/-- The most that a node may hold in channels. -/
def maxHeldMsat : UInt64 := 4000000000

/-- Whether a channel can be used for payments. -/
def Channel.isNormal (c : Channel) : Bool := c.state = "CHANNELD_NORMAL"

/-- The sum of amounts. -/
def sumMsat (amounts : List UInt64) : UInt64 := amounts.foldl (· + ·) 0

/-- The largest of amounts, zero if there are none. -/
def largestMsat (amounts : List UInt64) : UInt64 := amounts.foldl max 0

/-- What is left of an amount after taking another one away, zero if that is larger. -/
def leftMsat (a b : UInt64) : UInt64 := if b ≤ a then a - b else 0

/-- An output as a part of the state. -/
def Output.toUnspent (o : Output) : UnspentOutput :=
  ⟨o.txid, o.output, o.amountMsat, o.address.getD "", o.reserved⟩

/-- The state that the answers of a node make. -/
def NodeState.ofReport (info : NodeInfo) (outputs : List Output) (peers : List Peer)
    (channels : List Channel) : NodeState :=
  let normal := channels.filter Channel.isNormal
  let balance := sumMsat (normal.map fun c => c.spendableMsat.getD 0)
  let payable := balance
  { id := info.id
    blockHeight := info.blockHeight
    channelsBalanceMsat := balance
    onchainBalanceMsat := sumMsat ((outputs.filter (!·.reserved)).map Output.amountMsat)
    utxos := outputs.map Output.toUnspent
    maxPayableMsat := payable
    maxReceivableMsat := leftMsat maxHeldMsat balance
    maxSinglePaymentAmountMsat := maxPaymentMsat
    maxChanReserveMsats := leftMsat balance payable
    connectedPeers := (peers.filter Peer.connected).map Peer.id
    inboundLiquidityMsats := largestMsat (normal.map fun c => c.receivableMsat.getD 0) }

end HostedNode

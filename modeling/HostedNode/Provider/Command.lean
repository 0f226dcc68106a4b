import HostedNode.Name
import HostedNode.Text.Blank
import HostedNode.Text.Case

/-! # Commands for a node

The questions that a user may put to a node directly. None of them changes anything. -/

namespace HostedNode

open Text

/-- A question to a node. -/
inductive NodeCommand where
  | getInfo
  | listFunds
  | listPeers
  | listPeerChannels
  | listInvoices
  | listPayments
deriving DecidableEq, Repr

namespace NodeCommand

/-- The method that the node has for a question. -/
def method : NodeCommand → String
  | getInfo => "getinfo"
  | listFunds => "listfunds"
  | listPeers => "listpeers"
  | listPeerChannels => "listpeerchannels"
  | listInvoices => "listinvoices"
  | listPayments => "listpays"

/-- All questions with the names under which they can be asked. -/
def names : List (String × NodeCommand) :=
  [("getinfo", getInfo), ("listfunds", listFunds), ("listpeers", listPeers),
    ("listpeerchannels", listPeerChannels), ("listinvoices", listInvoices),
    ("listpayments", listPayments), ("listpays", listPayments)]

/-- Reads a name in any letter case, with blanks around it. -/
def parse (s : String) : Except NameError NodeCommand :=
  match names.lookup (lower (trim s)) with
  | some c => .ok c
  | none => .error (.command s)

end NodeCommand

end HostedNode

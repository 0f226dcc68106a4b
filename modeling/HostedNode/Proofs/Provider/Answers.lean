import HostedNode.Proofs.Json.Forms
import HostedNode.Provider.Report

/-! # What a node tells

Which values are answers of a node about itself, its outputs, its peers and its channels, and what
they tell. Each record stands as an object with its fields under their names or as an array of them;
a list of records stands alone in a record of its own. These are all the answers that are taken
(`NodeInfo.reads_answer`, `Output.reads_listAnswer`, `Peer.reads_listAnswer`,
`Channel.reads_listAnswer`). -/

namespace HostedNode

open Json Json.Decoder Json.RecordReader

/-! ### One record -/

/-- The value tells this about a node. -/
inductive NodeInfo.Told : Json → NodeInfo → Prop where
  | keyed {fs : List (String × Json)} {i : NodeInfo} (id : Stands IsText none "id" fs i.id)
    (blockHeight : Stands IsUInt32 none "blockheight" fs i.blockHeight) : Told (.obj fs) i
  | listed {vs ws : List Json} {i : NodeInfo} (id : Next IsText none vs i.id ws)
    (blockHeight : Next IsUInt32 none ws i.blockHeight []) : Told (.arr vs) i

theorem NodeInfo.reads_answer : NodeInfo.answer.Reads NodeInfo.Told := by
  intro p v i
  have hreads := (reads_map NodeInfo.mk (reads_field reads_string "id" none none)).seq
    (reads_field reads_uint32 "blockheight" none none)
  refine (decode_eq_ok_iff hreads (by decide) "GetinfoResponse" p v i).trans ?_
  constructor
  · rintro (⟨fs, rfl, _, _, ⟨_, hid, rfl⟩, hheight, rfl⟩ |
      ⟨vs, rfl, _, _, ws, ⟨_, hid, rfl⟩, hheight, rfl⟩)
    · exact .keyed hid hheight
    · exact .listed hid hheight
  · rintro (⟨hid, hheight⟩ | ⟨hid, hheight⟩)
    · exact Or.inl ⟨_, rfl, _, _, ⟨_, hid, rfl⟩, hheight, rfl⟩
    · exact Or.inr ⟨_, rfl, _, _, _, ⟨_, hid, rfl⟩, hheight, rfl⟩

/-- The value tells of an output. -/
inductive Output.Told : Json → Output → Prop where
  | keyed {fs : List (String × Json)} {o : Output} (txid : Stands IsText none "txid" fs o.txid)
    (output : Stands IsUInt32 none "output" fs o.output)
    (amountMsat : Stands IsUInt64 none "amount_msat" fs o.amountMsat)
    (address : Stands (OrNull IsText) (some none) "address" fs o.address)
    (reserved : Stands IsBool (some false) "reserved" fs o.reserved) : Told (.obj fs) o
  | listed {vs vs1 vs2 vs3 vs4 : List Json} {o : Output} (txid : Next IsText none vs o.txid vs1)
    (output : Next IsUInt32 none vs1 o.output vs2)
    (amountMsat : Next IsUInt64 none vs2 o.amountMsat vs3)
    (address : Next (OrNull IsText) (some none) vs3 o.address vs4)
    (reserved : Next IsBool (some false) vs4 o.reserved []) : Told (.arr vs) o

theorem Output.reads_answer : Output.answer.Reads Output.Told := by
  intro p v o
  have hreads := ((((reads_map Output.mk (reads_field reads_string "txid" none none)).seq
    (reads_field reads_uint32 "output" none none)).seq
    (reads_field reads_uint64 "amount_msat" none none)).seq
    (reads_field (reads_option reads_string) "address" (some none) (some none))).seq
    (reads_field reads_bool "reserved" (some false) (some false))
  refine (decode_eq_ok_iff hreads (by decide) "ListfundsOutput" p v o).trans ?_
  constructor
  · rintro (⟨fs, rfl, _, _, ⟨_, _, ⟨_, _, ⟨_, _, ⟨_, htxid, rfl⟩, houtput, rfl⟩, hamount, rfl⟩,
        haddress, rfl⟩, hreserved, rfl⟩ |
      ⟨vs, rfl, _, _, _, ⟨_, _, _, ⟨_, _, _, ⟨_, _, _, ⟨_, htxid, rfl⟩, houtput, rfl⟩, hamount,
        rfl⟩, haddress, rfl⟩, hreserved, rfl⟩)
    · exact .keyed htxid houtput hamount haddress hreserved
    · exact .listed htxid houtput hamount haddress hreserved
  · rintro (⟨htxid, houtput, hamount, haddress, hreserved⟩ |
      ⟨htxid, houtput, hamount, haddress, hreserved⟩)
    · exact Or.inl ⟨_, rfl, _, _, ⟨_, _, ⟨_, _, ⟨_, _, ⟨_, htxid, rfl⟩, houtput, rfl⟩, hamount,
        rfl⟩, haddress, rfl⟩, hreserved, rfl⟩
    · exact Or.inr ⟨_, rfl, _, _, _, ⟨_, _, _, ⟨_, _, _, ⟨_, _, _, ⟨_, htxid, rfl⟩, houtput, rfl⟩,
        hamount, rfl⟩, haddress, rfl⟩, hreserved, rfl⟩

/-- The value tells of a peer. -/
inductive Peer.Told : Json → Peer → Prop where
  | keyed {fs : List (String × Json)} {q : Peer} (id : Stands IsText none "id" fs q.id)
    (connected : Stands IsBool (some false) "connected" fs q.connected) : Told (.obj fs) q
  | listed {vs ws : List Json} {q : Peer} (id : Next IsText none vs q.id ws)
    (connected : Next IsBool (some false) ws q.connected []) : Told (.arr vs) q

theorem Peer.reads_answer : Peer.answer.Reads Peer.Told := by
  intro p v q
  have hreads := (reads_map Peer.mk (reads_field reads_string "id" none none)).seq
    (reads_field reads_bool "connected" (some false) (some false))
  refine (decode_eq_ok_iff hreads (by decide) "Peer" p v q).trans ?_
  constructor
  · rintro (⟨fs, rfl, _, _, ⟨_, hid, rfl⟩, hconnected, rfl⟩ |
      ⟨vs, rfl, _, _, _, ⟨_, hid, rfl⟩, hconnected, rfl⟩)
    · exact .keyed hid hconnected
    · exact .listed hid hconnected
  · rintro (⟨hid, hconnected⟩ | ⟨hid, hconnected⟩)
    · exact Or.inl ⟨_, rfl, _, _, ⟨_, hid, rfl⟩, hconnected, rfl⟩
    · exact Or.inr ⟨_, rfl, _, _, _, ⟨_, hid, rfl⟩, hconnected, rfl⟩

/-- The value tells of a channel. -/
inductive Channel.Told : Json → Channel → Prop where
  | keyed {fs : List (String × Json)} {c : Channel} (state : Stands IsText none "state" fs c.state)
    (spendable : Stands (OrNull IsUInt64) (some none) "spendable_msat" fs c.spendableMsat)
    (receivable : Stands (OrNull IsUInt64) (some none) "receivable_msat" fs c.receivableMsat) :
    Told (.obj fs) c
  | listed {vs vs1 vs2 : List Json} {c : Channel} (state : Next IsText none vs c.state vs1)
    (spendable : Next (OrNull IsUInt64) (some none) vs1 c.spendableMsat vs2)
    (receivable : Next (OrNull IsUInt64) (some none) vs2 c.receivableMsat []) : Told (.arr vs) c

theorem Channel.reads_answer : Channel.answer.Reads Channel.Told := by
  intro p v c
  have hreads := ((reads_map Channel.mk (reads_field reads_string "state" none none)).seq
    (reads_field (reads_option reads_uint64) "spendable_msat" (some none) (some none))).seq
    (reads_field (reads_option reads_uint64) "receivable_msat" (some none) (some none))
  refine (decode_eq_ok_iff hreads (by decide) "PeerChannel" p v c).trans ?_
  constructor
  · rintro (⟨fs, rfl, _, _, ⟨_, _, ⟨_, hstate, rfl⟩, hspendable, rfl⟩, hreceivable, rfl⟩ |
      ⟨vs, rfl, _, _, _, ⟨_, _, _, ⟨_, hstate, rfl⟩, hspendable, rfl⟩, hreceivable, rfl⟩)
    · exact .keyed hstate hspendable hreceivable
    · exact .listed hstate hspendable hreceivable
  · rintro (⟨hstate, hspendable, hreceivable⟩ | ⟨hstate, hspendable, hreceivable⟩)
    · exact Or.inl ⟨_, rfl, _, _, ⟨_, _, ⟨_, hstate, rfl⟩, hspendable, rfl⟩, hreceivable, rfl⟩
    · exact Or.inr ⟨_, rfl, _, _, _, ⟨_, _, _, ⟨_, hstate, rfl⟩, hspendable, rfl⟩, hreceivable, rfl⟩

/-! ### Lists of records -/

/-- The value is a record with one field, which is a list of such values and may be absent. -/
inductive ListTold {α : Type} (P : Json → α → Prop) (name : String) : Json → List α → Prop where
  | keyed {fs : List (String × Json)} {as : List α} (items : Stands (Items P) (some []) name fs as) :
    ListTold P name (.obj fs) as
  | listed {vs : List Json} {as : List α} (items : Next (Items P) (some []) vs as []) :
    ListTold P name (.arr vs) as

theorem reads_listAnswer {α : Type} {d : Decoder α} {P : Json → α → Prop} (hd : d.Reads P)
    (what name : String) :
    (RecordReader.decoder what (.withDefault name d.list [])).Reads (ListTold P name) := by
  intro p v as
  have hreads := reads_field (reads_list hd) name (some []) (some [])
  refine (decode_eq_ok_iff hreads (List.nodup_singleton name) what p v as).trans ?_
  constructor
  · rintro (⟨fs, rfl, hitems⟩ | ⟨vs, rfl, hitems⟩)
    · exact .keyed hitems
    · exact .listed hitems
  · rintro (hitems | hitems)
    · exact Or.inl ⟨_, rfl, hitems⟩
    · exact Or.inr ⟨_, rfl, hitems⟩

theorem Output.reads_listAnswer : Output.listAnswer.Reads (ListTold Output.Told "outputs") :=
  HostedNode.reads_listAnswer Output.reads_answer _ _

theorem Peer.reads_listAnswer : Peer.listAnswer.Reads (ListTold Peer.Told "peers") :=
  HostedNode.reads_listAnswer Peer.reads_answer _ _

theorem Channel.reads_listAnswer : Channel.listAnswer.Reads (ListTold Channel.Told "channels") :=
  HostedNode.reads_listAnswer Channel.reads_answer _ _

end HostedNode

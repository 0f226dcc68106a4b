import HostedNode.Config
import HostedNode.Log.Entry
import HostedNode.Message
import HostedNode.NodeEvent
import HostedNode.Proofs.Json.Record

/-! # Records and names survive their JSON form

Every record and every name that is kept or sent as JSON is lawful: it is read back from its JSON
form, from its compact and its pretty text, from the array of its values, and from any object with
more fields, at any level of nesting (`records_survive`). -/

namespace HostedNode

open Json RecordReader

/-! ### Names -/

instance : LawfulCoded Environment :=
  .ofName Environment.name Environment.names (fun _ => rfl) rfl fun e => by cases e <;> rfl

instance : LawfulCoded Network :=
  .ofName Network.name Network.names (fun _ => rfl) rfl fun n => by cases n <;> rfl

instance : LawfulCoded Log.Level :=
  .ofName Log.Level.name Log.Level.names (fun _ => rfl) rfl fun l => by cases l <;> rfl

/-! ### Log entries and messages -/

instance : LawfulCoded LogEntry :=
  .ofReader "LogEntry" LogEntry.reader 0
    (fun e => ((Fits.field _ _ _ e.line (by decide)).map _).seq
      (Fits.field _ _ _ e.level (by decide)))
    (fun _ => rfl) rfl (by decide)

instance : LawfulCoded SignMessageRequest :=
  .ofReader "SignMessageRequest" _ 0
    (fun r => (Fits.field _ _ _ r.message (by decide)).map SignMessageRequest.mk)
    (fun _ => rfl) rfl (by decide)

instance : LawfulCoded SignMessageResponse :=
  .ofReader "SignMessageResponse" _ 0
    (fun r => (Fits.field _ _ _ r.signature (by decide)).map SignMessageResponse.mk)
    (fun _ => rfl) rfl (by decide)

instance : LawfulCoded CheckMessageRequest :=
  .ofReader "CheckMessageRequest" _ 0
    (fun r => (((Fits.field _ _ _ r.message (by decide)).map CheckMessageRequest.mk).seq
      (Fits.field _ _ _ r.pubkey (by decide))).seq
      (Fits.field _ _ _ r.signature (by decide)))
    (fun _ => rfl) rfl (by decide)

instance : LawfulCoded CheckMessageResponse :=
  .ofReader "CheckMessageResponse" _ 0
    (fun r => (Fits.field _ _ _ r.isValid (by decide)).map CheckMessageResponse.mk)
    (fun _ => rfl) rfl (by decide)

/-! ### Credentials -/

instance : NeverNull String := ⟨fun _ => by simp [toJson]⟩

instance : LawfulCoded DeviceCredentials :=
  .ofReader "GreenlightCredentials" DeviceCredentials.reader 1
    (fun c => ((Fits.field _ _ _ c.key (by decide)).map _).seq
      (Fits.field _ _ _ c.cert (by decide)))
    (fun _ => rfl) rfl (by decide)

instance : NeverNull DeviceCredentials := ⟨fun _ => by simp [toJson]⟩

instance : LawfulCoded StoredCredentials :=
  .ofReader "StoredCredentials" StoredCredentials.reader 2
    (fun s => ((Fits.field _ _ _ s.credentials (by decide)).map _).seq
      (Fits.field _ _ _ s.seedFingerprint (by decide)))
    (fun _ => rfl) rfl (by decide)

instance : NeverNull StoredCredentials := ⟨fun _ => by simp [toJson]⟩

/-! ### Configurations -/

instance : LawfulCoded Registration :=
  .ofReader "GreenlightNodeConfig" Registration.reader 2
    (fun r => ((Fits.field _ _ _ r.partner (by decide)).map _).seq
      (Fits.field _ _ _ r.inviteCode (by decide)))
    (fun _ => rfl) rfl (by decide)

instance : LawfulCoded NodeConfig :=
  .ofTagged "NodeConfig" NodeConfig.variants 3 rfl fun
    | .greenlight r =>
      ⟨⟨"greenlight", "Greenlight", NodeConfig.greenlight <$> .required "config" decoder⟩, _,
        ⟨rfl, (Fits.field _ _ _ r (by decide)).map _, by decide⟩, rfl⟩

instance : LawfulCoded Config :=
  .ofReader "Config" Config.reader 4
    (fun c => ((((((((Fits.field _ _ _ c.environment (by decide)).map _).seq
      (Fits.field _ _ _ c.schedulerUrl (by decide))).seq
      (Fits.field _ _ _ c.workingDir (by decide))).seq
      (Fits.field _ _ _ c.network (by decide))).seq
      (Fits.field _ _ _ c.apiKey (by decide))).seq
      (Fits.field _ _ _ c.requestTimeoutSec (by decide))).seq
      (Fits.field _ _ _ c.syncIntervalSec (by decide))).seq
      (Fits.field _ _ _ c.nodeConfig (by decide)))
    (fun _ => rfl) rfl (by decide)

instance : LawfulCoded ConnectRequest :=
  .ofReader "ConnectRequest" ConnectRequest.reader 5
    (fun r => ((Fits.field _ _ _ r.config (by decide)).map _).seq
      (Fits.field _ _ _ r.seed (by decide)))
    (fun _ => rfl) rfl (by decide)

/-! ### States and events -/

instance : LawfulCoded UnspentOutput :=
  .ofReader "UnspentTransactionOutput" UnspentOutput.reader 0
    (fun o => (((((Fits.field _ _ _ o.txid (by decide)).map _).seq
      (Fits.field _ _ _ o.outnum (by decide))).seq
      (Fits.field _ _ _ o.amountMsat (by decide))).seq
      (Fits.field _ _ _ o.address (by decide))).seq
      (Fits.field _ _ _ o.reserved (by decide)))
    (fun _ => rfl) rfl (by decide)

instance : LawfulCoded NodeState :=
  .ofReader "NodeState" NodeState.reader 2
    (fun s => (((((((((((Fits.field _ _ _ s.id (by decide)).map _).seq
      (Fits.field _ _ _ s.blockHeight (by decide))).seq
      (Fits.field _ _ _ s.channelsBalanceMsat (by decide))).seq
      (Fits.field _ _ _ s.onchainBalanceMsat (by decide))).seq
      (Fits.field _ _ _ s.utxos (by decide))).seq
      (Fits.field _ _ _ s.maxPayableMsat (by decide))).seq
      (Fits.field _ _ _ s.maxReceivableMsat (by decide))).seq
      (Fits.field _ _ _ s.maxSinglePaymentAmountMsat (by decide))).seq
      (Fits.field _ _ _ s.maxChanReserveMsats (by decide))).seq
      (Fits.field _ _ _ s.connectedPeers (by decide))).seq
      (Fits.field _ _ _ s.inboundLiquidityMsats (by decide)))
    (fun _ => rfl) rfl (by decide)

instance : NeverNull NodeState := ⟨fun _ => by simp [toJson]⟩

instance : LawfulCoded NodeEvent :=
  .ofTagged "BreezEvent" NodeEvent.variants 3 rfl fun
    | .newBlock b =>
      ⟨⟨"newBlock", "NewBlock", NodeEvent.newBlock <$> .required "block" decoder⟩, _,
        ⟨rfl, (Fits.field _ _ _ b (by decide)).map _, by decide⟩, rfl⟩
    | .nodeStateChanged s =>
      ⟨⟨"nodeStateChanged", "NodeStateChanged",
        NodeEvent.nodeStateChanged <$> .required "node_state" decoder⟩, _,
        ⟨rfl, (Fits.field _ _ _ s (by decide)).map _, by decide⟩, rfl⟩
    | .synced => ⟨⟨"synced", "Synced", .pure .synced⟩, [], ⟨rfl, .pure _, by decide⟩, rfl⟩

/-! ### The round trip -/

/-- The value survives its JSON form: it is read back from this form, from both texts of it, from
the array of its values if it is an object, from each form with other fields among its own, at any
level of nesting (`Recast`), and from each text that spells such a form. -/
structure Survives {α : Type} [Coded α] (a : α) : Prop where
  value : decodeAs α (toJson a) = .ok a
  compact : readAs decoder (toJson a).compact = .ok a
  pretty : readAs decoder (toJson a).pretty = .ok a
  positional : ∀ fs, toJson a = .obj fs → decodeAs α (.arr (fs.map (·.2))) = .ok a
  forms : ∀ w, Recast (toJson a) w → decodeAs α w = .ok a
  texts : ∀ text w, SpellsText text w → Recast (toJson a) w → readAs decoder text = .ok a

theorem survives {α : Type} [Coded α] [LawfulCoded α] (hl : levels α ≤ maxDepth) (a : α) :
    Survives a where
  value := run_recast .untagged a _ (recast_self a)
  compact := readAs_compact hl a
  pretty := readAs_pretty hl a
  positional fs hfs := by
    have hself := recast_self a
    rw [hfs] at hself
    have hvalues : Recast (toJson a) (.arr (fs.map (·.2))) := hfs ▸ hself.values_self
    exact run_recast .untagged a _ hvalues
  forms w hw := run_recast .untagged a w hw
  texts _ _ ht hw := readAs_of_recast ht hw

/-- **Every record and every name survives its JSON form.** -/
theorem records_survive :
    (∀ e : LogEntry, Survives e) ∧ (∀ l : Log.Level, Survives l) ∧
    (∀ e : Environment, Survives e) ∧ (∀ n : Network, Survives n) ∧
    (∀ c : DeviceCredentials, Survives c) ∧ (∀ r : Registration, Survives r) ∧
    (∀ c : NodeConfig, Survives c) ∧ (∀ c : Config, Survives c) ∧
    (∀ r : ConnectRequest, Survives r) ∧ (∀ o : UnspentOutput, Survives o) ∧
    (∀ s : NodeState, Survives s) ∧ (∀ e : NodeEvent, Survives e) ∧
    (∀ r : SignMessageRequest, Survives r) ∧ (∀ r : SignMessageResponse, Survives r) ∧
    (∀ r : CheckMessageRequest, Survives r) ∧ (∀ r : CheckMessageResponse, Survives r) ∧
    (∀ s : StoredCredentials, Survives s) := by
  refine ⟨?_, ?_, ?_, ?_, ?_, ?_, ?_, ?_, ?_, ?_, ?_, ?_, ?_, ?_, ?_, ?_, ?_⟩
  all_goals exact survives (by decide)

/-- An event as an object with more fields than it needs, and as an array. -/
example : decodeAs NodeEvent
      (.obj [("at", .null), ("block", .int 7), ("type", .str "newBlock"), ("at", .arr [])]) =
        .ok (.newBlock 7) ∧
    decodeAs NodeEvent (.arr [.str "newBlock", .int 7]) = .ok (.newBlock 7) := by decide

end HostedNode

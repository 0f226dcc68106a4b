import HostedNode.Proofs.Disk.Retains
import HostedNode.Proofs.Services.Ownership
import HostedNode.Proofs.Storage.Replace

/-! # The footprint of services

However services of a hosted node are connected and used, and whatever fails on the way, all they do
to the disk is to make directories and to replace the document of a storage (`Act.WritesOnly`). A
file that has neither the name of such a document nor that of its draft stays as it is
(`Storage.Writes.retains`), in whatever directory. -/

namespace HostedNode

open Act Rpc

/-! ### Names that are not those of a document -/

namespace Disk

theorem locate_join_name {d : Disk} {directory n : String} {p : Place} (hn : Path.Plain n)
    (h : d.locate (Path.join directory n) = .ok p) : ∃ base, p = base ++ [n] := by
  obtain ⟨base, hp, -⟩ := locate_join hn hn (Nat.le_refl _) h
  exact ⟨base, hp⟩

/-- Files of different names stand at different places. -/
theorem distinct_of_name {n m : String} (hn : Path.Plain n) (hm : Path.Plain m) (hne : n ≠ m)
    (d : Disk) (directory directory' : String) :
    Distinct d (Path.join directory n) (Path.join directory' m) := by
  intro p hp hp'
  obtain ⟨base, rfl⟩ := locate_join_name hn hp
  obtain ⟨base', hbase⟩ := locate_join_name hm hp'
  have hlast := (List.append_inj' hbase rfl).2
  exact hne (List.cons.inj hlast).1

end Disk

namespace Storage

open Disk

/-- A name of a file that is no document of a storage, and no draft of one. -/
structure Foreign (n : String) : Prop where
  plain : Path.Plain n
  ne_document : n ≠ "storage.json"
  ne_draft : n ≠ "storage.json.tmp"

variable {n : String}

theorem retains_replace (hn : Foreign n) (directory : String) (s : Storage) (data : StorageData)
    (d : Disk) :
    Retains (Path.join directory n) d (storeOutcome (s.replace data) d).2 := by
  have hdraft : ∀ d, Distinct d (Path.join directory n) (draftPath s.directory) := fun d =>
    distinct_of_name hn.plain plain_draft hn.ne_draft d directory s.directory
  have hdocument : ∀ d, Distinct d (Path.join directory n) s.path := fun d =>
    distinct_of_name hn.plain plain_document hn.ne_document d directory s.directory
  have hwrite := retains_writeWith (hdraft d) fun _ => data.document
  unfold storeOutcome at hwrite ⊢
  rw [replace]
  simp only [bind, EStateM.bind, write]
  cases hw : writeWith (draftPath s.directory) (fun _ => data.document) d with
  | error e d1 =>
    rw [hw] at hwrite
    exact hwrite
  | ok u d1 =>
    rw [hw] at hwrite
    have hrename := retains_rename (hdraft d1) (hdocument d1)
    unfold storeOutcome at hrename
    cases hr : rename (draftPath s.directory) s.path d1 with
    | error e d2 =>
      rw [hr] at hrename
      simp only [hr]
      exact hwrite.trans hrename
    | ok u d2 =>
      rw [hr] at hrename
      simp only [hr]
      exact hwrite.trans hrename

/-- **What services write leaves every other file as it is.** -/
theorem Writes.retains {P : NodeState → Prop} {Q : Storage → Disk → Disk → Prop} {d d' : Disk}
    (h : Writes P Q d d') (hn : Foreign n) (directory : String) :
    Retains (Path.join directory n) d d' := by
  induction h with
  | refl => exact .refl _ d
  | tail _ hchange ih =>
    cases hchange with
    | directories path => exact ih.trans ((extends_makeDirectories path _).retains _)
    | state s _ => exact ih.trans (retains_replace hn directory s _ _)
    | credentials s c _ => exact ih.trans (retains_replace hn directory s _ _)

end Storage

/-! ### Steps that write nothing else -/

namespace Act

variable {σ ε α β : Type}

/-- All that the step does to the disk is to make directories and to replace documents. -/
def WritesOnly (act : Act σ Disk ε α) : Prop :=
  ∀ w, Storage.Writes (fun _ => True) (fun _ _ _ => True) w.store (act.outcome w).2.store

theorem writesOnly_of_store {act : Act σ Disk ε α}
    (h : ∀ w, (act.outcome w).2.store = w.store) : WritesOnly act :=
  fun w => Storage.writes_of_eq (h w)

theorem writesOnly_of_keeps {act : Act σ Disk ε α} (h : Keeps storeAndEvents act) :
    WritesOnly act := writesOnly_of_store fun w => (Prod.mk.inj (h w)).1

theorem writesOnly_pure (a : α) : WritesOnly (pure a : Act σ Disk ε α) := fun _ => .refl

theorem writesOnly_throw (e : ε) : WritesOnly (throw e : Act σ Disk ε α) := fun _ => .refl

theorem writesOnly_ofExcept (r : Except ε α) : WritesOnly (ofExcept r : Act σ Disk ε α) :=
  writesOnly_of_keeps (keeps_ofExcept r)

theorem writesOnly_bind {act : Act σ Disk ε α} {f : α → Act σ Disk ε β} (h : WritesOnly act)
    (hf : ∀ a, WritesOnly (f a)) : WritesOnly (act >>= f) := by
  intro w
  have hw := h w
  rw [outcome_bind]
  rcases ho : act.outcome w with ⟨r, w'⟩
  rw [ho] at hw
  cases r with
  | error e => exact hw
  | ok a => exact hw.trans (hf a w')

theorem writesOnly_mapError {ε' : Type} {act : Act σ Disk ε α} (f : ε → ε')
    (h : WritesOnly act) : WritesOnly (mapError f act) := fun w => by
  rw [outcome_mapError]
  exact h w

end Act

namespace Services

theorem writesOnly_connect {σ : Type} [Net σ] (config : Config) (seed : Bytes) :
    WritesOnly (connect config seed : Act σ Disk ServiceError (Services Node)) := by
  intro w
  have htrivial : ∀ {P : NodeState → Prop} {Q : Storage → Disk → Disk → Prop} {d d' : Disk},
      Storage.Writes P Q d d' → Storage.Writes (fun _ => True) (fun _ _ _ => True) d d' :=
    fun h => h.mono (fun _ _ => trivial) fun _ _ _ _ => trivial
  rw [connect]
  rcases build_cases (Node.connect config seed) config seed none w with
    ⟨s, v, hpass, hout⟩ | ⟨p, v, e, v', hpass, hfail, hout⟩
  · rw [hout]
    exact htrivial (Live.writes_of_passes hpass)
  · have hconfined := (confined_of_fails hfail).1
    rw [hout]
    exact (htrivial (Live.writes_of_passes hpass)).trans
      (htrivial (Live.writes_of_confined hpass hconfined))

variable {σ β : Type} [Backend σ β] (s : Services β)

theorem writesOnly_disconnect :
    WritesOnly (s.disconnect : Act σ Disk ServiceError (Services β)) :=
  writesOnly_bind (writesOnly_ofExcept _) fun _ =>
    writesOnly_bind (writesOnly_of_store fun _ => rfl) fun _ => writesOnly_pure _

variable [QuietBackend σ β]

theorem writesOnly_sync : WritesOnly (s.sync : Act σ Disk ServiceError (Services β)) := by
  intro w
  rcases s.sync_disk w with hsame | ⟨state, w1, -, hdisk⟩
  · exact Storage.writes_of_eq hsame
  · rw [hdisk]
    exact .single (.state _ trivial _)

theorem writesOnly_signMessage (r : SignMessageRequest) :
    WritesOnly (s.signMessage r : Act σ Disk ServiceError SignMessageResponse) :=
  writesOnly_bind (writesOnly_mapError _ (writesOnly_of_keeps (QuietBackend.sign _ _))) fun _ =>
    writesOnly_pure _

theorem writesOnly_checkMessage (r : CheckMessageRequest) :
    WritesOnly (s.checkMessage r : Act σ Disk ServiceError CheckMessageResponse) :=
  writesOnly_bind (writesOnly_mapError _ (writesOnly_of_keeps (QuietBackend.check _ _ _ _)))
    fun _ => writesOnly_pure _

theorem writesOnly_command (text : String) :
    WritesOnly (s.command text : Act σ Disk ServiceError String) :=
  writesOnly_bind (writesOnly_ofExcept _) fun _ =>
    writesOnly_mapError _ (writesOnly_of_keeps (QuietBackend.command _ _))

end Services

end HostedNode

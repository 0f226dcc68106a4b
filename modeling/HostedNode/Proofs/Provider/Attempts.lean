import HostedNode.Proofs.Key.Signer
import HostedNode.Proofs.Provider.Precedence
import HostedNode.Proofs.Storage.Replace

/-! # Credentials over many attempts

A `LawfulStore` keeps what it was given last, whatever happens to it between two attempts to
connect: a slot in memory may fail or not, a storage may meet mishaps and be opened anew. Over any
sequence of attempts, the first credentials that such a store keeps stay (`held_after`): later
attempts succeed only for their seed, and without a call. -/

namespace HostedNode

open Json Rpc

/-! ### Lawful stores -/

/-- Stores that keep what they were given last. -/
class LawfulStore (κ : Type) [CredentialStore κ] where
  held : κ → Option StoredCredentials
  /-- Whether what is kept would survive what may happen. -/
  Sound : κ → Prop
  Turn : Type
  turn : Turn → κ → κ
  get_ok : ∀ {k : κ} {r : Option StoredCredentials}, CredentialStore.get k = .ok r → r = held k
  set_ok : ∀ {k k' : κ} {c : StoredCredentials}, Sound k → CredentialStore.set c k = .ok () k' →
    Sound k' ∧ held k' = some c
  set_error : ∀ {k k' : κ} {c : StoredCredentials} {e : NodeError}, Sound k →
    CredentialStore.set c k = .error e k' → Sound k' ∧ held k' = held k
  turn_held : ∀ {k : κ} (t : Turn), Sound k → Sound (turn t k) ∧ held (turn t k) = held k

namespace CredentialSlot

/-- Whether the slot fails from now on, reading and writing. -/
structure Turn where
  getFailure : Option NodeError
  setFailure : Option NodeError

theorem get_eq (s : CredentialSlot) : CredentialStore.get s =
    match s.getFailure with
    | some e => .error e
    | none => .ok s.held := rfl

theorem set_eq (c : StoredCredentials) (s : CredentialSlot) : CredentialStore.set c s =
    match s.setFailure with
    | some e => .error e s
    | none => .ok () { s with held := some c } := rfl

instance : LawfulStore CredentialSlot where
  held s := s.held
  Sound _ := True
  Turn := Turn
  turn t s := ⟨s.held, t.getFailure, t.setFailure⟩
  get_ok {s r} h := by
    rw [get_eq] at h
    split at h
    · cases h
    · exact (Except.ok.inj h).symm
  set_ok {s s' c} _ h := by
    rw [set_eq] at h
    split at h
    · cases h
    · rw [← (EStateM.Result.ok.inj h).2]
      exact ⟨trivial, rfl⟩
  set_error {s s' c e} _ h := by
    rw [set_eq] at h
    split at h
    · rw [← (EStateM.Result.error.inj h).2]
      exact ⟨trivial, rfl⟩
    · cases h
  turn_held _ _ := ⟨trivial, rfl⟩

end CredentialSlot

namespace Workspace

/-- What happens to a storage between two attempts. -/
structure Turn where
  mishaps : List (Option Mishap)
  /-- Whether the storage is dropped and opened anew. -/
  reopened : Bool

/-- The storage is the one that would be opened anew. -/
def Sound (w : Workspace) : Prop := Storage.load w.disk w.storage.directory = .ok w.storage.data

/-- The storage opened anew. -/
def reopen (w : Workspace) : Except ServiceError Workspace :=
  (Storage.load w.disk w.storage.directory).map fun data =>
    { w with storage := ⟨w.storage.directory, data⟩ }

theorem reopen_of_sound {w : Workspace} (h : w.Sound) : w.reopen = .ok w := by
  unfold Sound at h
  rw [reopen, h]
  rfl

/-- The workspace after a turn; a storage that cannot be opened stays. -/
def turn (t : Turn) (w : Workspace) : Workspace :=
  let w := { w with disk := w.disk.expecting t.mishaps }
  if t.reopened then w.reopen.toOption.getD w else w

theorem sound_expecting {w : Workspace} (h : w.Sound) (ms : List (Option Mishap)) :
    Sound { w with disk := w.disk.expecting ms } :=
  (Storage.load_expecting _ _ ms).trans h

theorem turn_of_sound {w : Workspace} (h : w.Sound) (t : Turn) :
    w.turn t = { w with disk := w.disk.expecting t.mishaps } := by
  rw [turn, reopen_of_sound (sound_expecting h t.mishaps)]
  exact ite_self _

instance : LawfulStore Workspace where
  held w := w.storage.data.credentials
  Sound := Sound
  Turn := Turn
  turn := turn
  get_ok h := (Except.ok.inj h).symm
  set_ok {w w' c} _ h := by
    simp only [CredentialStore.set, setCredentials] at h
    cases hr : w.storage.replace { w.storage.data with credentials := some c } w.disk with
    | error e d => simp [hr] at h
    | ok s d =>
      simp only [hr] at h
      obtain ⟨rfl, -, -⟩ := Storage.replace_ok hr
      rw [← (EStateM.Result.ok.inj h).2]
      exact ⟨Storage.load_replace hr, rfl⟩
  set_error {w w' c e} hs h := by
    simp only [CredentialStore.set, setCredentials] at h
    cases hr : w.storage.replace { w.storage.data with credentials := some c } w.disk with
    | ok s d => simp [hr] at h
    | error e d =>
      simp only [hr] at h
      have hsame := Storage.read_document (Storage.replace_error hr)
      rw [← (EStateM.Result.error.inj h).2]
      exact ⟨(Storage.load_congr hsame).trans hs, rfl⟩
  turn_held {w} t hs := by
    rw [turn_of_sound hs]
    exact ⟨sound_expecting hs t.mishaps, rfl⟩

end Workspace

/-! ### One attempt -/

/-- An attempt to connect, with what happens before it. -/
structure Attempt (σ κ : Type) [CredentialStore κ] [LawfulStore κ] where
  before : LawfulStore.Turn κ
  config : Config
  seed : Bytes
  net : σ

namespace Attempt

open LawfulStore

variable {σ κ : Type} [Net σ] [CredentialStore κ] [LawfulStore κ]

/-- The world that an attempt starts in. -/
def world (a : Attempt σ κ) (k : κ) : World σ κ := ⟨a.net, turn a.before k, []⟩

/-- What an attempt comes to, and the world that it leaves. -/
def outcome (a : Attempt σ κ) (k : κ) : Except NodeError Node × World σ κ :=
  (Node.connect a.config a.seed : Act σ κ NodeError Node).outcome (a.world k)

/-- The store after an attempt. -/
def store (a : Attempt σ κ) (k : κ) : κ := (a.outcome k).2.store

/-- The store after some attempts. -/
def after (k : κ) (as : List (Attempt σ κ)) : κ := as.foldl (fun k a => a.store k) k

/-- No call is made. -/
def Silent (a : Attempt σ κ) (k : κ) : Prop :=
  ∀ c method params, .called c method params ∉ (a.outcome k).2.traffic

/-- An attempt changes what is kept only if it succeeds, to what it gives. -/
structure Honest (a : Attempt σ κ) (k : κ) : Prop where
  failed : ∀ e, (a.outcome k).1 = .error e → held (a.store k) = held k
  succeeded : ∀ n, (a.outcome k).1 = .ok n → ∃ fingerprint, fingerprint? a.seed = some fingerprint ∧
    held (a.store k) = some ⟨n.credentials, fingerprint⟩

/-- An attempt with credentials that are kept gives these, for their seed alone, and asks for no
others. -/
structure Settled (a : Attempt σ κ) (k : κ) (c : StoredCredentials) : Prop where
  succeeded : ∀ n, (a.outcome k).1 = .ok n →
    fingerprint? a.seed = some c.seedFingerprint ∧ n.credentials = c.credentials ∧ a.Silent k
  foreign : fingerprint? a.seed ≠ some c.seedFingerprint →
    (∃ e, (a.outcome k).1 = .error e) ∧ a.Silent k ∧ held (a.store k) = held k

variable {a : Attempt σ κ} {k : κ}

theorem outcome_of_noSigner {e : NodeError} (h : Signer.ofSeed a.seed = .error e) :
    a.outcome k = (.error e, a.world k) := Node.connect_of_noSigner h _

/-- What an attempt that fails keeps is what was kept. -/
theorem held_of_failsWith (hk : Sound k) {e : NodeError}
    (h : Node.FailsWith e (a.world k) (a.outcome k)) :
    Sound (a.store k) ∧ held (a.store k) = held k := by
  obtain ⟨hsound, hheld⟩ := turn_held a.before hk
  unfold store
  rw [h.2]
  exact ⟨hsound, hheld⟩

/-- What comes of keeping credentials: they are kept and given, or all stays and nothing is
given. -/
theorem held_of_keepsIn (hk : Sound k) {signer : Signer} {c : DeviceCredentials}
    (h : Node.KeepsIn a.config signer c (a.world k) (a.outcome k)) :
    Sound (a.store k) ∧
    ((∃ n, (a.outcome k).1 = .ok n ∧ n.credentials = c ∧
        held (a.store k) = some ⟨c, signer.seedFingerprint⟩) ∨
      (∃ e, (a.outcome k).1 = .error e ∧ held (a.store k) = held k)) := by
  obtain ⟨hsound, hheld⟩ := turn_held a.before hk
  obtain ⟨hresult, hstore⟩ := h
  have hw : (a.world k).store = turn a.before k := rfl
  unfold store
  rw [hstore, hresult, Node.keepingOf, Act.storeOutcome, hw]
  cases hset : CredentialStore.set ⟨c, signer.seedFingerprint⟩ (turn a.before k) with
  | ok u k' =>
    obtain ⟨hs, hh⟩ := set_ok hsound hset
    exact ⟨hs, Or.inl ⟨_, rfl, rfl, hh⟩⟩
  | error e k' =>
    obtain ⟨hs, hh⟩ := set_error hsound hset
    exact ⟨hs, Or.inr ⟨e, rfl, hh.trans hheld⟩⟩

/-- With credentials that are kept no call is made, and they are the only ones to come by. -/
theorem courseOver_of_held {config : Config} {signer : Signer} {w : World σ κ}
    {c : StoredCredentials} (h : held w.store = some c) :
    (Node.courseOver config signer w).calls = [] ∧
      ∀ d, (Node.courseOver config signer w).result = .ok d →
        d = c.credentials ∧ c.seedFingerprint = signer.seedFingerprint := by
  cases ho : (Node.opening config w).1 with
  | error e =>
    rw [Node.courseOver_of_unopened ho]
    exact ⟨rfl, fun d hd => by cases hd⟩
  | ok u =>
    cases hg : CredentialStore.get w.store with
    | error e =>
      rw [Node.courseOver_of_unread ho hg]
      exact ⟨rfl, fun d hd => by cases hd⟩
    | ok kept =>
      obtain rfl : kept = some c := (get_ok hg).trans h
      rw [Node.courseOver_of_read ho hg, Node.resolvedOver]
      split_ifs with hs
      · exact ⟨rfl, fun d hd => ⟨(Except.ok.inj hd).symm, hs⟩⟩
      · exact ⟨rfl, fun d hd => by cases hd⟩

/-- The cases of an attempt: without a signer nothing happens, and with one the calls and the
outcome are those of its course. -/
theorem outcome_cases (a : Attempt σ κ) (k : κ) :
    (∃ e, Signer.ofSeed a.seed = .error e ∧ a.outcome k = (.error e, a.world k)) ∨
    ∃ signer, Signer.ofSeed a.seed = .ok signer ∧
      (a.outcome k).2.traffic = .opened (Node.schedulerConnection a.config) ::
        (Node.courseOver a.config signer (a.world k)).calls ∧
      ((∃ e, (Node.courseOver a.config signer (a.world k)).result = .error e ∧
          Node.FailsWith e (a.world k) (a.outcome k)) ∨
        (∃ c, (Node.courseOver a.config signer (a.world k)).result = .ok c ∧
          Node.KeepsIn a.config signer c (a.world k) (a.outcome k))) := by
  cases hs : Signer.ofSeed a.seed with
  | error e => exact Or.inl ⟨e, rfl, outcome_of_noSigner hs⟩
  | ok signer =>
    obtain ⟨ht, hcourse⟩ := Node.outcome_connect a.config hs (a.world k)
    refine Or.inr ⟨signer, rfl, ht, ?_⟩
    cases hr : (Node.courseOver a.config signer (a.world k)).result with
    | error e =>
      rw [hr] at hcourse
      exact Or.inl ⟨e, rfl, hcourse⟩
    | ok c =>
      rw [hr] at hcourse
      exact Or.inr ⟨c, rfl, hcourse⟩

theorem sound_store (hk : Sound k) (a : Attempt σ κ) : Sound (a.store k) := by
  rcases outcome_cases a k with ⟨e, -, ho⟩ | ⟨signer, -, -, ⟨e, -, hf⟩ | ⟨c, -, hc⟩⟩
  · unfold store
    rw [ho]
    exact (turn_held a.before hk).1
  · exact (held_of_failsWith hk hf).1
  · exact (held_of_keepsIn hk hc).1

theorem honest (hk : Sound k) (a : Attempt σ κ) : a.Honest k := by
  rcases outcome_cases a k with ⟨e, -, ho⟩ | ⟨signer, hs, -, ⟨e, -, hf⟩ | ⟨c, -, hc⟩⟩
  · constructor
    · intro e' _
      unfold store
      rw [ho]
      exact (turn_held a.before hk).2
    · intro n hn
      rw [ho] at hn
      cases hn
  · refine ⟨fun e' _ => (held_of_failsWith hk hf).2, fun n hn => ?_⟩
    rw [hf.1] at hn
    cases hn
  · obtain ⟨-, ⟨n, hn, hcred, hheld⟩ | ⟨e, he, hheld⟩⟩ := held_of_keepsIn hk hc
    · refine ⟨fun e he => ?_, fun n' hn' => ⟨signer.seedFingerprint, ?_, ?_⟩⟩
      · rw [hn] at he
        cases he
      · exact Signer.fingerprint?_of_ofSeed hs
      · rw [hn] at hn'
        obtain rfl := Except.ok.inj hn'
        rw [hheld, hcred]
    · refine ⟨fun _ _ => hheld, fun n hn => ?_⟩
      rw [he] at hn
      cases hn

/-- Over credentials that are kept no attempt makes a call. -/
theorem silent_of_held (hk : Sound k) {c : StoredCredentials} (h : held k = some c)
    (a : Attempt σ κ) : a.Silent k := by
  have hheld : held (a.world k).store = some c := (turn_held a.before hk).2.trans h
  rcases outcome_cases a k with ⟨e, -, ho⟩ | ⟨signer, -, ht, -⟩
  · intro conn method params hmem
    rw [ho] at hmem
    cases hmem
  · intro conn method params hmem
    rw [ht, (courseOver_of_held hheld).1] at hmem
    cases List.mem_singleton.mp hmem

/-- An attempt that succeeds over kept credentials is one for their seed, and gives them. -/
theorem kept_of_ok (hk : Sound k) {c : StoredCredentials} (h : held k = some c)
    {a : Attempt σ κ} {n : Node} (hn : (a.outcome k).1 = .ok n) :
    fingerprint? a.seed = some c.seedFingerprint ∧ n.credentials = c.credentials ∧
      held (a.store k) = some c := by
  have hheld : held (a.world k).store = some c := (turn_held a.before hk).2.trans h
  rcases outcome_cases a k with ⟨e, -, ho⟩ | ⟨signer, hs, -, ⟨e, -, hf⟩ | ⟨d, hd, hc⟩⟩
  · rw [ho] at hn
    cases hn
  · rw [hf.1] at hn
    cases hn
  · obtain ⟨rfl, hfp⟩ := (courseOver_of_held hheld).2 d hd
    obtain ⟨-, ⟨n', hn', hcred, hstore⟩ | ⟨e, he, -⟩⟩ := held_of_keepsIn hk hc
    · rw [hn] at hn'
      obtain rfl := Except.ok.inj hn'
      refine ⟨?_, hcred, ?_⟩
      · rw [Signer.fingerprint?_of_ofSeed hs, hfp]
      · rw [hstore, ← hfp]
    · rw [hn] at he
      cases he

theorem held_store (hk : Sound k) {c : StoredCredentials} (h : held k = some c)
    (a : Attempt σ κ) : held (a.store k) = some c := by
  cases ho : (a.outcome k).1 with
  | error e => rw [(honest hk a).failed e ho, h]
  | ok n => exact (kept_of_ok hk h ho).2.2

theorem settled (hk : Sound k) {c : StoredCredentials} (h : held k = some c)
    (a : Attempt σ κ) : a.Settled k c := by
  have hsilent := silent_of_held hk h a
  refine ⟨fun n hn => ?_, fun hfp => ⟨?_, hsilent, ?_⟩⟩
  · obtain ⟨hseed, hcred, -⟩ := kept_of_ok hk h hn
    exact ⟨hseed, hcred, hsilent⟩
  · cases ho : (a.outcome k).1 with
    | error e => exact ⟨e, rfl⟩
    | ok n => exact absurd (kept_of_ok hk h ho).1 hfp
  · rw [held_store hk h a, h]

/-! ### Many attempts -/

theorem sound_after (hk : Sound k) (as : List (Attempt σ κ)) : Sound (after k as) := by
  induction as generalizing k with
  | nil => exact hk
  | cons a as ih => exact ih (sound_store hk a)

theorem held_after (hk : Sound k) {c : StoredCredentials} (h : held k = some c)
    (as : List (Attempt σ κ)) : held (after k as) = some c := by
  induction as generalizing k with
  | nil => exact h
  | cons a as ih => exact ih (sound_store hk a) (held_store hk h a)

/-- Over all attempts from a store on, the first credentials that are kept stay. -/
def KeepsFirst (σ : Type) [Net σ] (k : κ) : Prop :=
  ∀ as : List (Attempt σ κ), (∀ a : Attempt σ κ, a.Honest (after k as)) ∧
    ∀ c, held (after k as) = some c → ∀ bs : List (Attempt σ κ),
      held (after k (as ++ bs)) = some c ∧ ∀ a : Attempt σ κ, a.Settled (after k (as ++ bs)) c

theorem keepsFirst_of_sound (hk : Sound k) : KeepsFirst σ k := by
  intro as
  refine ⟨fun a => honest (sound_after hk as) a, fun c hc bs => ?_⟩
  have hsplit : after k (as ++ bs) = after (after k as) bs := List.foldl_append
  have hheld := held_after (sound_after hk as) hc bs
  rw [hsplit]
  exact ⟨hheld, fun a => settled (sound_after (sound_after hk as) bs) hheld a⟩

end Attempt

/-- **The first credentials that are kept stay.** Over any attempts to connect, with a slot in
memory or with the storage of a directory, which may be opened anew between them and never fails to
be: an attempt changes what is kept only if it succeeds; and once something is kept it stays, later
attempts succeed for its seed alone, give it, and make no call. -/
theorem credentials_kept_first (σ : Type) [Net σ] :
    (∀ slot : CredentialSlot, Attempt.KeepsFirst σ slot) ∧
    ∀ (disk : Disk) (directory : String) (data : StorageData),
      Storage.load disk directory = .ok data →
      let space : Workspace := ⟨disk, ⟨directory, data⟩⟩
      Attempt.KeepsFirst σ space ∧
      ∀ as : List (Attempt σ Workspace),
        (Attempt.after space as).reopen = .ok (Attempt.after space as) := by
  refine ⟨fun slot => Attempt.keepsFirst_of_sound trivial, ?_⟩
  intro disk directory data h space
  have hs : space.Sound := h
  refine ⟨Attempt.keepsFirst_of_sound hs, fun as => ?_⟩
  exact Workspace.reopen_of_sound (Attempt.sound_after (k := space) hs as)

/-! ### Two seeds -/

/-- Credentials that were issued for the seed of zeros. -/
def zerosCredentials : StoredCredentials :=
  ⟨⟨[0, 1, 255], [48, 130]⟩, Signer.zeros.seedFingerprint⟩

/-- A storage that keeps them, and its disk. -/
def zerosSpace : Workspace :=
  let data : StorageData := ⟨some zerosCredentials, none⟩
  ⟨Storage.diskOf data.document none, ⟨"d", data⟩⟩

/-- An attempt to connect over a net on which the scheduler is there, with the storage opened anew. -/
def Attempt.again (b : UInt8) : Attempt Script Workspace where
  before := (⟨[], true⟩ : Workspace.Turn)
  config := .default .staging "" (.greenlight ⟨none, none⟩)
  seed := Signer.repeated b
  net := [(Config.schedulerOf .staging, [])]

theorem sound_zerosSpace : zerosSpace.Sound := Storage.load_diskOf ⟨some zerosCredentials, none⟩ none

theorem set_zerosSpace (c : StoredCredentials) :
    ∃ space, CredentialStore.set c zerosSpace = .ok () space := by
  refine ⟨⟨Storage.diskOf (⟨some c, none⟩ : StorageData).document none, ⟨"d", ⟨some c, none⟩⟩⟩, ?_⟩
  simp only [CredentialStore.set, Workspace.setCredentials, zerosSpace, Storage.replace_diskOf]

theorem again_zeros_ok : ∃ n, ((Attempt.again 0).outcome zerosSpace).1 = .ok n := by
  obtain ⟨w, hw⟩ : ∃ w, w = (Attempt.again 0).world zerosSpace := ⟨_, rfl⟩
  have hstore : w.store = zerosSpace := by
    rw [hw]
    exact Workspace.turn_of_sound sound_zerosSpace ⟨[], true⟩
  have ho : (Node.opening (Attempt.again 0).config w).1 = .ok () := by
    rw [hw]
    rfl
  have hg : CredentialStore.get w.store = .ok (some zerosCredentials) := by
    rw [hstore]
    rfl
  have howner : zerosCredentials.seedFingerprint = Signer.zeros.seedFingerprint := rfl
  have hcourse : (Node.courseOver (Attempt.again 0).config .zeros w).result =
      .ok zerosCredentials.credentials := by
    rw [Node.courseOver_of_read ho hg, Node.resolvedOver, if_pos howner]
  obtain ⟨-, hends⟩ := Node.outcome_connect (Attempt.again 0).config Signer.ofSeed_zeros w
  rw [hcourse] at hends
  obtain ⟨hresult, -⟩ := hends
  obtain ⟨space, hset⟩ := set_zerosSpace
    ⟨zerosCredentials.credentials, Signer.zeros.seedFingerprint⟩
  rw [Node.keepingOf, Act.storeOutcome, hstore, hset] at hresult
  rw [Attempt.outcome, ← hw]
  exact ⟨_, hresult⟩

/-- The owner of the credentials gets them, and is not asked for; another seed is refused. -/
theorem credentials_kept_first_zeros :
    (∃ n, ((Attempt.again 0).outcome zerosSpace).1 = .ok n ∧
      n.credentials = zerosCredentials.credentials ∧ (Attempt.again 0).Silent zerosSpace) ∧
    (∃ e, ((Attempt.again 1).outcome zerosSpace).1 = .error e) ∧
    (Attempt.again 1).Silent zerosSpace ∧
    ∀ as : List (Attempt Script Workspace),
      LawfulStore.held (Attempt.after zerosSpace as) = some zerosCredentials := by
  have hload : Storage.load zerosSpace.disk "d" = .ok zerosSpace.storage.data :=
    Storage.load_diskOf _ none
  have hkept := ((credentials_kept_first Script).2 _ _ _ hload).1
  have hlater := (hkept []).2 zerosCredentials rfl
  obtain ⟨n, hn⟩ := again_zeros_ok
  obtain ⟨-, hcred, hsilent⟩ := ((hlater []).2 (Attempt.again 0)).succeeded n hn
  have hforeign : fingerprint? (Attempt.again 1).seed ≠ some zerosCredentials.seedFingerprint := by
    have hones : fingerprint? (Attempt.again 1).seed = some Signer.ones.seedFingerprint :=
      Signer.fingerprint?_of_ofSeed Signer.ofSeed_ones
    rw [hones]
    decide
  obtain ⟨hrefused, hsilent', -⟩ := ((hlater []).2 (Attempt.again 1)).foreign hforeign
  exact ⟨⟨n, hn, hcred, hsilent⟩, hrefused, hsilent', fun as => (hlater as).1⟩

end HostedNode

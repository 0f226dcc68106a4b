import HostedNode.Proofs.Disk.Parents
import HostedNode.Proofs.Settings.Document
import HostedNode.Settings.File

/-! # Settings survive their file

Settings that are saved at a writable path are loaded from there (`load_save`), whatever stood there
before. The path stays writable, so that this goes on for any number of saves. In general, saving
succeeds if and only if a file can be written at the path (`save_ok_iff`), and settings that were
loaded can be saved where they came from (`receives_of_load`). -/

namespace HostedNode.Settings

open Disk

theorem save_eq (s : Settings) (path : String) :
    s.save path = (do makeParents path; write path (Text.Utf8.encode s.document)) := by
  unfold save makeParents
  cases Path.parent? path <;> rfl

/-- A document of settings is loaded as these settings. -/
theorem load_of_read {d : Disk} {path : String} {s : Settings}
    (h : d.read path = .ok (Text.Utf8.encode s.document)) : load d path = .ok s := by
  unfold load
  rw [readText_of_read h]
  simp only [ofDocument?_document]

theorem loadOrDefault_of_load {d : Disk} {path : String} {s : Settings}
    (h : load d path = .ok s) : loadOrDefault d path = .ok s := by
  rw [loadOrDefault, h]

/-- **Saving at a writable path succeeds, and what is saved is what is loaded.** -/
theorem load_save {d : Disk} {path : String} (h : Writable d path) (s : Settings) :
    ∃ d', s.save path d = .ok () d' ∧ d'.read path = .ok (Text.Utf8.encode s.document) ∧
      load d' path = .ok s ∧ Writable d' path := by
  obtain ⟨d1, d2, hup, hw, hwritable⟩ := h.write (Text.Utf8.encode s.document)
  have hread := read_of_write hw
  refine ⟨d2, ?_, hread, load_of_read hread, hwritable⟩
  rw [save_eq]
  simp only [bind, EStateM.bind, hup, hw]

/-! ### Where settings can be saved -/

/-- **Saving succeeds if and only if** a file can be written at the path. -/
theorem save_ok_iff {d : Disk} {path : String} {s : Settings} :
    (∃ d', s.save path d = .ok () d') ↔ Receives d path := by
  have hsteps : (∃ d', s.save path d = .ok () d') ↔ ∃ d1, makeParents path d = .ok () d1 ∧
      ∃ d', write path (Text.Utf8.encode s.document) d1 = .ok () d' := by
    rw [save_eq]
    simp only [bind, EStateM.bind]
    cases makeParents path d with
    | ok u d1 => simp
    | error e d1 => simp
  rw [hsteps]
  constructor
  · rintro ⟨d1, hup, hwrite⟩
    obtain ⟨hcalm, p, hfile⟩ := write_ok_iff.mp hwrite
    rw [(makeParents_extends hup).mishaps] at hcalm
    exact ⟨hcalm, d1, p, hup, fileToWrite_eq_ok.mp hfile⟩
  · rintro ⟨hcalm, d1, p, hup, hfile⟩
    rw [← (makeParents_extends hup).mishaps] at hcalm
    exact ⟨d1, hup, write_ok_iff.mpr ⟨hcalm, p, fileToWrite_eq_ok.mpr hfile⟩⟩

/-- What a save that succeeds leaves is loaded. -/
theorem load_of_save {d d' : Disk} {path : String} {s : Settings}
    (h : s.save path d = .ok () d') :
    load d' path = .ok s ∧ loadOrDefault d' path = .ok s := by
  rw [save_eq] at h
  simp only [bind, EStateM.bind] at h
  cases hup : makeParents path d with
  | error e d1 => simp [hup] at h
  | ok u d1 =>
    rw [hup] at h
    have hload := load_of_read (read_of_write h)
    exact ⟨hload, loadOrDefault_of_load hload⟩

/-- Settings that were loaded can be saved where they came from. -/
theorem receives_of_load {d : Disk} {path : String} {s : Settings} (h : load d path = .ok s)
    (hcalm : d.mishaps.head?.join = none) : Receives d path := by
  have hread : ∃ bs, d.read path = .ok bs := by
    unfold load readText at h
    cases hr : d.read path with
    | ok bs => exact ⟨bs, rfl⟩
    | error e =>
      rw [hr] at h
      cases h
  obtain ⟨bs, hread⟩ := hread
  obtain ⟨p, hlocate, hfile, hend⟩ := read_eq_ok.mp hread
  exact ⟨hcalm, d, p, makeParents_of_locate hlocate, hlocate, by simp [hfile],
    opens_of_file hfile, hend⟩

theorem document_injective {s t : Settings} (h : s.document = t.document) : s = t := by
  have hread := ofDocument?_document s
  rw [h, ofDocument?_document] at hread
  exact (Option.some.inj hread).symm

/-- **Settings survive their file.** They can be saved wherever a file can be written, the
directories on the way being made, and there they are loaded as they were: texts with any characters
in them, empty ones, and those that are not set. Their document is read as these settings, and no
others have the same one. Settings that were loaded from a file, whatever its document looked like,
can be saved in its place, and are loaded again. -/
theorem settings_survive_file (s : Settings) (path : String) (d : Disk) :
    ((∃ d', s.save path d = .ok () d') ↔ Receives d path) ∧
    (∀ d', s.save path d = .ok () d' →
      load d' path = .ok s ∧ loadOrDefault d' path = .ok s) ∧
    ofDocument? s.document = some s ∧
    (∀ t : Settings, t.document = s.document → t = s) ∧
    (load d path = .ok s → d.mishaps.head?.join = none →
      ∃ d', s.save path d = .ok () d' ∧
        load d' path = .ok s ∧ loadOrDefault d' path = .ok s) := by
  refine ⟨save_ok_iff, fun d' => load_of_save, ofDocument?_document s,
    fun t => document_injective, fun hload hcalm => ?_⟩
  obtain ⟨d', hsave⟩ := save_ok_iff.mpr (receives_of_load hload hcalm)
  exact ⟨d', hsave, load_of_save hsave⟩

/-- Settings with texts that are hard to quote, and an empty one. -/
def awkward : Settings where
  environment := .staging
  apiKey := some ""
  inviteCode := some "\"\"\"'''\\\r\n\t\x07é"
  partnerCert := none
  partnerKey := some "\n'"
  logging := ⟨.trace, some "\x00 # = [x]"⟩

theorem settings_survive_file_awkward :
    Receives ⟨[], [], []⟩ "nested/settings.toml" ∧
      ∃ d', awkward.save "nested/settings.toml" ⟨[], [], []⟩ = .ok () d' ∧
        load d' "nested/settings.toml" = .ok awkward := by
  have hup : Path.parent? "nested/settings.toml" = some "nested" := by decide +kernel
  have hroom : makeParents "nested/settings.toml" ⟨[], [], []⟩ =
      .ok () ⟨[(["nested"], .directory)], [], []⟩ := by
    rw [makeParents, hup]
    rfl
  have hfree : (⟨[(["nested"], .directory)], [], []⟩ : Disk).at? ["nested", "settings.toml"] =
      none := by decide
  have hreceives : Receives ⟨[], [], []⟩ "nested/settings.toml" :=
    ⟨rfl, _, ["nested", "settings.toml"], hroom, by decide +kernel, by simp [hfree],
      by simp [Opens, hfree], by decide +kernel⟩
  obtain ⟨hsave, hload, -⟩ :=
    settings_survive_file awkward "nested/settings.toml" ⟨[], [], []⟩
  obtain ⟨d', hd'⟩ := hsave.mpr hreceives
  exact ⟨hreceives, d', hd', (hload d' hd').1⟩

/-- Settings cannot be saved in place of a directory, though its directories can be made. -/
theorem save_in_place_of_directory :
    ¬ ∀ (s : Settings) (path : String) (d : Disk), (∃ d', makeParents path d = .ok () d') →
      ∃ d', s.save path d = .ok () d' ∧
        load d' path = .ok s ∧ loadOrDefault d' path = .ok s := by
  intro h
  let d : Disk := ⟨[(["d"], .directory)], [], []⟩
  have hlocate : d.locate "d" = .ok ["d"] := by decide +kernel
  obtain ⟨d', hsave, -⟩ := h default "d" d ⟨d, makeParents_of_locate hlocate⟩
  obtain ⟨-, d1, p, hup, hp, hfree, -⟩ := save_ok_iff.mp ⟨d', hsave⟩
  rw [makeParents_of_locate hlocate] at hup
  obtain ⟨-, rfl⟩ := EStateM.Result.ok.inj hup
  rw [hlocate] at hp
  obtain rfl := Except.ok.inj hp
  exact hfree (by decide)

end HostedNode.Settings

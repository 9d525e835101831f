/-
# Crosslink.Proofs.Project.ConfigOnDisk — settings survive the disk

What is loaded depends on nothing but what stands at the settings file
(`onDisk_load`), and saving goes through at most three steps (`saveRun`). Where no
link is called like the settings file or its draft, saving that succeeds is a
replacement in the project's directory (`holds_of_save`). Settings that are there
stay through any further attempt to save them (`Holds.saveRun`), and when nothing
goes wrong the attempt succeeds (`Holds.save_of_calm`).

Main theorem: `settings_survive_disk`. What was saved is loaded again. So
initializing a project leaves its settings as they were, and doing it once more
writes the same file. A link in the place of either file can lose the settings
(`settings_lost_through_links`).
-/
import Crosslink.CommandLine
import Crosslink.Proofs.Files.Directories
import Crosslink.Proofs.Project.ConfigText
import Crosslink.Proofs.Symbols.Transparency

namespace Crosslink.Project.Config

open Crosslink.Files
open Crosslink.Symbols (onDisk onDisk_bind onDisk_readText)

set_option autoImplicit false

/-! ## The two files -/

theorem isFileName_settings : IsFileName "doclink.toml" :=
  ⟨⟨by decide, by decide, by decide⟩, by decide⟩

theorem isFileName_draft : IsFileName "doclink.toml.tmp" :=
  ⟨⟨by decide, by decide, by decide⟩, by decide⟩

theorem draftPathIn_eq (root : Path) : draftPathIn root = root.join "doclink.toml.tmp" := by
  have settings : ("doclink.toml".toList.head? == some '/') = false := by decide
  have draft : ("doclink.toml.tmp".toList.head? == some '/') = false := by decide
  have spelled : "doclink.toml" ++ ".tmp" = "doclink.toml.tmp" := by decide
  unfold draftPathIn pathIn Path.join
  simp only [settings, draft, Bool.false_or]
  split
  · rw [spelled]
  split
  · rw [String.append_assoc, spelled]
  · rw [String.append_assoc, spelled]

/-! ## Loading -/

/-- What loading gives, by what stands at the settings file. -/
def loaded (root : Path) : Option Entry → Except ConfigError Config
  | none => .ok {}
  | some .directory => .error (.unreadable (pathIn root) .isDirectory)
  | some (.link _) => .error (.unreadable (pathIn root) .notFound)
  | some (.file content) =>
    match String.fromUTF8? content with
    | none => .error (.unreadable (pathIn root) .notUtf8)
    | some text =>
      match read text with
      | .ok config => .ok config
      | .error fault => .error (.malformed (pathIn root) fault)

/-- **Loading depends on what stands at the settings file, and changes nothing.** -/
theorem onDisk_load (disk : Disk) (root : Path) :
    onDisk disk (load root) = (loaded root (disk.entryAt? (pathIn root)), disk) := by
  have presence : onDisk disk (FileAccess.isPresent (pathIn root)) =
      ((disk.locate (pathIn root)).isOk, disk) := rfl
  rw [load, onDisk_bind, presence, Disk.entryAt?]
  cases located : disk.locate (pathIn root) with
  | error fault => rfl
  | ok l =>
      obtain ⟨e, entry⟩ := Option.isSome_iff_exists.1 (Disk.isSome_of_locate located)
      simp only [Except.isOk, Except.toBool, Bool.not_true, Bool.false_eq_true, if_false]
      rw [onDisk_bind, onDisk_readText, Disk.read, located]
      simp only [entry]
      cases e with
      | directory => rfl
      | link target => rfl
      | file content =>
          simp only [loaded]
          cases String.fromUTF8? content with
          | none => rfl
          | some text =>
              simp only
              cases read text with
              | error fault => rfl
              | ok config => rfl

theorem fromUTF8?_toUTF8 (text : String) : String.fromUTF8? text.toUTF8 = some text := by
  rw [String.fromUTF8?, String.toUTF8_eq_toByteArray, dif_pos text.isValidUTF8]
  rfl

theorem loaded_write (root : Path) (c : Config) : loaded root (some (.file c.write.toUTF8)) = .ok c := by
  simp only [loaded, fromUTF8?_toUTF8, read_write]

/-! ## Saving -/

/-- The ways in which saving can go. -/
inductive SaveRun (root : Path) (c : Config) (disk : Disk) : Except ConfigError Unit → Disk → Prop where
  | noDirectory {fault : FileFault} {after : Disk}
      (made : onDisk disk (makeDirectories root) = (.error fault, after)) :
      SaveRun root c disk (.error (.noDirectory root fault)) after
  | unwritable {fault : FileFault} {between after : Disk}
      (made : onDisk disk (makeDirectories root) = (.ok (), between))
      (wrote : onDisk between (FileAccess.writeText (draftPathIn root) c.write) = (.error fault, after)) :
      SaveRun root c disk (.error (.unwritable (draftPathIn root) fault)) after
  | unmovable {fault : FileFault} {between written after : Disk}
      (made : onDisk disk (makeDirectories root) = (.ok (), between))
      (wrote : onDisk between (FileAccess.writeText (draftPathIn root) c.write) = (.ok (), written))
      (moved : onDisk written (FileAccess.moveFile (draftPathIn root) (pathIn root)) = (.error fault, after)) :
      SaveRun root c disk (.error (.unmovable (draftPathIn root) (pathIn root) fault)) after
  | saved {between written after : Disk}
      (made : onDisk disk (makeDirectories root) = (.ok (), between))
      (wrote : onDisk between (FileAccess.writeText (draftPathIn root) c.write) = (.ok (), written))
      (moved : onDisk written (FileAccess.moveFile (draftPathIn root) (pathIn root)) = (.ok (), after)) :
      SaveRun root c disk (.ok ()) after

theorem saveRun {root : Path} {c : Config} {disk after : Disk} {result : Except ConfigError Unit}
    (ran : onDisk disk (c.save root) = (result, after)) : SaveRun root c disk result after := by
  rw [save, onDisk_bind] at ran
  cases made : onDisk disk (makeDirectories root) with
  | mk outcome between =>
      rw [made] at ran
      cases outcome with
      | error fault =>
          cases ran
          exact .noDirectory made
      | ok done =>
          simp only [onDisk_bind] at ran
          cases wrote : onDisk between (FileAccess.writeText (draftPathIn root) c.write) with
          | mk outcome written =>
              rw [wrote] at ran
              cases outcome with
              | error fault =>
                  cases ran
                  exact .unwritable made wrote
              | ok done =>
                  simp only [onDisk_bind] at ran
                  cases moved : onDisk written (FileAccess.moveFile (draftPathIn root) (pathIn root)) with
                  | mk outcome last =>
                      rw [moved] at ran
                      cases outcome with
                      | error fault =>
                          cases ran
                          exact .unmovable made wrote moved
                      | ok done =>
                          cases ran
                          exact .saved made wrote moved

/-! ## Saved settings -/

/-- The settings file in the directory `l` of the project holds `c`, and a draft can be written. -/
structure Holds (disk : Disk) (root : Path) (c : Config) (l : Location) : Prop where
  reaches : disk.Reaches root l
  settings : disk.entry? (l ++ ["doclink.toml"]) = some (.file c.write.toUTF8)
  draft : disk.entry? (l ++ ["doclink.toml.tmp"]) ≠ some .directory
  unlinked : disk.Unlinked "doclink.toml.tmp"

section Holds

variable {disk after : Disk} {root : Path} {c : Config} {l : Location}

/-- **Saving that succeeds replaces the settings file.** -/
theorem holds_of_save (settingsUnlinked : disk.Unlinked "doclink.toml")
    (draftUnlinked : disk.Unlinked "doclink.toml.tmp") (saved : onDisk disk (c.save root) = (.ok (), after)) :
    ∃ between l, onDisk disk (makeDirectories root) = (.ok (), between) ∧ between.Reaches root l ∧
      between.Replaced after l "doclink.toml.tmp" "doclink.toml" c.write.toUTF8 ∧ Holds after root c l := by
  cases saveRun saved with
  | @saved between written after made wrote moved =>
      have settingsStill := unlinked_makeDirectories settingsUnlinked made
      have draftStill := unlinked_makeDirectories draftUnlinked made
      rw [draftPathIn_eq] at wrote moved
      rcases Disk.exists_of_writeText isFileName_draft draftStill wrote with
        ⟨⟨_, impossible⟩, -⟩ | ⟨l, content, reaches, plainDraft, isWritten, whole⟩
      · cases impossible
      obtain rfl := whole rfl
      have stillReaches := reaches.written isWritten plainDraft
      rcases stillReaches.moveFile isFileName_draft isFileName_settings isWritten.entry? moved with
        ⟨⟨_, impossible⟩, -⟩ | ⟨-, free, isReplaced⟩
      · cases impossible
      have plain : written.Plain (l ++ ["doclink.toml"]) :=
        ⟨free, isWritten.unlinked settingsStill l⟩
      refine ⟨between, l, made, reaches, isReplaced.of_written isWritten, ?_⟩
      refine ⟨stillReaches.replaced isReplaced (Disk.plain_of_file isWritten.entry?) plain, ?_, ?_, ?_⟩
      · rw [isReplaced.entries, if_pos rfl]
      · simp [isReplaced.entries]
      · exact isReplaced.unlinked (isWritten.unlinked draftStill)

namespace Holds

theorem entryAt? (holds : Holds disk root c l) :
    disk.entryAt? (pathIn root) = some (.file c.write.toUTF8) := by
  have noLink := (Disk.plain_of_file holds.settings).noLink
  rw [pathIn, holds.reaches.entryAt? isFileName_settings noLink, holds.settings]

/-- **Settings that are on disk are loaded.** -/
theorem load (holds : Holds disk root c l) : onDisk disk (load root) = (.ok c, disk) := by
  rw [onDisk_load, holds.entryAt?, loaded_write]

theorem plainDraft (holds : Holds disk root c l) : disk.Plain (l ++ ["doclink.toml.tmp"]) :=
  ⟨holds.draft, holds.unlinked l⟩

theorem tried (holds : Holds disk root c l) : Holds disk.tried root c l :=
  ⟨Disk.reaches_tried_iff.2 holds.reaches, holds.settings, holds.draft, holds.unlinked⟩

theorem written (holds : Holds disk root c l) {content : ByteArray}
    (written : disk.Written after (l ++ ["doclink.toml.tmp"]) content) : Holds after root c l := by
  refine ⟨holds.reaches.written written holds.plainDraft, ?_, ?_, written.unlinked holds.unlinked⟩
  · rw [written.entries, if_neg (by simp), holds.settings]
  · simp [written.entry?]

theorem replaced (holds : Holds disk root c l)
    (replaced : disk.Replaced after l "doclink.toml.tmp" "doclink.toml" c.write.toUTF8) :
    Holds after root c l := by
  have plain := Disk.plain_of_file holds.settings
  refine ⟨holds.reaches.replaced replaced holds.plainDraft plain, ?_, ?_, replaced.unlinked holds.unlinked⟩
  · rw [replaced.entries, if_pos rfl]
  · simp [replaced.entries]

theorem makeDirectories (holds : Holds disk root c l) :
    ∃ between, onDisk disk (makeDirectories root) = (.ok (), between) ∧ Holds between root c l ∧
      (disk.mishaps = [] → between = disk) := by
  obtain ⟨between, made, rfl | rfl⟩ := makeDirectories_of_reaches holds.reaches
  · exact ⟨between, made, holds, fun _ => rfl⟩
  · exact ⟨disk.tried, made, holds.tried, Disk.tried_of_calm⟩

theorem writeDraft (holds : Holds disk root c l) {outcome : Except FileFault Unit}
    (wrote : onDisk disk (FileAccess.writeText (draftPathIn root) c.write) = (outcome, after)) :
    Holds after root c l ∧
      (outcome = .ok () → after.entry? (l ++ ["doclink.toml.tmp"]) = some (.file c.write.toUTF8)) := by
  rw [draftPathIn_eq] at wrote
  rcases Disk.exists_of_writeText isFileName_draft holds.unlinked wrote with
    ⟨⟨fault, rfl⟩, rfl⟩ | ⟨k, content, reaches, -, isWritten, whole⟩
  · exact ⟨holds.tried, fun impossible => by cases impossible⟩
  · obtain rfl := reaches.unique holds.reaches
    exact ⟨holds.written isWritten, fun done => whole done ▸ isWritten.entry?⟩

theorem moveDraft (holds : Holds disk root c l)
    (isDraft : disk.entry? (l ++ ["doclink.toml.tmp"]) = some (.file c.write.toUTF8))
    {outcome : Except FileFault Unit}
    (moved : onDisk disk (FileAccess.moveFile (draftPathIn root) (pathIn root)) = (outcome, after)) :
    Holds after root c l := by
  rw [draftPathIn_eq] at moved
  rcases holds.reaches.moveFile isFileName_draft isFileName_settings isDraft moved with
    ⟨-, rfl⟩ | ⟨-, -, isReplaced⟩
  · exact holds.tried
  · exact holds.replaced isReplaced

/-- **Settings stay through any attempt to save them again**, whether or not it succeeds. -/
theorem saveRun (holds : Holds disk root c l) {result : Except ConfigError Unit}
    (run : SaveRun root c disk result after) : Holds after root c l := by
  obtain ⟨between, made, stillHolds, -⟩ := holds.makeDirectories
  cases run with
  | noDirectory made' => cases made.symm.trans made'
  | unwritable made' wrote =>
      cases made.symm.trans made'
      exact (stillHolds.writeDraft wrote).1
  | unmovable made' wrote moved =>
      cases made.symm.trans made'
      obtain ⟨holdsDraft, isDraft⟩ := stillHolds.writeDraft wrote
      exact holdsDraft.moveDraft (isDraft rfl) moved
  | saved made' wrote moved =>
      cases made.symm.trans made'
      obtain ⟨holdsDraft, isDraft⟩ := stillHolds.writeDraft wrote
      exact holdsDraft.moveDraft (isDraft rfl) moved

/-- When nothing goes wrong, they are saved again. -/
theorem save_of_calm (holds : Holds disk root c l) (calm : disk.mishaps = []) :
    (onDisk disk (c.save root)).1 = .ok () := by
  obtain ⟨between, made, -, same⟩ := holds.makeDirectories
  obtain rfl := same calm
  have wrote : onDisk between (FileAccess.writeText (root.join "doclink.toml.tmp") c.write) =
      (.ok (), between.insert (l ++ ["doclink.toml.tmp"]) (.file c.write.toUTF8)) :=
    holds.reaches.writeText_of_calm calm isFileName_draft holds.plainDraft c.write
  obtain ⟨holdsDraft, isDraft⟩ := holds.writeDraft (draftPathIn_eq root ▸ wrote)
  have free : Disk.entry? (between.insert (l ++ ["doclink.toml.tmp"]) (.file c.write.toUTF8))
      (l ++ ["doclink.toml"]) ≠ some .directory := by
    rw [holdsDraft.settings]
    simp
  have moved : onDisk _ (FileAccess.moveFile (root.join "doclink.toml.tmp") (root.join "doclink.toml")) =
      (.ok (), _) :=
    holdsDraft.reaches.moveFile_of_calm calm isFileName_draft isFileName_settings (isDraft rfl) free
  rw [save, onDisk_bind, made]
  simp only [onDisk_bind, draftPathIn_eq, wrote, pathIn, moved]
  rfl

end Holds

end Holds

/-! ## Initializing a project -/

open CommandLine (runInit Outcome)

theorem onDisk_runInit (disk : Disk) (root : Path) :
    onDisk disk (runInit root) =
      match (onDisk disk (load root)).1 with
      | .error e => (CommandLine.failed e.message, disk)
      | .ok c =>
        match onDisk disk (c.save root) with
        | (.error e, after) => (CommandLine.failed e.message, after)
        | (.ok _, after) => (⟨"Wrote doclink.toml in " ++ root.text ++ "\n", .success⟩, after) := by
  rw [runInit, onDisk_bind, onDisk_load]
  cases loaded root (disk.entryAt? (pathIn root)) with
  | error e => rfl
  | ok c =>
      simp only
      rw [onDisk_bind]
      obtain ⟨outcome, after⟩ := onDisk disk (c.save root)
      cases outcome with
      | error e => rfl
      | ok done => rfl

theorem exists_saved_of_runInit {disk after : Disk} {root : Path} {outcome : Outcome}
    (ran : onDisk disk (runInit root) = (outcome, after)) (success : outcome.status = .success) :
    ∃ c, (onDisk disk (load root)).1 = .ok c ∧ onDisk disk (c.save root) = (.ok (), after) ∧
      outcome = ⟨"Wrote doclink.toml in " ++ root.text ++ "\n", .success⟩ := by
  rw [onDisk_runInit] at ran
  split at ran
  · obtain ⟨rfl, rfl⟩ := Prod.mk.inj ran
    cases success
  rename_i c given
  split at ran
  · obtain ⟨rfl, rfl⟩ := Prod.mk.inj ran
    cases success
  · rename_i saved
    obtain ⟨rfl, rfl⟩ := Prod.mk.inj ran
    exact ⟨c, given, saved, rfl⟩

/-- **Settings survive the disk.** Where no link is called like the settings file or its draft, what was
saved is loaded again. Initializing a project leaves what is loaded as it was; doing it once more
leaves the same file, and succeeds again when nothing goes wrong. -/
theorem settings_survive_disk {disk : Disk} (settingsUnlinked : disk.Unlinked "doclink.toml")
    (draftUnlinked : disk.Unlinked "doclink.toml.tmp") (root : Path) :
    (∀ (c : Config) (after : Disk), onDisk disk (c.save root) = (.ok (), after) →
        (onDisk after (load root)).1 = .ok c) ∧
      ∀ (outcome : Outcome) (after : Disk), onDisk disk (runInit root) = (outcome, after) →
        outcome.status = .success →
        (onDisk after (load root)).1 = (onDisk disk (load root)).1 ∧
          ∃ content, after.entryAt? (pathIn root) = some (.file content) ∧
            (onDisk after (runInit root)).2.entryAt? (pathIn root) = some (.file content) ∧
            (after.mishaps = [] → (onDisk after (runInit root)).1 = outcome) := by
  refine ⟨?_, ?_⟩
  · intro c after saved
    obtain ⟨-, l, -, -, -, holds⟩ := holds_of_save settingsUnlinked draftUnlinked saved
    rw [holds.load]
  · intro outcome after ran success
    obtain ⟨c, given, saved, rfl⟩ := exists_saved_of_runInit ran success
    obtain ⟨-, l, -, -, -, holds⟩ := holds_of_save settingsUnlinked draftUnlinked saved
    refine ⟨by rw [holds.load, given], c.write.toUTF8, holds.entryAt?, ?_⟩
    rw [onDisk_runInit, holds.load]
    simp only
    cases again : onDisk after (c.save root) with
    | mk result last =>
        have holdsAgain := holds.saveRun (saveRun again)
        cases result with
        | error e =>
            refine ⟨holdsAgain.entryAt?, fun calm => ?_⟩
            have done := holds.save_of_calm calm
            rw [again] at done
            cases done
        | ok done => exact ⟨holdsAgain.entryAt?, fun _ => rfl⟩

theorem onDisk_eq_of_fst {α : Type} {disk : Disk} {program : StateM Disk α} {result : α}
    (given : (onDisk disk program).1 = result) :
    onDisk disk program = (result, (onDisk disk program).2) := Prod.ext given rfl

/-- A project behind a link, with settings and a draft that was left behind. -/
def usedDisk : Disk where
  entries :=
    [(["home"], .directory), (["home", "docs"], .link ⟨"../srv/docs/"⟩), (["srv"], .directory),
      (["srv", "docs"], .directory), (["srv", "docs", "doclink.toml"], .file "version = 3\n".toUTF8),
      (["srv", "docs", "doclink.toml.tmp"], .file "vers".toUTF8)]
  workingDirectory := ["home"]

/-- Settings that need every kind of string. -/
def quotedConfig : Config :=
  ⟨4294967295, "say \"\"\"\\\n'''\u0000", ⟨["", "it's", "\"\\'\n"], [], "\r\n"⟩⟩

/-- Settings with quotes, backslashes, line breaks and control characters replace others, and a
project below directories that are missing is initialized twice. -/
theorem settings_survive_disk_quoted :
    (∃ after, onDisk usedDisk (quotedConfig.save ⟨"docs/"⟩) = (.ok (), after) ∧
        (onDisk after (load ⟨"docs/"⟩)).1 = .ok quotedConfig) ∧
      ∃ outcome after, onDisk usedDisk (runInit ⟨"docs/./api//v2"⟩) = (outcome, after) ∧
        outcome.status = .success ∧
        (onDisk after (load ⟨"docs/./api//v2"⟩)).1 = (onDisk usedDisk (load ⟨"docs/./api//v2"⟩)).1 ∧
        ∃ content, after.entryAt? (pathIn ⟨"docs/./api//v2"⟩) = some (.file content) ∧
          (onDisk after (runInit ⟨"docs/./api//v2"⟩)).2.entryAt? (pathIn ⟨"docs/./api//v2"⟩) =
            some (.file content) ∧
          (after.mishaps = [] → (onDisk after (runInit ⟨"docs/./api//v2"⟩)).1 = outcome) := by
  have settings : usedDisk.Unlinked "doclink.toml" := Disk.unlinked_of_entries (by decide +kernel)
  have draft : usedDisk.Unlinked "doclink.toml.tmp" := Disk.unlinked_of_entries (by decide +kernel)
  have saved : (onDisk usedDisk (quotedConfig.save ⟨"docs/"⟩)).1 = .ok () := by decide +kernel
  have success : (onDisk usedDisk (runInit ⟨"docs/./api//v2"⟩)).1.status = .success := by decide +kernel
  have ran := onDisk_eq_of_fst (Eq.refl (onDisk usedDisk (runInit ⟨"docs/./api//v2"⟩)).1)
  exact ⟨⟨_, onDisk_eq_of_fst saved,
      (settings_survive_disk settings draft ⟨"docs/"⟩).1 _ _ (onDisk_eq_of_fst saved)⟩,
    _, _, ran, success, (settings_survive_disk settings draft ⟨"docs/./api//v2"⟩).2 _ _ ran success⟩

/-- A project with a link in the place of its draft. -/
def linkedDraft : Disk where
  entries := [(["docs"], .directory), (["docs", "doclink.toml.tmp"], .link ⟨"doclink.toml"⟩)]

/-- A project behind a link that is called like a settings file. -/
def linkedRoot : Disk where
  entries := [(["docs"], .directory), (["docs", "doclink.toml"], .link ⟨"."⟩)]

/-- Through a link in the place of the draft, the settings are written to their file at once; then the
link is moved there, and leads to itself. Behind a link that is called like the settings file, the
settings take the place of the link, and the project is no longer found. -/
theorem settings_lost_through_links :
    (∃ after, onDisk linkedDraft (save ⟨"/docs"⟩ { version := 7 }) = (.ok (), after) ∧
        (onDisk after (load ⟨"/docs"⟩)).1 = .ok {} ∧
        (onDisk after (load ⟨"/docs"⟩)).1 ≠ .ok { version := 7 }) ∧
      ∃ after, onDisk linkedRoot (save ⟨"/docs/doclink.toml"⟩ { version := 7 }) = (.ok (), after) ∧
        (onDisk after (load ⟨"/docs/doclink.toml"⟩)).1 = .ok {} ∧
        (onDisk after (load ⟨"/docs/doclink.toml"⟩)).1 ≠ .ok { version := 7 } := by
  have draft : (onDisk linkedDraft (save ⟨"/docs"⟩ { version := 7 })).1 = .ok () := by decide +kernel
  have root : (onDisk linkedRoot (save ⟨"/docs/doclink.toml"⟩ { version := 7 })).1 = .ok () := by
    decide +kernel
  exact ⟨⟨_, onDisk_eq_of_fst draft, by decide +kernel, by decide +kernel⟩,
    _, onDisk_eq_of_fst root, by decide +kernel, by decide +kernel⟩

end Crosslink.Project.Config

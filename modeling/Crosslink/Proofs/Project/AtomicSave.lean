/-
# Crosslink.Proofs.Project.AtomicSave — saving is all or nothing

Saving makes directories on the way to the project, writes a draft and moves it
to the settings file. On a sound disk without links the first two leave what
stands at the settings file alone (`SameSettings`), also when they stop half way.
So whichever step fails, and for whatever reason, the old settings stay. When all
succeed, the new settings are there, the draft is gone and no other file has
changed.

Main theorem: `save_all_or_nothing`.
-/
import Crosslink.Proofs.Project.ConfigOnDisk

namespace Crosslink.Project.Config

open Crosslink.Files
open Crosslink.Symbols (onDisk)

set_option autoImplicit false

variable {disk : Disk} {root : Path} {c : Config}

/-! ## Steps that fail -/

/-- What stands at the settings file, and below it, is the same on both disks. -/
structure SameSettings (root : Path) (disk after : Disk) : Prop where
  sound : after.Sound
  linkFree : after.LinkFree
  place : after.place root = disk.place root
  entries : ∀ more, after.entry? (disk.place root ++ "doclink.toml" :: more) =
    disk.entry? (disk.place root ++ "doclink.toml" :: more)

namespace SameSettings

variable {between after : Disk}

theorem trans (first : SameSettings root disk between) (second : SameSettings root between after) :
    SameSettings root disk after := by
  refine ⟨second.sound, second.linkFree, second.place.trans first.place, ?_⟩
  intro more
  have kept := second.entries more
  rw [first.place] at kept
  exact kept.trans (first.entries more)

theorem tried (same : SameSettings root disk after) : SameSettings root disk after.tried :=
  ⟨same.sound, same.linkFree, same.place, same.entries⟩

/-- Directories on the way leave the settings file as it is. -/
theorem of_grown (linkFree : disk.LinkFree) (grown : disk.Grown after (disk.place root)) :
    SameSettings root disk after := by
  refine ⟨grown.sound, grown.linkFree linkFree, Disk.place_congr grown.workingDirectory root, ?_⟩
  intro more
  refine grown.entry?_of_not_prefix ?_
  intro onTheWay
  have short := onTheWay.length_le
  rw [List.length_append, List.length_cons] at short
  omega

/-- A draft leaves the settings file as it is, however much of it was written. -/
theorem of_written (sound : disk.Sound) (linkFree : disk.LinkFree) (descends : root.Descends) {l : Location}
    (reaches : disk.Reaches root l) (plain : disk.Plain (l ++ ["doclink.toml.tmp"])) {content : ByteArray}
    (written : disk.Written after (l ++ ["doclink.toml.tmp"]) content) : SameSettings root disk after := by
  obtain ⟨rfl, isDirectory⟩ := (sound.reaches_iff linkFree descends).1 reaches
  refine ⟨sound.put isDirectory plain.noDirectory written.entries, fun x linked => linkFree x (written.linked linked),
    Disk.place_congr written.workingDirectory root, ?_⟩
  intro more
  have other : disk.place root ++ "doclink.toml" :: more ≠ disk.place root ++ ["doclink.toml.tmp"] := by
    intro same
    have names := (List.cons.inj (List.append_cancel_left same)).1
    exact absurd names (by decide)
  rw [written.entries, if_neg other]

theorem entryAt? (same : SameSettings root disk after) (sound : disk.Sound) (linkFree : disk.LinkFree)
    (descends : root.Descends) : after.entryAt? (pathIn root) = disk.entryAt? (pathIn root) := by
  rw [pathIn, same.sound.entryAt? same.linkFree descends isFileName_settings,
    sound.entryAt? linkFree descends isFileName_settings, same.place, same.entries]

end SameSettings

/-- Whichever step of saving fails, the settings file stays as it was. -/
theorem SaveRun.sameSettings {e : ConfigError} {after : Disk} (run : SaveRun root c disk (.error e) after)
    (sound : disk.Sound) (linkFree : disk.LinkFree) (descends : root.Descends) :
    SameSettings root disk after := by
  cases run with
  | noDirectory made => exact .of_grown linkFree (grown_makeDirectories sound linkFree descends made)
  | unwritable made wrote =>
      have same := SameSettings.of_grown linkFree (grown_makeDirectories sound linkFree descends made)
      rw [draftPathIn_eq] at wrote
      rcases Disk.exists_of_writeText isFileName_draft (fun _ => same.linkFree _) wrote with
        ⟨-, rfl⟩ | ⟨l, content, reaches, plain, written, -⟩
      · exact same.tried
      · exact same.trans (.of_written same.sound same.linkFree descends reaches plain written)
  | unmovable made wrote moved =>
      have same := SameSettings.of_grown linkFree (grown_makeDirectories sound linkFree descends made)
      rw [draftPathIn_eq] at wrote moved
      rcases Disk.exists_of_writeText isFileName_draft (fun _ => same.linkFree _) wrote with
        ⟨⟨fault, impossible⟩, -⟩ | ⟨l, content, reaches, plain, written, -⟩
      · cases impossible
      have still := reaches.written written plain
      rcases still.moveFile isFileName_draft isFileName_settings written.entry? moved with
        ⟨-, rfl⟩ | ⟨impossible, -⟩
      · exact (same.trans (.of_written same.sound same.linkFree descends reaches plain written)).tried
      · cases impossible

/-! ## Other files -/

/-- Saving changes no file but the settings file and the draft. -/
theorem file_of_save (sound : disk.Sound) (linkFree : disk.LinkFree) (descends : root.Descends)
    {between after : Disk} {l : Location} (made : onDisk disk (makeDirectories root) = (.ok (), between))
    (reaches : between.Reaches root l)
    (replaced : between.Replaced after l "doclink.toml.tmp" "doclink.toml" c.write.toUTF8) {x : Location}
    {content : ByteArray} (isFile : disk.entry? x = some (.file content))
    (notSettings : disk.locate (pathIn root) ≠ .ok x) (notDraft : disk.locate (draftPathIn root) ≠ .ok x) :
    after.entry? x = some (.file content) := by
  have grown := grown_makeDirectories sound linkFree descends made
  obtain ⟨isPlace, -⟩ := (grown.sound.reaches_iff (grown.linkFree linkFree) descends).1 reaches
  rw [Disk.place_congr grown.workingDirectory] at isPlace
  subst isPlace
  have settings : x ≠ disk.place root ++ ["doclink.toml"] := by
    rintro rfl
    exact notSettings (sound.locate_join linkFree descends isFileName_settings isFile)
  have draft : x ≠ disk.place root ++ ["doclink.toml.tmp"] := by
    rintro rfl
    rw [draftPathIn_eq] at notDraft
    exact notDraft (sound.locate_join linkFree descends isFileName_draft isFile)
  rw [replaced.entries, if_neg settings, if_neg draft, grown.file isFile]

/-- **Saving is all or nothing.** On a sound disk without links, with a root without parent steps: when
saving fails, at whichever step, what stands at the settings file and below it is as it was, and
loading gives what it gave. When it succeeds, the settings file holds the settings, there is no draft,
and every other file is as it was. -/
theorem save_all_or_nothing {disk : Disk} (sound : disk.Sound) (linkFree : disk.LinkFree) {root : Path}
    (descends : root.Descends) (c : Config) :
    match onDisk disk (c.save root) with
    | (.error _, after) =>
      after.entryAt? (pathIn root) = disk.entryAt? (pathIn root) ∧
        (∀ l, disk.locate (pathIn root) = .ok l →
          ∀ more, after.entry? (l ++ more) = disk.entry? (l ++ more)) ∧
        (onDisk after (load root)).1 = (onDisk disk (load root)).1
    | (.ok _, after) =>
      after.entryAt? (pathIn root) = some (.file c.write.toUTF8) ∧
        after.entryAt? (draftPathIn root) = none ∧
        ∀ l content, disk.entry? l = some (.file content) → disk.locate (pathIn root) ≠ .ok l →
          disk.locate (draftPathIn root) ≠ .ok l → after.entry? l = some (.file content) := by
  cases ran : onDisk disk (c.save root) with
  | mk result after =>
      cases result with
      | error e =>
          have same := (saveRun ran).sameSettings sound linkFree descends
          have entry := same.entryAt? sound linkFree descends
          refine ⟨entry, ?_, by rw [onDisk_load, onDisk_load, entry]⟩
          intro l located more
          obtain ⟨k, reaches, rfl⟩ :=
            Disk.exists_of_locate_join isFileName_settings (fun _ => linkFree _) located
          obtain ⟨rfl, -⟩ := (sound.reaches_iff linkFree descends).1 reaches
          rw [List.append_assoc]
          exact same.entries more
      | ok done =>
          obtain ⟨between, l, made, reaches, replaced, holds⟩ :=
            holds_of_save (fun _ => linkFree _) (fun _ => linkFree _) ran
          refine ⟨holds.entryAt?, ?_, ?_⟩
          · rw [draftPathIn_eq, holds.reaches.entryAt? isFileName_draft (holds.unlinked l), replaced.entries]
            simp
          · intro x content isFile notSettings notDraft
            exact file_of_save sound linkFree descends made reaches replaced isFile notSettings notDraft

-- The disks of the witness are irreducible: `decide` is to run them in the kernel, nothing else is to.

/-- A project with a directory in the place of its settings file. -/
@[irreducible] def blockedDisk : Disk where
  entries :=
    [(["home"], .directory), (["home", "docs"], .directory), (["home", "docs", "doclink.toml"], .directory),
      (["home", "docs", "doclink.toml", "old"], .file "keep".toUTF8)]
  workingDirectory := ["home"]

/-- A project with settings, a draft that was left behind, and another file. -/
@[irreducible] def staleDisk : Disk where
  entries :=
    [(["home"], .directory), (["home", "docs"], .directory),
      (["home", "docs", "doclink.toml"], .file "version = 3\n".toUTF8),
      (["home", "docs", "doclink.toml.tmp"], .file "vers".toUTF8),
      (["home", "docs", "notes.md"], .file "keep".toUTF8)]
  workingDirectory := ["home"]

/-- The same project on a disk that will be full after nine bytes of the next file. -/
def fullDisk : Disk :=
  { staleDisk with mishaps := [none, some ⟨"No space left on device (os error 28)", some 9⟩] }

/-- A directory in the place of the settings file stops the last step, a full disk the one before it, and
a draft that was left behind stops none. -/
theorem save_all_or_nothing_docs :
    (∃ e after, onDisk blockedDisk (Config.save ⟨"docs//."⟩ {}) = (.error e, after) ∧
        after.entryAt? (pathIn ⟨"docs//."⟩) = blockedDisk.entryAt? (pathIn ⟨"docs//."⟩) ∧
        after.entry? ["home", "docs", "doclink.toml", "old"] = some (.file "keep".toUTF8) ∧
        (onDisk after (load ⟨"docs//."⟩)).1 = (onDisk blockedDisk (load ⟨"docs//."⟩)).1) ∧
      (∃ e after, onDisk fullDisk (Config.save ⟨"/home/docs"⟩ {}) = (.error e, after) ∧
        after.entry? ["home", "docs", "doclink.toml.tmp"] = some (.file "version =".toUTF8) ∧
        (onDisk after (load ⟨"/home/docs"⟩)).1 = (onDisk fullDisk (load ⟨"/home/docs"⟩)).1) ∧
      ∃ after, onDisk staleDisk (Config.save ⟨"/home/docs"⟩ {}) = (.ok (), after) ∧
        after.entryAt? (pathIn ⟨"/home/docs"⟩) = some (.file (write {}).toUTF8) ∧
        after.entryAt? (draftPathIn ⟨"/home/docs"⟩) = none ∧
        after.entry? ["home", "docs", "notes.md"] = some (.file "keep".toUTF8) := by
  have free : blockedDisk.LinkFree ∧ staleDisk.LinkFree :=
    ⟨Disk.linkFree_of_entries (by decide +kernel), Disk.linkFree_of_entries (by decide +kernel)⟩
  have sound : blockedDisk.Sound ∧ staleDisk.Sound :=
    ⟨Disk.sound_of_entries (by decide +kernel), Disk.sound_of_entries (by decide +kernel)⟩
  have docs : Path.Descends ⟨"/home/docs"⟩ := by decide +kernel
  refine ⟨?_, ?_, ?_⟩
  · have blocked : (onDisk blockedDisk (Config.save ⟨"docs//."⟩ {})).1 =
        .error (.unmovable (draftPathIn ⟨"docs//."⟩) (pathIn ⟨"docs//."⟩) .isDirectory) := by
      decide +kernel
    have located : blockedDisk.locate (pathIn ⟨"docs//."⟩) = .ok ["home", "docs", "doclink.toml"] := by
      decide +kernel
    have kept := save_all_or_nothing sound.1 free.1 (by decide +kernel : Path.Descends ⟨"docs//."⟩) {}
    rw [onDisk_eq_of_fst blocked] at kept
    exact ⟨_, _, onDisk_eq_of_fst blocked, kept.1,
      (kept.2.1 _ located ["old"]).trans (by decide +kernel), kept.2.2⟩
  · have full : (onDisk fullDisk (Config.save ⟨"/home/docs"⟩ {})).1 =
        .error (.unwritable (draftPathIn ⟨"/home/docs"⟩) (.other "No space left on device (os error 28)")) := by
      decide +kernel
    have kept := save_all_or_nothing (show fullDisk.Sound from sound.2) free.2 docs {}
    rw [onDisk_eq_of_fst full] at kept
    exact ⟨_, _, onDisk_eq_of_fst full, by decide +kernel, kept.2.2⟩
  · have done : (onDisk staleDisk (Config.save ⟨"/home/docs"⟩ {})).1 = .ok () := by decide +kernel
    have saved := save_all_or_nothing sound.2 free.2 docs {}
    rw [onDisk_eq_of_fst done] at saved
    exact ⟨_, onDisk_eq_of_fst done, saved.1, saved.2.1,
      saved.2.2 _ _ (by decide +kernel) (by decide +kernel) (by decide +kernel)⟩

end Crosslink.Project.Config

/-
# Crosslink.Proofs.Files.Changes — files that are written and moved

A change of the disk is stopped by a mishap, refused or done (`Attempt`), and
without mishaps it is done if it can be (`commit_of_calm`). A file is written
where nothing or a file stands, whole or in part, and all directories and links
stay as they are (`exists_of_writeText`), so every path still leads where it led
(`Reaches.written`). A file that is written under one name and moved to another
replaces what had the second name (`Replaced`), which again changes no way to a
directory (`Reaches.replaced`).
-/
import Crosslink.Proofs.Files.Named

namespace Crosslink.Files.Disk

set_option autoImplicit false

/-! ## Attempts -/

/-- What trying a change can come to. -/
inductive Attempt (change : Disk → Except FileFault Disk) (broken : Mishap → Disk → Disk) (d : Disk) :
    Except FileFault Unit → Disk → Prop where
  | stopped (mishap : Mishap) :
      Attempt change broken d (.error (.other mishap.text)) (broken mishap d.tried)
  | refused {fault : FileFault} (failed : change d.tried = .error fault) :
      Attempt change broken d (.error fault) d.tried
  | done {after : Disk} (changed : change d.tried = .ok after) : Attempt change broken d (.ok ()) after

section Attempts

variable {change : Disk → Except FileFault Disk} {broken : Mishap → Disk → Disk} {d : Disk}

theorem attempt_commit {outcome : Except FileFault Unit} {after : Disk}
    (committed : commit change broken d = (outcome, after)) : Attempt change broken d outcome after := by
  unfold commit at committed
  split at committed
  · cases committed
    exact .stopped _
  · split at committed
    · rename_i changed
      cases committed
      exact .done changed
    · rename_i failed
      cases committed
      exact .refused failed

theorem tried_of_calm (calm : d.mishaps = []) : d.tried = d := by
  obtain ⟨entries, workingDirectory, mishaps⟩ := d
  cases calm
  rfl

/-- Where nothing goes wrong, a change that is possible is made. -/
theorem commit_of_calm (calm : d.mishaps = []) {after : Disk} (changed : change d = .ok after) :
    commit change broken d = (.ok (), after) := by
  simp [commit, tried_of_calm calm, calm, changed]

end Attempts

/-! ## Files that are written -/

/-- Nothing stands at the location, or a file. -/
structure Plain (d : Disk) (x : Location) : Prop where
  noDirectory : d.entry? x ≠ some .directory
  noLink : ¬ d.Linked x

section Written

variable {d after : Disk} {p : Path} {name : String} {l x : Location} {content : ByteArray}

theorem plain_of_file (isFile : d.entry? x = some (.file content)) : d.Plain x :=
  ⟨by simp [isFile], by simp [Linked, isFile]⟩

theorem keeps_of_entries (same : ∀ y, after.entry? y = d.entry? y) : d.Keeps after :=
  ⟨fun isDirectory => (same _).trans isDirectory, fun isLink => (same _).trans isLink⟩

/-- What changes at places without directory and link keeps both. -/
theorem keeps_of_plain (kept : ∀ y, after.entry? y = d.entry? y ∨ d.Plain y) : d.Keeps after := by
  refine ⟨?_, ?_⟩
  · intro y isDirectory
    rcases kept y with same | plain
    · exact same.trans isDirectory
    · exact absurd isDirectory plain.noDirectory
  · intro y target isLink
    rcases kept y with same | plain
    · exact same.trans isLink
    · exact absurd ⟨target, isLink⟩ plain.noLink

theorem reaches_tried_iff : d.tried.Reaches p l ↔ d.Reaches p l :=
  ⟨fun reaches => reaches.kept (keeps_of_entries fun _ => rfl) rfl,
    fun reaches => reaches.kept (keeps_of_entries fun _ => rfl) rfl⟩

/-- The file at `x` has been written. -/
structure Written (d after : Disk) (x : Location) (content : ByteArray) : Prop where
  workingDirectory : after.workingDirectory = d.workingDirectory
  entries : ∀ y, after.entry? y = if y = x then some (.file content) else d.entry? y

theorem written_insert (d : Disk) (below : x ≠ []) (content : ByteArray) :
    Written d (d.tried.insert x (.file content)) x content :=
  ⟨rfl, entry?_insert d.tried below (.file content)⟩

theorem Written.entry? (written : Written d after x content) : after.entry? x = some (.file content) := by
  rw [written.entries, if_pos rfl]

theorem Written.linked (written : Written d after x content) {y : Location} (linked : after.Linked y) :
    d.Linked y := by
  obtain ⟨target, isLink⟩ := linked
  rw [written.entries] at isLink
  split at isLink
  · cases isLink
  · exact ⟨target, isLink⟩

theorem Written.unlinked (written : Written d after x content) (unlinked : d.Unlinked name) :
    after.Unlinked name := fun k linked => unlinked k (written.linked linked)

/-- A file that is written does not change the way to any directory. -/
theorem Reaches.written (reaches : d.Reaches p l) (written : Written d after x content) (plain : d.Plain x) :
    after.Reaches p l := by
  refine reaches.kept (keeps_of_plain fun y => ?_) written.workingDirectory
  by_cases same : y = x
  · exact .inr (same ▸ plain)
  · exact .inl (by rw [written.entries, if_neg same])

theorem Reaches.write_join (reaches : d.Reaches p l) (fileName : IsFileName name)
    (plain : d.Plain (l ++ [name])) (content : ByteArray) :
    d.write (p.join name) content = .ok (d.insert (l ++ [name]) (.file content)) := by
  have noSlash := p.getLast?_join_ne_slash fileName
  rw [write, reaches.locateNew_join fileName fun _ => plain.noLink]
  simp [plain.noDirectory, noSlash]

theorem Reaches.writeText_of_calm (reaches : d.Reaches p l) (calm : d.mishaps = []) (fileName : IsFileName name)
    (plain : d.Plain (l ++ [name])) (text : String) :
    FileAccess.writeText (m := StateM Disk) (p.join name) text d =
      (.ok (), d.insert (l ++ [name]) (.file text.toUTF8)) := by
  have possible := reaches.write_join fileName plain text.toUTF8
  change commit (fun d => d.write (p.join name) text.toUTF8) (writePart (p.join name) text.toUTF8) d = _
  exact commit_of_calm calm possible

theorem exists_of_write_join (fileName : IsFileName name) (unlinked : d.Unlinked name)
    (wrote : d.tried.write (p.join name) content = .ok after) :
    ∃ l, d.Reaches p l ∧ d.Plain (l ++ [name]) ∧ Written d after (l ++ [name]) content := by
  rw [write] at wrote
  split at wrote
  · cases wrote
  rename_i y found
  have unlinkedNow : d.tried.Unlinked name := unlinked
  obtain ⟨l, reaches, rfl⟩ := exists_of_locateNew_join fileName (fun _ => unlinkedNow) found
  split at wrote
  · cases wrote
  rename_i writable
  refine ⟨l, reaches_tried_iff.1 reaches, ⟨?_, unlinked l⟩, ?_⟩
  · intro isDirectory
    exact writable (by simp [isDirectory])
  · cases wrote
    exact written_insert d (by simp) content

/-- **What writing a file leaves**: nothing has changed, or the file is there, and it is the whole one
when the writing succeeded. -/
theorem exists_of_writeText (fileName : IsFileName name) (unlinked : d.Unlinked name) {text : String}
    {outcome : Except FileFault Unit}
    (wrote : FileAccess.writeText (m := StateM Disk) (p.join name) text d = (outcome, after)) :
    ((∃ fault, outcome = .error fault) ∧ after = d.tried) ∨
      ∃ l content, d.Reaches p l ∧ d.Plain (l ++ [name]) ∧ Written d after (l ++ [name]) content ∧
        (outcome = .ok () → content = text.toUTF8) := by
  cases attempt_commit wrote with
  | refused failed => exact .inl ⟨⟨_, rfl⟩, rfl⟩
  | done changed =>
      obtain ⟨l, reaches, plain, written⟩ := exists_of_write_join fileName unlinked changed
      exact .inr ⟨l, _, reaches, plain, written, fun _ => rfl⟩
  | stopped mishap =>
      unfold writePart
      split
      · exact .inl ⟨⟨_, rfl⟩, rfl⟩
      rename_i n opened
      cases part : d.tried.write (p.join name) (text.toUTF8.extract 0 n) with
      | error fault => exact .inl ⟨⟨_, rfl⟩, rfl⟩
      | ok torn =>
          obtain ⟨l, reaches, plain, written⟩ := exists_of_write_join fileName unlinked part
          exact .inr ⟨l, _, reaches, plain, written, fun impossible => by cases impossible⟩

end Written

/-! ## A file that replaces another -/

/-- The file at the name `draft` in `l` has been moved to `name`. -/
structure Replaced (d after : Disk) (l : Location) (draft name : String) (content : ByteArray) : Prop where
  workingDirectory : after.workingDirectory = d.workingDirectory
  entries : ∀ x, after.entry? x =
    if x = l ++ [name] then some (.file content) else if x = l ++ [draft] then none else d.entry? x

section Replaced

variable {d between after : Disk} {p : Path} {draft name : String} {l : Location} {content : ByteArray}

/-- **Replacing a file does not change the way to any directory.** -/
theorem Reaches.replaced (reaches : d.Reaches p l) (replaced : Replaced d after l draft name content)
    (plainDraft : d.Plain (l ++ [draft])) (plain : d.Plain (l ++ [name])) : after.Reaches p l := by
  refine reaches.kept (keeps_of_plain fun x => ?_) replaced.workingDirectory
  rw [replaced.entries]
  by_cases isTarget : x = l ++ [name]
  · exact .inr (isTarget ▸ plain)
  · by_cases isDraft : x = l ++ [draft]
    · exact .inr (isDraft ▸ plainDraft)
    · exact .inl (by rw [if_neg isTarget, if_neg isDraft])

theorem Replaced.unlinked {other : String} (replaced : Replaced d after l draft name content)
    (unlinked : d.Unlinked other) : after.Unlinked other := by
  rintro k ⟨target, isLink⟩
  rw [replaced.entries] at isLink
  split at isLink
  · cases isLink
  split at isLink
  · cases isLink
  · exact unlinked k ⟨target, isLink⟩

/-- The draft was written before it was moved. -/
theorem Replaced.of_written (replaced : Replaced between after l draft name content)
    (written : Written d between (l ++ [draft]) content) : Replaced d after l draft name content := by
  refine ⟨replaced.workingDirectory.trans written.workingDirectory, fun x => ?_⟩
  rw [replaced.entries, written.entries]
  by_cases isDraft : x = l ++ [draft]
  · simp [isDraft]
  · simp [isDraft]

/-- A file is moved to another name, unless a directory has that name. -/
theorem Reaches.move_join (reaches : d.Reaches p l) (isDraft : IsFileName draft) (isTarget : IsFileName name)
    (written : d.entry? (l ++ [draft]) = some (.file content)) :
    d.move (p.join draft) (p.join name) =
      if d.entry? (l ++ [name]) = some .directory then .error .isDirectory
      else .ok ((d.erase (l ++ [draft])).insert (l ++ [name]) (.file content)) := by
  have source : d.locateNew false (p.join draft) = .ok (l ++ [draft]) :=
    reaches.locateNew_join isDraft (fun impossible => by cases impossible)
  have target : d.locateNew false (p.join name) = .ok (l ++ [name]) :=
    reaches.locateNew_join isTarget (fun impossible => by cases impossible)
  simp only [move, source, written, target]

theorem Reaches.moveFile_of_calm (reaches : d.Reaches p l) (calm : d.mishaps = []) (isDraft : IsFileName draft)
    (isTarget : IsFileName name) (written : d.entry? (l ++ [draft]) = some (.file content))
    (free : d.entry? (l ++ [name]) ≠ some .directory) :
    FileAccess.moveFile (m := StateM Disk) (p.join draft) (p.join name) d =
      (.ok (), (d.erase (l ++ [draft])).insert (l ++ [name]) (.file content)) := by
  have possible := reaches.move_join isDraft isTarget written
  rw [if_neg free] at possible
  change commit (fun d => d.move (p.join draft) (p.join name)) (fun _ d => d) d = _
  exact commit_of_calm calm possible

/-- **What moving a file leaves**: nothing has changed, or the file has replaced the other. -/
theorem Reaches.moveFile (reaches : d.Reaches p l) (isDraft : IsFileName draft) (isTarget : IsFileName name)
    (written : d.entry? (l ++ [draft]) = some (.file content)) {outcome : Except FileFault Unit}
    (moved : FileAccess.moveFile (m := StateM Disk) (p.join draft) (p.join name) d = (outcome, after)) :
    ((∃ fault, outcome = .error fault) ∧ after = d.tried) ∨
      (outcome = .ok () ∧ d.entry? (l ++ [name]) ≠ some .directory ∧
        Replaced d after l draft name content) := by
  cases attempt_commit moved with
  | stopped mishap => exact .inl ⟨⟨_, rfl⟩, rfl⟩
  | refused failed => exact .inl ⟨⟨_, rfl⟩, rfl⟩
  | done changed =>
      rw [(reaches_tried_iff.2 reaches).move_join isDraft isTarget written] at changed
      split at changed
      · cases changed
      rename_i free
      cases changed
      refine .inr ⟨rfl, free, rfl, fun x => ?_⟩
      rw [entry?_insert _ (by simp), entry?_erase _ (by simp)]
      rfl

end Replaced

end Crosslink.Files.Disk

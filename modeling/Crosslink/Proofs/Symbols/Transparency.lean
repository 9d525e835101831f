/-
# Crosslink.Proofs.Symbols.Transparency — the cache does not show

A run is a list of actions on a world, which is a disk and a cache: files change
in any way, tables are loaded and put into the cache, the cache is read and
emptied, projects are opened. Beside it stands the run without a cache
(`runUncached`), where a table is always loaded from its file.

What is cached is the empty table, which has no fingerprint, or a table read
from a text of the run (`Cache.Honest`). A table given in memory is one of the
latter, because its own text is read back (`ofText_writeTable`). So a hit means
that the file holds the text of the cached table, as long as no two texts of the
run have one fingerprint (`Cache.Honest.hit`).

Main theorem: `run_eq_runUncached`.
-/
import Crosslink.Files.Disk
import Crosslink.Project.Linker
import Crosslink.Proofs.Symbols.TableText

namespace Crosslink.Symbols

open Crosslink.Files
open Crosslink.Project

set_option autoImplicit false

/-! ## Runs -/

/-- What a program gives on a disk, and the disk afterwards. -/
def onDisk {α : Type} (disk : Disk) (program : StateM Disk α) : α × Disk := program disk

/-- Where a table that is put into the cache comes from. -/
inductive Origin where
  | listed (symbols : List Symbol)
  | parsed (text : String)
  /-- A file, loaded at any time. -/
  | loaded (disk : Disk) (path : Path)
  | nothing

/-- The text whose fingerprint the table has. -/
def Origin.text? : Origin → Option String
  | .listed symbols => some (String.ofList (writeTable symbols))
  | .parsed text => some text
  | .loaded disk path => (disk.read path).toOption
  | .nothing => none

/-- The table, unless its text is missing or malformed. -/
def Origin.table? : Origin → Option Table
  | .listed symbols => some (Table.ofSymbols symbols)
  | .parsed text => (Table.ofText text).toOption
  | .loaded disk path => (onDisk disk (Table.load path)).1.toOption
  | .nothing => some Table.empty

inductive Action where
  /-- Files are written and removed, in any way. -/
  | files (disk : Disk)
  | load (path : Path)
  | install (path : Path) (origin : Origin)
  | current
  | invalidate
  | openProject (root : Path)

/-- What an action gives to its caller, as far as the files should decide it. -/
inductive Answer where
  | silent
  | table (result : Except TableError Table)
  | linker (result : Except ProjectError Linker)

/-- The files and the cache. -/
structure World where
  disk : Disk
  cache : Cache

/-- One action with the cache. -/
def World.take (w : World) : Action → Answer × World
  | .files disk => (.silent, { w with disk })
  | .load path =>
    let ((result, cache), disk) := onDisk w.disk ((Cache.load path).run w.cache)
    (.table (result.map fun loaded => loaded.table), ⟨disk, cache⟩)
  | .install path origin =>
    match origin.table? with
    | some table => (.silent, { w with cache := w.cache.install path table })
    | none => (.silent, w)
  | .current => (.silent, w)
  | .invalidate => (.silent, { w with cache := w.cache.invalidate })
  | .openProject root =>
    let ((result, cache), disk) := onDisk w.disk ((Linker.openProject root).run w.cache)
    (.linker (result.map fun opened => opened.linker), ⟨disk, cache⟩)

/-- One action without a cache: a table is always loaded from its file, and a project opened with
nothing in the cache. -/
def takeUncached (disk : Disk) : Action → Answer × Disk
  | .files disk => (.silent, disk)
  | .load path =>
    let (result, disk) := onDisk disk (Table.load path)
    (.table result, disk)
  | .openProject root =>
    let ((result, _), disk) := onDisk disk ((Linker.openProject root).run {})
    (.linker (result.map fun opened => opened.linker), disk)
  | _ => (.silent, disk)

/-- The answers of a run and the world behind it. -/
def World.run (w : World) : List Action → List Answer × World
  | [] => ([], w)
  | action :: actions =>
    let (answer, w) := w.take action
    let (answers, w) := w.run actions
    (answer :: answers, w)

def runUncached (disk : Disk) : List Action → List Answer × Disk
  | [] => ([], disk)
  | action :: actions =>
    let (answer, disk) := takeUncached disk action
    let (answers, disk) := runUncached disk actions
    (answer :: answers, disk)

/-! ## Texts of a run -/

/-- The text of a file, when it can be read. -/
def textAt (disk : Disk) (path : Path) : List String := (disk.read path).toOption.toList

/-- The texts that an action takes fingerprints of, or brings in the fingerprint of. -/
def Action.texts (disk : Disk) : Action → List String
  | .load path => textAt disk path
  | .install _ origin => origin.text?.toList
  | .openProject root =>
    match onDisk disk (Config.load root) with
    | (.ok config, disk) => textAt disk (config.symbolsFile root)
    | (.error _, _) => []
  | _ => []

def runTexts (disk : Disk) : List Action → List String
  | [] => []
  | action :: actions => action.texts disk ++ runTexts (takeUncached disk action).2 actions

/-- No two of these texts have one fingerprint. -/
def Distinct (texts : List String) : Prop :=
  ∀ s ∈ texts, ∀ t ∈ texts, Digest.fingerprint s = Digest.fingerprint t → s = t

/-! ## Tables and their texts -/

theorem fingerprint_ne_empty (text : String) : Digest.fingerprint text ≠ "" := by
  simp [Digest.fingerprint, Digest.sha256Hex, Digest.hexWord]

/-- The table is the empty one, or is read from one of the texts. -/
def Stands (texts : List String) (table : Table) : Prop :=
  table = Table.empty ∨ ∃ text ∈ texts, Table.ofText text = .ok table

theorem fingerprint_of_ofText {text : String} {table : Table} (read : Table.ofText text = .ok table) :
    table.fingerprint = Digest.fingerprint text := by
  unfold Table.ofText at read
  cases symbols : readTable text.toList with
  | error fault => simp [symbols, Except.map] at read
  | ok symbols_ =>
      rw [symbols] at read
      cases read
      rfl

/-! ## Programs on a disk -/

theorem onDisk_bind {α β : Type} (disk : Disk) (program : StateM Disk α) (next : α → StateM Disk β) :
    onDisk disk (program >>= next) =
      onDisk (onDisk disk program).2 (next (onDisk disk program).1) := rfl

@[simp] theorem onDisk_readText (disk : Disk) (path : Path) :
    onDisk disk (FileAccess.readText path) = (disk.read path, disk) := rfl

theorem onDisk_load_table (disk : Disk) (path : Path) :
    onDisk disk (Table.load path) =
      (match disk.read path with
        | .error fault => .error (.unreadable path fault)
        | .ok text => Table.ofFileText path text, disk) := by
  rw [Table.load, onDisk_bind, onDisk_readText]
  cases disk.read path with
  | error fault => rfl
  | ok text => rfl

/-- What a load through the cache can come to, and the cache behind it. -/
inductive Loads (disk : Disk) (cache : Cache) (path : Path) : Except TableError Cache.Loaded → Cache → Prop where
  | unreadable {fault : FileFault} (failed : disk.read path = .error fault) :
      Loads disk cache path (.error (.unreadable path fault)) cache
  | reused {text : String} {table : Table} (read : disk.read path = .ok text)
      (hit : cache.hit? path text = some table) : Loads disk cache path (.ok ⟨table, true⟩) cache
  | malformed {text : String} {fault : Json.Fault} (read : disk.read path = .ok text)
      (missed : cache.hit? path text = none) (failed : Table.ofText text = .error fault) :
      Loads disk cache path (.error (.malformed path fault)) cache
  | made {text : String} {table : Table} (read : disk.read path = .ok text)
      (missed : cache.hit? path text = none) (parsed : Table.ofText text = .ok table) :
      Loads disk cache path (.ok ⟨table, false⟩) (cache.install path table)

theorem exists_loads (disk : Disk) (cache : Cache) (path : Path) :
    ∃ outcome after, onDisk disk ((Cache.load path).run cache) = ((outcome, after), disk) ∧
      Loads disk cache path outcome after := by
  have taken : onDisk disk ((liftM (FileAccess.readText (m := StateM Disk) path) :
      StateT Cache (StateM Disk) (Except FileFault String)).run cache) =
        ((disk.read path, cache), disk) := rfl
  rw [Cache.load, StateT.run_bind, onDisk_bind, taken]
  cases read : disk.read path with
  | error fault => exact ⟨_, _, rfl, .unreadable read⟩
  | ok text =>
      simp only [StateT.run_bind, StateT.run_get, pure_bind]
      cases hit : cache.hit? path text with
      | some table => exact ⟨_, _, rfl, .reused read hit⟩
      | none =>
          simp only [Table.ofFileText]
          cases parsed : Table.ofText text with
          | error fault => exact ⟨_, _, rfl, .malformed read hit parsed⟩
          | ok table => exact ⟨_, _, rfl, .made read hit parsed⟩

theorem onDisk_openProject (disk : Disk) (cache : Cache) (root : Path) :
    onDisk disk ((Linker.openProject root).run cache) =
      match onDisk disk (Config.load root) with
      | (.error error, disk) => ((.error (.config error), cache), disk)
      | (.ok config, disk) =>
        match onDisk disk ((Cache.load (config.symbolsFile root)).run cache) with
        | ((.error error, cache), disk) => ((.error (.table error), cache), disk)
        | ((.ok loaded, cache), disk) => ((.ok ⟨⟨config, loaded.table⟩, loaded.reused⟩, cache), disk) := by
  have taken : onDisk disk ((liftM (Config.load (m := StateM Disk) root) :
      StateT Cache (StateM Disk) (Except ConfigError Config)).run cache) =
        (((onDisk disk (Config.load root)).1, cache), (onDisk disk (Config.load root)).2) := rfl
  rw [Linker.openProject, StateT.run_bind, onDisk_bind, taken]
  obtain ⟨outcome, disk⟩ := onDisk disk (Config.load root)
  cases outcome with
  | error error => rfl
  | ok config =>
      simp only
      rw [StateT.run_bind, onDisk_bind]
      obtain ⟨⟨outcome, cache⟩, disk⟩ := onDisk disk ((Cache.load (config.symbolsFile root)).run cache)
      cases outcome with
      | error error => rfl
      | ok loaded => rfl

/-! ## Tables that stand for texts -/

theorem Origin.stands {origin : Origin} {table : Table} (made : origin.table? = some table)
    {texts : List String} (member : ∀ text ∈ origin.text?, text ∈ texts) : Stands texts table := by
  cases origin with
  | listed symbols =>
      cases made
      exact .inr ⟨_, member _ rfl, ofText_writeTable symbols⟩
  | parsed text =>
      refine .inr ⟨text, member text rfl, ?_⟩
      cases read : Table.ofText text with
      | error fault => simp [Origin.table?, read, Except.toOption] at made
      | ok table' =>
          simp only [Origin.table?, read, Except.toOption, Option.some.injEq] at made
          rw [made]
  | loaded disk path =>
      simp only [Origin.table?, onDisk_load_table] at made
      cases read : disk.read path with
      | error fault => simp [read, Except.toOption] at made
      | ok text =>
          refine .inr ⟨text, member text (by simp [Origin.text?, read, Except.toOption]), ?_⟩
          simp only [read, Table.ofFileText] at made
          cases parsed : Table.ofText text with
          | error fault => simp [parsed, Except.toOption] at made
          | ok table' =>
              simp only [parsed, Except.toOption, Option.some.injEq] at made
              rw [made]
  | nothing =>
      cases made
      exact .inl rfl

/-- What is cached stands for one of the texts. -/
def Cache.Honest (texts : List String) (cache : Cache) : Prop :=
  ∀ table, cache.current = some table → Stands texts table

theorem honest_install {texts : List String} {table : Table} (stands : Stands texts table)
    (cache : Cache) (path : Path) : (cache.install path table).Honest texts := by
  intro table' isCurrent
  cases isCurrent
  exact stands

theorem Cache.hit?_eq_some_iff {cache : Cache} {path : Path} {text : String} {table : Table} :
    cache.hit? path text = some table ↔ ∃ cached, cache.slot = some cached ∧
      cached.path.components = path.components ∧
      cached.table.fingerprint = Digest.fingerprint text ∧ cached.table = table := by
  unfold Cache.hit?
  cases cache.slot with
  | none => simp
  | some cached => simp [and_assoc]

/-- A hit gives what reading the text again would give. -/
theorem Cache.Honest.hit {texts : List String} {cache : Cache} (honest : cache.Honest texts)
    (distinct : Distinct texts) {path : Path} {text : String} (member : text ∈ texts) {table : Table}
    (hit : cache.hit? path text = some table) :
    cache.current = some table ∧ Table.ofText text = .ok table := by
  obtain ⟨cached, slot, -, same, rfl⟩ := Cache.hit?_eq_some_iff.1 hit
  have isCurrent : cache.current = some cached.table := by simp [Cache.current, slot]
  refine ⟨isCurrent, ?_⟩
  rcases honest _ isCurrent with empty | ⟨text', member', read⟩
  · have missing : Digest.fingerprint text = "" := by rw [← same, empty]; rfl
    exact absurd missing (fingerprint_ne_empty text)
  · have sameText : text' = text :=
      distinct text' member' text member ((fingerprint_of_ofText read).symm.trans same)
    rw [← sameText]
    exact read

theorem honest_empty (texts : List String) : Cache.Honest texts {} := by
  intro table impossible
  cases impossible

/-- A load through an honest cache gives what a load without a cache gives, and leaves it honest. -/
theorem Cache.Honest.load {texts : List String} {cache : Cache} (honest : cache.Honest texts)
    (distinct : Distinct texts) {disk : Disk} {path : Path}
    (member : ∀ text ∈ textAt disk path, text ∈ texts) :
    ∃ outcome after, onDisk disk ((Cache.load path).run cache) = ((outcome, after), disk) ∧
      onDisk disk (Table.load path) = (outcome.map fun loaded => loaded.table, disk) ∧
      after.Honest texts := by
  obtain ⟨outcome, after, ran, loads⟩ := exists_loads disk cache path
  refine ⟨outcome, after, ran, ?_⟩
  have known : ∀ text, disk.read path = .ok text → text ∈ texts := fun text read =>
    member text (by simp [textAt, read, Except.toOption])
  rw [onDisk_load_table]
  cases loads with
  | unreadable failed => exact ⟨by rw [failed]; rfl, honest⟩
  | reused read hit =>
      obtain ⟨-, parsed⟩ := honest.hit distinct (known _ read) hit
      exact ⟨by simp only [read, Table.ofFileText, parsed]; rfl, honest⟩
  | malformed read missed failed => exact ⟨by simp only [read, Table.ofFileText, failed]; rfl, honest⟩
  | made read missed parsed =>
      exact ⟨by simp only [read, Table.ofFileText, parsed]; rfl,
        honest_install (.inr ⟨_, known _ read, parsed⟩) cache path⟩

/-! ## The simulation -/

/-- One action: the same answer, the same files, and still an honest cache. -/
theorem World.take_uncached {texts : List String} {w : World} (honest : w.cache.Honest texts)
    (distinct : Distinct texts) {action : Action}
    (member : ∀ text ∈ action.texts w.disk, text ∈ texts) :
    ((w.take action).1, (w.take action).2.disk) = takeUncached w.disk action ∧
      (w.take action).2.cache.Honest texts := by
  cases action with
  | files disk => exact ⟨rfl, honest⟩
  | load path =>
      obtain ⟨outcome, after, cached, plain, kept⟩ := honest.load distinct member
      simp only [World.take, takeUncached, cached, plain]
      exact ⟨trivial, kept⟩
  | install path origin =>
      simp only [World.take, takeUncached]
      cases made : origin.table? with
      | none => exact ⟨rfl, honest⟩
      | some table =>
          have stands := Origin.stands made fun text isText =>
            member text (by simpa [Action.texts] using isText)
          exact ⟨rfl, honest_install stands w.cache path⟩
  | current => exact ⟨rfl, honest⟩
  | invalidate => exact ⟨rfl, honest_empty texts⟩
  | openProject root =>
      simp only [World.take, takeUncached, onDisk_openProject]
      simp only [Action.texts] at member
      generalize onDisk w.disk (Config.load root) = settings at member ⊢
      obtain ⟨config, disk⟩ := settings
      cases config with
      | error error => exact ⟨rfl, honest⟩
      | ok config =>
          -- Both caches give the table that the file holds.
          obtain ⟨outcome, after, cached, plain, kept⟩ := honest.load distinct member
          obtain ⟨outcome', after', cached', plain', -⟩ := (honest_empty texts).load distinct member
          have same := (Prod.mk.inj (plain.symm.trans plain')).1
          simp only [cached, cached']
          cases outcome with
          | error error =>
              cases outcome' with
              | error error' =>
                  cases same
                  exact ⟨rfl, kept⟩
              | ok loaded' => cases same
          | ok loaded =>
              cases outcome' with
              | error error' => cases same
              | ok loaded' =>
                  have table : loaded.table = loaded'.table := Except.ok.inj same
                  refine ⟨?_, kept⟩
                  simp only [table]
                  rfl

theorem World.run_uncached {texts : List String} (distinct : Distinct texts) (actions : List Action)
    (w : World) (honest : w.cache.Honest texts)
    (member : ∀ text ∈ runTexts w.disk actions, text ∈ texts) :
    ((w.run actions).1, (w.run actions).2.disk) = runUncached w.disk actions := by
  induction actions generalizing w with
  | nil => rfl
  | cons action actions ih =>
      have here : ∀ text ∈ action.texts w.disk, text ∈ texts := fun text inAction =>
        member text (by simp [runTexts, inAction])
      obtain ⟨same, kept⟩ := w.take_uncached honest distinct here
      have answer : (w.take action).1 = (takeUncached w.disk action).1 := congrArg Prod.fst same
      have disk : (w.take action).2.disk = (takeUncached w.disk action).2 := congrArg Prod.snd same
      have later := ih (w.take action).2 kept fun text inRest =>
        member text (by rw [disk] at inRest; simp [runTexts, inRest])
      simp only [World.run, runUncached, answer]
      rw [← disk, ← later]

/-- **The cache does not show.** From an empty cache, in any run whose texts have different
fingerprints, every load and every opening gives what it would give without a cache. -/
theorem run_eq_runUncached (disk : Disk) (actions : List Action)
    (distinct : Distinct (runTexts disk actions)) :
    ((World.run ⟨disk, {}⟩ actions).1, (World.run ⟨disk, {}⟩ actions).2.disk) =
      runUncached disk actions :=
  World.run_uncached distinct actions ⟨disk, {}⟩ (honest_empty _) fun _ member => member

/-- A table given in memory, found again in a file of the same text, and then a new text in that
file: the second load does not give the cached table. -/
theorem run_eq_runUncached_new_text :
    Distinct (runTexts { entries := [(["t"], .file "[]".toUTF8)] }
        [.install ⟨"/t"⟩ (.listed []), .load ⟨"/t"⟩, .files { entries := [(["t"], .file "[ ]".toUTF8)] },
          .load ⟨"/t"⟩]) ∧
      (World.run ⟨{ entries := [(["t"], .file "[]".toUTF8)] }, {}⟩
        [.install ⟨"/t"⟩ (.listed []), .load ⟨"/t"⟩, .files { entries := [(["t"], .file "[ ]".toUTF8)] },
          .load ⟨"/t"⟩]).1 =
        [.silent, .table (.ok ⟨[], Digest.fingerprint "[]"⟩), .silent,
          .table (.ok ⟨[], Digest.fingerprint "[ ]"⟩)] := by
  have texts : runTexts { entries := [(["t"], .file "[]".toUTF8)] }
      [.install ⟨"/t"⟩ (.listed []), .load ⟨"/t"⟩, .files { entries := [(["t"], .file "[ ]".toUTF8)] },
        .load ⟨"/t"⟩] = ["[]", "[]", "[ ]"] := rfl
  have different : Digest.fingerprint "[]" ≠ Digest.fingerprint "[ ]" := by decide +kernel
  have distinct : Distinct ["[]", "[]", "[ ]"] := by
    intro s inTexts t inTexts' same
    simp only [List.mem_cons, List.not_mem_nil, or_false, or_self_left] at inTexts inTexts'
    rcases inTexts with rfl | rfl
    · rcases inTexts' with rfl | rfl
      · rfl
      · exact absurd same different
    · rcases inTexts' with rfl | rfl
      · exact absurd same.symm different
      · rfl
  rw [← texts] at distinct
  have answers : ∀ disk actions, Distinct (runTexts disk actions) →
      (World.run ⟨disk, {}⟩ actions).1 = (runUncached disk actions).1 := by
    intro disk actions distinct
    rw [← run_eq_runUncached disk actions distinct]
  refine ⟨distinct, ?_⟩
  rw [answers _ _ distinct]
  have old : Disk.read { entries := [(["t"], .file "[]".toUTF8)] } ⟨"/t"⟩ = .ok "[]" := rfl
  have new : Disk.read { entries := [(["t"], .file "[ ]".toUTF8)] } ⟨"/t"⟩ = .ok "[ ]" := rfl
  have symbols : readTable "[]".toList = .ok [] ∧ readTable "[ ]".toList = .ok [] := ⟨rfl, rfl⟩
  simp only [runUncached, takeUncached, onDisk_load_table, old, new, Table.ofFileText,
    Table.ofText, symbols, Except.map]

end Crosslink.Symbols

/-
# Crosslink.Proofs.Symbols.History — what the cache holds after any run

A table in memory has an identity: two tables made at different times are two
objects, even where they are equal as tables. A scene is a disk and a cache, with
the serial number of the cached object and the first number that is still free.
Requests are made of it one after another, files change in between, and what came
of each request is an event.

The events alone say what is cached (`latest`): what the last successful load or
install brought in, unless the cache was emptied since. One lemma says all that a
load can come to (`Scene.take_load`), and the invariant `Scene.Follows` is kept by
each request, so by each run.

Main theorem: `run_holds_latest`.
-/
import Mathlib.Data.List.DropRight
import Crosslink.Proofs.Symbols.Transparency

namespace Crosslink.Symbols

open Crosslink.Files

set_option autoImplicit false

/-! ## Scenes and events -/

/-- A table in memory, with the serial number it got when it was made. -/
structure Object where
  serial : Nat
  table : Table
deriving DecidableEq

inductive Request where
  /-- Files are written and removed, in any way. -/
  | files (disk : Disk)
  | load (path : Path)
  | install (path : Path) (object : Object)
  | current
  | invalidate

/-- What came of a request. -/
inductive Event where
  | changed
  | loaded (path : Path) (outcome : Except TableError Object)
  | installed (path : Path) (object : Object)
  | asked (answer : Option Object)
  | emptied

/-- The files and the cache, the serial number of the cached object, and the first free number. -/
structure Scene where
  disk : Disk
  cache : Cache := {}
  held : Nat := 0
  next : Nat := 0

namespace Scene

/-- The cached object. -/
def current (s : Scene) : Option Object := s.cache.current.map (Object.mk s.held)

/-- One request. A table that is read from its file is a new object; a reused one is the object
that was cached. -/
def take (s : Scene) : Request → Event × Scene
  | .files disk => (.changed, { s with disk })
  | .load path =>
    match onDisk s.disk ((Cache.load path).run s.cache) with
    | ((.error error, cache), disk) => (.loaded path (.error error), { s with disk, cache })
    | ((.ok loaded, cache), disk) =>
      if loaded.reused then (.loaded path (.ok ⟨s.held, loaded.table⟩), { s with disk, cache })
      else (.loaded path (.ok ⟨s.next, loaded.table⟩), ⟨disk, cache, s.next, s.next + 1⟩)
  | .install path object =>
    (.installed path object,
      ⟨s.disk, s.cache.install path object.table, object.serial, max s.next (object.serial + 1)⟩)
  | .current => (.asked s.current, s)
  | .invalidate => (.emptied, { s with cache := s.cache.invalidate })

/-- The events of a run and the scene behind it. -/
def run (s : Scene) : List Request → List Event × Scene
  | [] => ([], s)
  | request :: requests =>
    let (event, s) := s.take request
    let (events, s) := s.run requests
    (event :: events, s)

end Scene

/-! ## What the events say -/

/-- What an event brings into the cache: a table that was loaded, or one that was given. -/
def Event.provided? : Event → Option (Path × Object)
  | .loaded path (.ok object) => some (path, object)
  | .installed path object => some (path, object)
  | _ => none

def Event.isEmptied : Event → Bool
  | .emptied => true
  | _ => false

/-- The events after the last one that emptied the cache, or all of them. -/
def sinceEmptied (events : List Event) : List Event := events.rtakeWhile fun event => !event.isEmptied

/-- The last thing brought into the cache since it was emptied. -/
def latest (events : List Event) : Option (Path × Object) :=
  ((sinceEmptied events).filterMap Event.provided?).getLast?

theorem latest_eq_none_iff {events : List Event} :
    latest events = none ↔ ∀ event ∈ sinceEmptied events, event.provided? = none := by
  rw [latest, List.getLast?_eq_none_iff, List.filterMap_eq_nil_iff]

theorem exists_provided_of_latest {events : List Event} {given : Path × Object}
    (isLatest : latest events = some given) : ∃ event ∈ events, event.provided? = some given := by
  obtain ⟨event, member, provides⟩ := List.mem_filterMap.1 (List.mem_of_getLast? isLatest)
  exact ⟨event, (List.rtakeWhile_suffix _ _).mem member, provides⟩

theorem latest_emptied (events : List Event) : latest (events ++ [.emptied]) = none := by
  rw [latest, sinceEmptied, List.rtakeWhile_concat_neg _ _ _ (by simp [Event.isEmptied])]
  rfl

theorem latest_concat (events : List Event) {event : Event} (kept : event.isEmptied = false) :
    latest (events ++ [event]) = event.provided?.or (latest events) := by
  rw [latest, sinceEmptied, List.rtakeWhile_concat_pos _ _ _ (by simp [kept]), List.filterMap_append,
    List.getLast?_append]
  cases provides : event.provided? with
  | none => simp [provides, latest, sinceEmptied]
  | some given => simp [provides]

/-! ## A load -/

/-- The cache holds a table that stands for what the file at the path holds. -/
def Scene.Serves (s : Scene) (path : Path) : Prop :=
  ∃ cached text, s.cache.slot = some cached ∧ s.disk.read path = .ok text ∧
    cached.path.components = path.components ∧ cached.table.fingerprint = Digest.fingerprint text

/-- What a load can come to, with the scene behind it. -/
inductive LoadOutcome (s : Scene) (path : Path) : Except TableError Object → Scene → Prop where
  | unreadable {fault : FileFault} (failed : s.disk.read path = .error fault) :
      LoadOutcome s path (.error (.unreadable path fault)) s
  | reused {cached : Cached} {text : String} (slot : s.cache.slot = some cached)
      (read : s.disk.read path = .ok text) (same : cached.path.components = path.components)
      (fingerprint : cached.table.fingerprint = Digest.fingerprint text) :
      LoadOutcome s path (.ok ⟨s.held, cached.table⟩) s
  | malformed {text : String} {fault : Json.Fault} (read : s.disk.read path = .ok text)
      (missed : ¬ s.Serves path) (failed : Table.ofText text = .error fault) :
      LoadOutcome s path (.error (.malformed path fault)) s
  | made {text : String} {table : Table} (read : s.disk.read path = .ok text)
      (missed : ¬ s.Serves path) (parsed : Table.ofText text = .ok table) :
      LoadOutcome s path (.ok ⟨s.next, table⟩)
        ⟨s.disk, s.cache.install path table, s.next, s.next + 1⟩

theorem Scene.not_serves {s : Scene} {path : Path} {text : String} (read : s.disk.read path = .ok text)
    (missed : s.cache.hit? path text = none) : ¬ s.Serves path := by
  rintro ⟨cached, text', slot, read', same, fingerprint⟩
  cases read.symm.trans read'
  have hit := Cache.hit?_eq_some_iff.2 ⟨cached, slot, same, fingerprint, rfl⟩
  cases missed.symm.trans hit

theorem Scene.take_load (s : Scene) (path : Path) :
    ∃ outcome after, s.take (.load path) = (.loaded path outcome, after) ∧
      LoadOutcome s path outcome after := by
  obtain ⟨outcome, cache, ran, loads⟩ := exists_loads s.disk s.cache path
  simp only [Scene.take, ran]
  cases loads with
  | unreadable failed => exact ⟨_, _, rfl, .unreadable failed⟩
  | reused read hit =>
      obtain ⟨cached, slot, same, fingerprint, rfl⟩ := Cache.hit?_eq_some_iff.1 hit
      exact ⟨_, _, rfl, .reused slot read same fingerprint⟩
  | malformed read missed failed =>
      exact ⟨_, _, rfl, .malformed read (Scene.not_serves read missed) failed⟩
  | made read missed parsed => exact ⟨_, _, rfl, .made read (Scene.not_serves read missed) parsed⟩

/-! ## The invariant -/

/-- The objects of the events have numbers below the bound. -/
def Below (bound : Nat) (events : List Event) : Prop :=
  ∀ event ∈ events, ∀ given, event.provided? = some given → given.2.serial < bound

theorem Below.concat {bound bound' : Nat} {events : List Event} {event : Event}
    (below : Below bound events) (grows : bound ≤ bound')
    (last : ∀ given, event.provided? = some given → given.2.serial < bound') :
    Below bound' (events ++ [event]) := by
  intro event' member given provides
  rcases List.mem_append.1 member with earlier | isLast
  · exact Nat.lt_of_lt_of_le (below event' earlier given provides) grows
  · rw [List.mem_singleton.1 isLast] at provides
    exact last given provides

/-- The events say what is cached: the object, and the components of its path. No object of the
events has a number that is still free. -/
structure Scene.Follows (s : Scene) (events : List Event) : Prop where
  current : s.current = (latest events).map fun given => given.2
  path : s.cache.slot.map (fun cached => cached.path.components) =
    (latest events).map fun given => given.1.components
  fresh : Below s.next events

theorem Scene.current_of_slot {s : Scene} {cached : Cached} (slot : s.cache.slot = some cached) :
    s.current = some ⟨s.held, cached.table⟩ := by
  simp [Scene.current, Cache.current, slot]

namespace Scene.Follows

variable {s : Scene} {events : List Event}

theorem initial (disk : Disk) : Scene.Follows { disk } [] := ⟨rfl, rfl, by simp [Below]⟩

/-- An event that leaves the cache alone, and the numbers too. -/
theorem keep (follows : s.Follows events) (after : Scene) (cache : after.cache = s.cache)
    (held : after.held = s.held) (next : after.next = s.next) {event : Event}
    (kept : event.isEmptied = false) (provides : event.provided? = none) :
    after.Follows (events ++ [event]) := by
  have same : latest (events ++ [event]) = latest events := by
    rw [latest_concat events kept, provides, Option.none_or]
  refine ⟨?_, ?_, ?_⟩
  · rw [same, ← follows.current, Scene.current, Scene.current, cache, held]
  · rw [same, cache, follows.path]
  · exact follows.fresh.concat next.ge (by simp [provides])

/-- An event that brings in an object, which is then cached. -/
theorem bring (follows : s.Follows events) {after : Scene} {path : Path} {object : Object}
    {event : Event} (kept : event.isEmptied = false)
    (provides : event.provided? = some (path, object)) (current : after.current = some object)
    (slot : after.cache.slot.map (fun cached => cached.path.components) = some path.components)
    (next : s.next ≤ after.next) (free : object.serial < after.next) :
    after.Follows (events ++ [event]) := by
  have isLatest : latest (events ++ [event]) = some (path, object) := by
    rw [latest_concat events kept, provides, Option.some_or]
  refine ⟨by rw [isLatest, current]; rfl, by rw [isLatest, slot]; rfl, ?_⟩
  exact follows.fresh.concat next (by simpa [provides] using free)

theorem serial_lt (follows : s.Follows events) {object : Object}
    (isCurrent : s.current = some object) : object.serial < s.next := by
  rw [follows.current, Option.map_eq_some_iff] at isCurrent
  obtain ⟨given, isLatest, rfl⟩ := isCurrent
  obtain ⟨event, member, provides⟩ := exists_provided_of_latest isLatest
  exact follows.fresh event member given provides

theorem load (follows : s.Follows events) {path : Path} {outcome : Except TableError Object}
    {after : Scene} (loaded : LoadOutcome s path outcome after) :
    after.Follows (events ++ [.loaded path outcome]) := by
  cases loaded with
  | unreadable failed => exact follows.keep s rfl rfl rfl rfl rfl
  | malformed read missed failed => exact follows.keep s rfl rfl rfl rfl rfl
  | reused slot read same fingerprint =>
      have isCurrent := Scene.current_of_slot slot
      exact follows.bring rfl rfl isCurrent (by rw [slot, Option.map_some, same]) le_rfl
        (follows.serial_lt isCurrent)
  | made read missed parsed =>
      exact follows.bring rfl rfl rfl rfl (Nat.le_succ s.next) (Nat.lt_succ_self s.next)

/-- One request. -/
theorem take (follows : s.Follows events) (request : Request) :
    (s.take request).2.Follows (events ++ [(s.take request).1]) := by
  cases request with
  | files disk => exact follows.keep { s with disk } rfl rfl rfl rfl rfl
  | load path =>
      obtain ⟨outcome, after, taken, loaded⟩ := s.take_load path
      rw [taken]
      exact follows.load loaded
  | install path object =>
      exact follows.bring rfl rfl rfl rfl (le_max_left _ _)
        (Nat.lt_of_succ_le (le_max_right s.next _))
  | current => exact follows.keep s rfl rfl rfl rfl rfl
  | invalidate =>
      simp only [Scene.take]
      refine ⟨by rw [latest_emptied]; rfl, by rw [latest_emptied]; rfl, ?_⟩
      exact follows.fresh.concat le_rfl (by simp [Event.provided?])

theorem run (follows : s.Follows events) (requests : List Request) :
    (s.run requests).2.Follows (events ++ (s.run requests).1) := by
  induction requests generalizing s events with
  | nil => simpa [Scene.run] using follows
  | cons request requests ih => simpa [Scene.run] using ih (follows.take request)

/-- A load gives the cached object exactly when the cached table stands for what the file holds. -/
theorem load_current_iff (follows : s.Follows events) {path : Path}
    {outcome : Except TableError Object} {after : Scene}
    (loaded : LoadOutcome s path outcome after) :
    (∃ object, s.current = some object ∧ outcome = .ok object) ↔ s.Serves path := by
  constructor
  · rintro ⟨object, isCurrent, rfl⟩
    cases loaded with
    | reused slot read same fingerprint => exact ⟨_, _, slot, read, same, fingerprint⟩
    | made read missed parsed =>
        -- The cached object got its number before the new one.
        exact absurd (follows.serial_lt isCurrent) (lt_irrefl s.next)
  · intro serves
    cases loaded with
    | unreadable failed =>
        obtain ⟨cached, text, slot, read, same⟩ := serves
        cases failed.symm.trans read
    | reused slot read same fingerprint => exact ⟨_, Scene.current_of_slot slot, rfl⟩
    | malformed read missed failed => exact absurd serves missed
    | made read missed parsed => exact absurd serves missed

/-- A load that gives another object than the cached one gives a new object. -/
theorem load_new (follows : s.Follows events) {path : Path} {object : Object} {after : Scene}
    (loaded : LoadOutcome s path (.ok object) after) (different : s.current ≠ some object)
    {event : Event} (member : event ∈ events) {given : Path × Object}
    (provides : event.provided? = some given) : given.2.serial ≠ object.serial := by
  cases loaded with
  | reused slot read same fingerprint => exact absurd (Scene.current_of_slot slot) different
  | made read missed parsed => exact (follows.fresh event member given provides).ne

end Scene.Follows

/-- A load that fails changes nothing, and fails because the file cannot be read or because its text
is no table. -/
theorem LoadOutcome.of_error {s : Scene} {path : Path} {error : TableError} {after : Scene}
    (loaded : LoadOutcome s path (.error error) after) :
    after = s ∧
      ((∃ fault, s.disk.read path = .error fault ∧ error = .unreadable path fault) ∨
        ∃ text fault, s.disk.read path = .ok text ∧ Table.ofText text = .error fault ∧
          error = .malformed path fault) := by
  cases loaded with
  | unreadable failed => exact ⟨rfl, .inl ⟨_, failed, rfl⟩⟩
  | malformed read missed failed => exact ⟨rfl, .inr ⟨_, _, read, failed, rfl⟩⟩

/-- **The cache holds what was last brought in.** After any run from an empty cache, nothing is
cached exactly when nothing was loaded or installed since the start or since the cache was last
emptied; otherwise the cached object is the one that was loaded or installed last. From there, a
load that fails leaves everything as it is, and a load gives the cached object exactly when that
stands for what the file holds; any other object it gives is a new one. -/
theorem run_holds_latest (disk : Disk) (requests : List Request) :
    let events := (Scene.run { disk } requests).1
    let scene := (Scene.run { disk } requests).2
    ∃ answer, scene.take .current = (.asked answer, scene) ∧
      (answer = none ↔ ∀ event ∈ sinceEmptied events, event.provided? = none) ∧
      answer = (latest events).map (fun given => given.2) ∧
      scene.cache.slot.map (fun cached => cached.path.components) =
        (latest events).map (fun given => given.1.components) ∧
      ∀ path, ∃ outcome after, scene.take (.load path) = (.loaded path outcome, after) ∧
        (∀ error, outcome = .error error → after = scene ∧
          ((∃ fault, scene.disk.read path = .error fault ∧ error = .unreadable path fault) ∨
            ∃ text fault, scene.disk.read path = .ok text ∧ Table.ofText text = .error fault ∧
              error = .malformed path fault)) ∧
        ((∃ object, answer = some object ∧ outcome = .ok object) ↔ scene.Serves path) ∧
        ∀ object, outcome = .ok object → answer ≠ some object →
          ∀ event ∈ events, ∀ given, event.provided? = some given →
            given.2.serial ≠ object.serial := by
  intro events scene
  have follows : scene.Follows events := (Scene.Follows.initial disk).run requests
  refine ⟨scene.current, rfl, ?_, follows.current, follows.path, ?_⟩
  · rw [follows.current, Option.map_eq_none_iff, latest_eq_none_iff]
  · intro path
    obtain ⟨outcome, after, taken, loaded⟩ := scene.take_load path
    refine ⟨outcome, after, taken, ?_, follows.load_current_iff loaded, ?_⟩
    · rintro error rfl
      exact loaded.of_error
    · rintro object rfl different event member given provides
      exact follows.load_new loaded different member provides

/-- A table given in memory is what a load of its file gives, under another spelling of the path, and
a load of a missing file leaves it in the cache. -/
theorem run_holds_latest_other_spelling :
    let given : Object := ⟨5, Table.ofSymbols []⟩
    let scene := (Scene.run { disk := { entries := [(["t"], .file "[]".toUTF8)] } }
      [.install ⟨"/t"⟩ given]).2
    (scene.take (.load ⟨"/./t"⟩)).1 = .loaded ⟨"/./t"⟩ (.ok given) ∧
      scene.take (.load ⟨"/u"⟩) = (.loaded ⟨"/u"⟩ (.error (.unreadable ⟨"/u"⟩ .notFound)), scene) := by
  intro given scene
  obtain ⟨answer, asked, -, -, -, loads⟩ :=
    run_holds_latest { entries := [(["t"], .file "[]".toUTF8)] } [.install ⟨"/t"⟩ given]
  cases asked
  constructor
  · obtain ⟨outcome, after, taken, -, hit, -⟩ := loads ⟨"/./t"⟩
    have components : Path.components ⟨"/t"⟩ = Path.components ⟨"/./t"⟩ := by decide +kernel
    obtain ⟨object, isCurrent, rfl⟩ := hit.2 ⟨_, "[]", rfl, rfl, components, rfl⟩
    cases isCurrent
    exact congrArg Prod.fst taken
  · obtain ⟨outcome, after, taken, failed, -⟩ := loads ⟨"/u"⟩
    have isError : outcome = .error (.unreadable ⟨"/u"⟩ .notFound) := by
      cases taken
      rfl
    rw [isError, (failed _ isError).1] at taken
    exact taken

end Crosslink.Symbols

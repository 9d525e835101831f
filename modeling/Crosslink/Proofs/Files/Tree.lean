/-
# Crosslink.Proofs.Files.Tree — disks whose entries stand in directories

On such a disk (`Disk.Sound`), and without links, a path without parent steps
leads to the place that its names spell (`Disk.place`), whatever the walk passes:
the walk succeeds when something is there (`Sound.reaches_iff`), and what stands
at a joined name is what stands at that place (`Sound.entryAt?`). What is put into
a directory, and not in the place of one, keeps a disk sound (`Sound.put`).
-/
import Crosslink.Proofs.Files.Changes

namespace Crosslink.Files

set_option autoImplicit false

/-! ## Places -/

/-- The names among the parts of a path without parent steps. -/
def names (parts : List (List Char)) : List String :=
  (parts.filter fun part => part != [] && part != ['.']).map String.ofList

theorem names_append (front back : List (List Char)) : names (front ++ back) = names front ++ names back := by
  simp [names]

theorem names_still {part : List Char} (still : part = [] ∨ part = ['.']) : names [part] = [] := by
  rcases still with rfl | rfl
  · rfl
  · rfl

theorem names_isName {part : List Char} (isName : IsName part) : names [part] = [String.ofList part] := by
  simp [names, isName.1, isName.2.1]

theorem names_of_empty {parts : List (List Char)} (empty : ∀ part ∈ parts, part = []) :
    names parts = [] := by
  rw [names, List.map_eq_nil_iff, List.filter_eq_nil_iff]
  intro part member
  simp [empty part member]

/-- A path that goes down only. -/
def Path.Descends (p : Path) : Prop := ['.', '.'] ∉ pieces p.text.toList

instance (p : Path) : Decidable p.Descends :=
  inferInstanceAs (Decidable (['.', '.'] ∉ pieces p.text.toList))

theorem Path.mem_lead {p : Path} {part : List Char} (member : part ∈ p.lead) :
    part ∈ pieces p.text.toList := by
  unfold lead at member
  split at member
  · cases member
  split at member
  · exact List.dropLast_subset _ member
  · exact member

theorem Path.names_lead (p : Path) : names p.lead = names (pieces p.text.toList) := by
  by_cases empty : p.text.toList = []
  · simp [lead, empty, names, pieces]
  · have notEmpty : p.text.isEmpty = false := by simpa using empty
    rcases p.pieces_eq_lead notEmpty with ⟨-, -, -, parts⟩ | ⟨-, parts⟩
    · rw [parts, names_append, names_still (.inl rfl), List.append_nil]
    · rw [parts]

namespace Disk

/-- Where a path without parent steps leads to. -/
def place (d : Disk) (p : Path) : Location := d.start p ++ names (pieces p.text.toList)

theorem place_congr {d after : Disk} (same : after.workingDirectory = d.workingDirectory) (p : Path) :
    after.place p = d.place p := by
  rw [place, place, start, start, same]

/-- No link stands on the disk. -/
def LinkFree (d : Disk) : Prop := ∀ x, ¬ d.Linked x

/-- Whatever stands on the disk stands in a directory. -/
def Sound (d : Disk) : Prop :=
  ∀ l name e, d.entry? (l ++ [name]) = some e → d.entry? l = some .directory

variable {d : Disk} {p : Path} {l m : Location} {parts : List (List Char)} {follow : Bool} {links : Nat}

theorem linkFree_of_entries (listed : ∀ entry ∈ d.entries, entry.2.isLink = false) : d.LinkFree := by
  intro x linked
  obtain ⟨entry, member, -, isLink⟩ := linked.exists_mem
  rw [listed entry member] at isLink
  cases isLink

theorem Walks.eq_of_descends (linkFree : d.LinkFree) (descends : ['.', '.'] ∉ parts)
    (walks : Walks d follow links l parts m) : m = l ++ names parts := by
  induction walks with
  | here => exact (List.append_nil _).symm
  | step startDirectory step behind ih =>
      simp only [List.mem_cons, not_or] at descends
      rw [ih descends.2, ← List.singleton_append, names_append]
      cases step with
      | stay still => rw [names_still still, List.nil_append]
      | up parent => exact absurd parent.symm descends.1
      | down isName => rw [names_isName isName, List.append_assoc]
      | stop isName => rw [names_isName isName, List.append_assoc]
  | jump startDirectory isName isLink => exact absurd ⟨_, isLink⟩ (linkFree _)

/-! ## Sound disks -/

/-- A disk is sound when its listed entries stand in directories. -/
theorem sound_of_entries (listed : ∀ entry ∈ d.entries, d.entry? entry.1.dropLast = some .directory) :
    d.Sound := by
  intro l name e present
  rw [entry?_below (by simp)] at present
  obtain ⟨before, behind, split, -⟩ := List.lookup_eq_some_iff.1 present
  have parent := listed (l ++ [name], e) (by simp [split])
  rwa [List.dropLast_concat] at parent

/-- Above whatever is there are directories. -/
theorem Sound.directory_above (sound : d.Sound) {name : String} {more : Location} {e : Entry}
    (present : d.entry? (l ++ name :: more) = some e) : d.entry? l = some .directory := by
  induction more generalizing l name with
  | nil => exact sound l name e present
  | cons next more ih =>
      rw [← List.singleton_append, ← List.append_assoc] at present
      exact sound l name _ (ih present)

theorem Sound.directory_of_append (sound : d.Sound) {more : Location}
    (isDirectory : d.entry? (l ++ more) = some .directory) : d.entry? l = some .directory := by
  cases more with
  | nil => rwa [List.append_nil] at isDirectory
  | cons name more => exact sound.directory_above isDirectory

theorem Sound.dropLast (sound : d.Sound) (isDirectory : d.entry? l = some .directory) :
    d.entry? l.dropLast = some .directory := by
  rcases List.eq_nil_or_concat l with rfl | ⟨k, name, rfl⟩
  · exact isDirectory
  · rw [List.concat_eq_append] at isDirectory ⊢
    rw [List.dropLast_concat]
    exact sound k name _ isDirectory

theorem Sound.walks (sound : d.Sound) (descends : ['.', '.'] ∉ parts)
    (isDirectory : d.entry? (l ++ names parts) = some .directory) :
    Walks d true links l parts (l ++ names parts) := by
  induction parts generalizing l with
  | nil =>
      rw [show names [] = [] from rfl, List.append_nil]
      exact .here
  | cons part parts ih =>
      simp only [List.mem_cons, not_or] at descends
      have startDirectory := sound.directory_of_append isDirectory
      have split : names (part :: parts) = names [part] ++ names parts := names_append [part] parts
      rw [split] at isDirectory ⊢
      by_cases still : part = [] ∨ part = ['.']
      · rw [names_still still, List.nil_append] at isDirectory ⊢
        exact .step startDirectory (.stay still) (ih descends.2 isDirectory)
      · have isName := isName_of_moves still (Ne.symm descends.1)
        rw [names_isName isName, ← List.append_assoc] at isDirectory ⊢
        have next := sound.directory_of_append isDirectory
        refine .step startDirectory (.down isName (by rw [next]; rfl) ?_) (ih descends.2 isDirectory)
        simp [Linked, next]

/-- What is missing where a walk ends would stand in a directory. -/
theorem Sound.exists_parent (sound : d.Sound) (walks : Walks d follow links l parts m)
    (absent : d.entry? m = none) (nonempty : parts ≠ []) :
    ∃ k name, m = k ++ [name] ∧ d.entry? k = some .directory := by
  induction walks with
  | here => exact absurd rfl nonempty
  | @step links l next m part rest startDirectory step behind ih =>
      by_cases more : rest = []
      · subst more
        cases behind
        cases step with
        | stay still => simp [startDirectory] at absent
        | up parent => simp [sound.dropLast startDirectory] at absent
        | down => exact ⟨_, _, rfl, startDirectory⟩
        | stop => exact ⟨_, _, rfl, startDirectory⟩
      · exact ih absent more
  | jump startDirectory isName isLink goes spelled behind ih =>
      exact ih absent (by simp [pieces_ne_nil])

/-- **A path without parent steps leads to its place**, if a directory is there. -/
theorem Sound.reaches_iff (sound : d.Sound) (linkFree : d.LinkFree) (descends : p.Descends) :
    d.Reaches p l ↔ l = d.place p ∧ d.entry? l = some .directory := by
  have leadDescends : ['.', '.'] ∉ p.lead := fun member => descends (Path.mem_lead member)
  have place : d.place p = d.start p ++ names p.lead := by rw [place, p.names_lead]
  rw [place]
  constructor
  · rintro ⟨walks, isDirectory⟩
    exact ⟨walks.eq_of_descends linkFree leadDescends, isDirectory⟩
  · rintro ⟨rfl, isDirectory⟩
    exact ⟨sound.walks leadDescends isDirectory, isDirectory⟩

theorem Sound.locate_join (sound : d.Sound) (linkFree : d.LinkFree) (descends : p.Descends) {name : String}
    (fileName : IsFileName name) {e : Entry} (present : d.entry? (d.place p ++ [name]) = some e) :
    d.locate (p.join name) = .ok (d.place p ++ [name]) := by
  have reaches := (sound.reaches_iff linkFree descends).2 ⟨rfl, sound _ _ _ present⟩
  rw [reaches.locate_join fileName (linkFree _), present]
  rfl

/-- What stands at a name that is joined to a path. -/
theorem Sound.entryAt? (sound : d.Sound) (linkFree : d.LinkFree) (descends : p.Descends) {name : String}
    (fileName : IsFileName name) : d.entryAt? (p.join name) = d.entry? (d.place p ++ [name]) := by
  by_cases isDirectory : d.entry? (d.place p) = some .directory
  · exact ((sound.reaches_iff linkFree descends).2 ⟨rfl, isDirectory⟩).entryAt? fileName (linkFree _)
  · have absent : d.entry? (d.place p ++ [name]) = none := by
      cases present : d.entry? (d.place p ++ [name]) with
      | none => rfl
      | some e => exact absurd (sound _ _ _ present) isDirectory
    cases located : d.locate (p.join name) with
    | error fault => rw [Disk.entryAt?, located, absent]
    | ok x =>
        obtain ⟨l, reaches, -⟩ := exists_of_locate_join fileName (fun l => linkFree _) located
        obtain ⟨rfl, isThere⟩ := (sound.reaches_iff linkFree descends).1 reaches
        exact absurd isThere isDirectory

/-- What is put into a directory, and not in the place of one, keeps a disk sound. -/
theorem Sound.put (sound : d.Sound) {after : Disk} {name : String} {e : Entry}
    (parent : d.entry? l = some .directory) (free : d.entry? (l ++ [name]) ≠ some .directory)
    (entries : ∀ x, after.entry? x = if x = l ++ [name] then some e else d.entry? x) : after.Sound := by
  intro k below f present
  rw [entries] at present ⊢
  split at present
  · rename_i same
    obtain ⟨rfl, -⟩ := List.append_inj' same rfl
    rwa [if_neg (by simp)]
  · have isDirectory := sound k below f present
    have other : k ≠ l ++ [name] := by
      rintro rfl
      exact free isDirectory
    rwa [if_neg other]

end Disk

end Crosslink.Files

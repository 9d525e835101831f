/-
# Crosslink.Proofs.Files.Walk — walks on a changing disk

What an insertion and a removal do to the entries of a disk, and what each part
of a path can lead to (`turn_eq_location_iff`, `turn_eq_link_iff`). A walk is a
chain of such turns (`Walks`), and the function that walks finds it whenever it
has enough links left (`walk_eq_ok_iff`).

A walk that ends in a directory passes directories and links only. So it leads to
the same place on every other disk that has the same directories and links
(`Walks.kept`). A name behind it is meant in that directory (`Walks.concat`),
and empty parts behind it change nothing (`walks_append_empty_iff`).
-/
import Crosslink.Files.Disk

namespace Crosslink.Files

set_option autoImplicit false

/-- A part of a path that leads down. -/
def IsName (part : List Char) : Prop := part ≠ [] ∧ part ≠ ['.'] ∧ part ≠ ['.', '.']

def Entry.isLink : Entry → Bool
  | .link _ => true
  | _ => false

namespace Disk

/-! ## Entries -/

theorem lookup_filter {α β : Type} [BEq α] [LawfulBEq α] (keep : α → Bool) (es : List (α × β)) (a : α) :
    (es.filter fun (k, _) => keep k).lookup a = if keep a then es.lookup a else none := by
  induction es with
  | nil => simp
  | cons e es ih =>
      obtain ⟨k, b⟩ := e
      by_cases same : a = k
      · subst same
        cases kept : keep a with
        | true => simp [kept]
        | false => simpa [kept] using ih
      · have differs : (a == k) = false := beq_eq_false_iff_ne.2 same
        cases kept : keep k with
        | true => simpa [kept, List.lookup_cons, differs] using ih
        | false => simpa [kept, List.lookup_cons, differs] using ih

@[simp] theorem entry?_tried (d : Disk) (x : Location) : d.tried.entry? x = d.entry? x := rfl

theorem entry?_below {d : Disk} {x : Location} (below : x ≠ []) : d.entry? x = d.entries.lookup x :=
  if_neg below

theorem entry?_erase (d : Disk) {l : Location} (below : l ≠ []) (x : Location) :
    Disk.entry? (d.erase l) x = if x = l then none else d.entry? x := by
  by_cases root : x = []
  · subst root
    rw [if_neg (Ne.symm below)]
    rfl
  · rw [entry?_below root, entry?_below root, erase, lookup_filter (fun k => k != l) d.entries x]
    by_cases same : x = l
    · simp [same]
    · simp [same]

theorem entry?_insert (d : Disk) {l : Location} (below : l ≠ []) (e : Entry) (x : Location) :
    Disk.entry? (d.insert l e) x = if x = l then some e else d.entry? x := by
  by_cases root : x = []
  · subst root
    rw [if_neg (Ne.symm below)]
    rfl
  · by_cases same : x = l
    · rw [if_pos same, entry?_below root, insert, same]
      simp
    · have differs : (x == l) = false := beq_eq_false_iff_ne.2 same
      have removed := d.entry?_erase below x
      rw [if_neg same, entry?_below root] at removed
      rw [if_neg same, entry?_below root, insert, List.lookup_cons, differs]
      exact removed

/-- A link stands at the location. -/
def Linked (d : Disk) (x : Location) : Prop := ∃ target, d.entry? x = some (.link target)

/-- A link is one of the listed entries. -/
theorem Linked.exists_mem {d : Disk} {x : Location} (linked : d.Linked x) :
    ∃ entry ∈ d.entries, entry.1 = x ∧ entry.2.isLink = true := by
  obtain ⟨target, isLink⟩ := linked
  have below : x ≠ [] := by
    rintro rfl
    cases isLink
  rw [entry?_below below] at isLink
  obtain ⟨before, behind, split, -⟩ := List.lookup_eq_some_iff.1 isLink
  exact ⟨(x, .link target), by simp [split], rfl, rfl⟩

/-! ## Turns -/

/-- Where one part of a path leads from the directory at `l`, when no link is followed. -/
inductive Steps (d : Disk) (follow last : Bool) (l : Location) (part : List Char) : Location → Prop where
  | stay (still : part = [] ∨ part = ['.']) : Steps d follow last l part l
  | up (parent : part = ['.', '.']) : Steps d follow last l part l.dropLast
  | down (isName : IsName part) (present : (d.entry? (l ++ [String.ofList part])).isSome)
      (noLink : ¬ d.Linked (l ++ [String.ofList part])) :
      Steps d follow last l part (l ++ [String.ofList part])
  /-- The last name stands for itself, though nothing is there, or a link. -/
  | stop (isName : IsName part) (isLast : last = true)
      (stops : d.entry? (l ++ [String.ofList part]) = none ∨
        follow = false ∧ d.Linked (l ++ [String.ofList part])) :
      Steps d follow last l part (l ++ [String.ofList part])

section Turns

variable {d : Disk} {follow last : Bool} {l next : Location} {part : List Char} {target : Path}

theorem isName_of_moves (moves : ¬ (part = [] ∨ part = ['.'])) (noParent : ¬ part = ['.', '.']) :
    IsName part :=
  ⟨fun same => moves (.inl same), fun same => moves (.inr same), noParent⟩

theorem turn_eq_location_iff :
    d.turn follow last l part = .ok (.location next) ↔
      d.entry? l = some .directory ∧ Steps d follow last l part next := by
  constructor
  · intro turned
    unfold turn at turned
    split at turned
    · rename_i isDirectory
      refine ⟨isDirectory, ?_⟩
      split at turned
      · rename_i still
        cases turned
        exact .stay still
      rename_i moves
      split at turned
      · rename_i parent
        cases turned
        exact .up parent
      rename_i noParent
      have isName := isName_of_moves moves noParent
      dsimp only at turned
      split at turned
      · rename_i target isLink
        split at turned
        · rename_i ends
          cases turned
          simp only [Bool.and_eq_true, Bool.not_eq_true'] at ends
          exact .stop isName ends.1 (.inr ⟨ends.2, target, isLink⟩)
        · cases turned
      · rename_i e noLink present
        cases turned
        refine .down isName (by rw [present]; rfl) ?_
        rintro ⟨target, isLink⟩
        rw [isLink] at present
        cases present
        exact noLink target rfl
      · rename_i absent
        split at turned
        · rename_i isLast
          cases turned
          exact .stop isName isLast (.inl absent)
        · cases turned
    · cases turned
    · cases turned
  · rintro ⟨isDirectory, step⟩
    rw [turn, isDirectory]
    cases step with
    | stay still => simp [still]
    | up parent => simp [parent]
    | down isName present noLink =>
        obtain ⟨notEmpty, notDot, notParent⟩ := isName
        obtain ⟨e, entry⟩ := Option.isSome_iff_exists.1 present
        cases e with
        | link target => exact absurd ⟨target, entry⟩ noLink
        | file content => simp [notEmpty, notDot, notParent, entry]
        | directory => simp [notEmpty, notDot, notParent, entry]
    | stop isName isLast stops =>
        obtain ⟨notEmpty, notDot, notParent⟩ := isName
        rcases stops with absent | ⟨kept, target, entry⟩
        · simp [notEmpty, notDot, notParent, absent, isLast]
        · simp [notEmpty, notDot, notParent, entry, isLast, kept]

theorem turn_eq_link_iff :
    d.turn follow last l part = .ok (.link target) ↔
      d.entry? l = some .directory ∧ IsName part ∧
        d.entry? (l ++ [String.ofList part]) = some (.link target) ∧ (last = false ∨ follow = true) := by
  constructor
  · intro turned
    unfold turn at turned
    split at turned
    · rename_i isDirectory
      split at turned
      · cases turned
      rename_i moves
      split at turned
      · cases turned
      rename_i noParent
      dsimp only at turned
      split at turned
      · rename_i target' isLink
        split at turned
        · cases turned
        · rename_i goes
          cases turned
          refine ⟨isDirectory, isName_of_moves moves noParent, isLink, ?_⟩
          cases last with
          | false => exact .inl rfl
          | true => exact .inr (by simpa using goes)
      · cases turned
      · split at turned
        · cases turned
        · cases turned
    · cases turned
    · cases turned
  · rintro ⟨isDirectory, ⟨notEmpty, notDot, notParent⟩, isLink, goes⟩
    have goesOn : (last && !follow) = false := by
      rcases goes with rfl | rfl
      · rfl
      · simp
    simp [turn, isDirectory, notEmpty, notDot, notParent, isLink, goesOn]

end Turns

/-! ## Walks -/

/-- The chain of turns from one location to another, with at most `links` links on the way. -/
inductive Walks (d : Disk) (follow : Bool) : (links : Nat) → Location → List (List Char) → Location → Prop where
  | here {links : Nat} {l : Location} : Walks d follow links l [] l
  | step {links : Nat} {l next m : Location} {part : List Char} {rest : List (List Char)}
      (isDirectory : d.entry? l = some .directory) (step : Steps d follow rest.isEmpty l part next)
      (behind : Walks d follow links next rest m) : Walks d follow links l (part :: rest) m
  | jump {links : Nat} {l m : Location} {part : List Char} {rest : List (List Char)} {target : Path}
      (isDirectory : d.entry? l = some .directory) (isName : IsName part)
      (isLink : d.entry? (l ++ [String.ofList part]) = some (.link target))
      (goes : rest ≠ [] ∨ follow = true) (spelled : target.text.isEmpty = false)
      (behind : Walks d follow links (startFrom l target) (pieces target.text.toList ++ rest) m) :
      Walks d follow (links + 1) l (part :: rest) m

section Walks

variable {d : Disk} {follow : Bool} {links : Nat} {l m : Location} {parts : List (List Char)}

theorem walks_of_walkWith {jump : Location → List (List Char) → Except FileFault Location}
    (jumps : ∀ {k parts m}, jump k parts = .ok m → ∃ fewer, links = fewer + 1 ∧ Walks d follow fewer k parts m)
    (walked : d.walkWith follow jump l parts = .ok m) : Walks d follow links l parts m := by
  induction parts generalizing l with
  | nil =>
      cases walked
      exact .here
  | cons part rest ih =>
      rw [walkWith] at walked
      split at walked
      · cases walked
      · rename_i next turned
        obtain ⟨isDirectory, step⟩ := turn_eq_location_iff.1 turned
        exact .step isDirectory step (ih walked)
      · rename_i target turned
        obtain ⟨isDirectory, isName, isLink, goes⟩ := turn_eq_link_iff.1 turned
        split at walked
        · cases walked
        · rename_i spelled
          obtain ⟨fewer, rfl, behind⟩ := jumps walked
          exact .jump isDirectory isName isLink (by simpa using goes) (by simpa using spelled) behind

/-- **The walk finds every chain of turns**, and nothing else. -/
theorem walk_eq_ok_iff : d.walk follow links l parts = .ok m ↔ Walks d follow links l parts m := by
  constructor
  · intro walked
    induction links generalizing l parts m with
    | zero => exact walks_of_walkWith (fun impossible => by cases impossible) walked
    | succ links ih => exact walks_of_walkWith (fun jumped => ⟨links, rfl, ih jumped⟩) walked
  · intro walks
    induction walks with
    | @here links l => cases links <;> rfl
    | @step links l next m part rest isDirectory step behind ih =>
        have turned := turn_eq_location_iff.2 ⟨isDirectory, step⟩
        cases links <;> rw [walk, walkWith, turned] <;> exact ih
    | @jump links l m part rest target isDirectory isName isLink goes spelled behind ih =>
        have goesOn : rest.isEmpty = false ∨ follow = true := by simpa using goes
        rw [walk, walkWith, turn_eq_link_iff.2 ⟨isDirectory, isName, isLink, goesOn⟩]
        simpa [spelled] using ih

/-! ## Walks to a directory -/

/-- A walk that ends in a directory starts in one. -/
theorem Walks.startDirectory (walks : Walks d follow links l parts m)
    (isDirectory : d.entry? m = some .directory) : d.entry? l = some .directory := by
  cases walks with
  | here => exact isDirectory
  | step startDirectory => exact startDirectory
  | jump startDirectory => exact startDirectory

/-- The directories and links of one disk are there on another. -/
structure Keeps (d after : Disk) : Prop where
  directory : ∀ {x}, d.entry? x = some .directory → after.entry? x = some .directory
  link : ∀ {x target}, d.entry? x = some (.link target) → after.entry? x = some (.link target)

/-- **A walk to a directory is kept** when directories and links are. -/
theorem Walks.kept {after : Disk} (keeps : d.Keeps after) (walks : Walks d true links l parts m)
    (isDirectory : d.entry? m = some .directory) : Walks after true links l parts m := by
  induction walks with
  | here => exact .here
  | step startDirectory step behind ih =>
      refine .step (keeps.directory startDirectory) ?_ (ih isDirectory)
      have next := keeps.directory (behind.startDirectory isDirectory)
      cases step with
      | stay still => exact .stay still
      | up parent => exact .up parent
      | down isName present noLink =>
          refine .down isName (by rw [next]; rfl) ?_
          rintro ⟨target, isLink⟩
          rw [next] at isLink
          cases isLink
      | stop isName isLast stops =>
          rcases stops with absent | ⟨impossible, -⟩
          · rw [behind.startDirectory isDirectory] at absent
            cases absent
          · cases impossible
  | jump startDirectory isName isLink goes spelled behind ih =>
      exact .jump (keeps.directory startDirectory) isName (keeps.link isLink) goes spelled (ih isDirectory)

/-- A step to a directory does not depend on what becomes of the last name. -/
theorem Steps.of_directory {last : Bool} {part : List Char} {next : Location}
    (step : Steps d true last l part next) (isDirectory : d.entry? next = some .directory)
    (follow' last' : Bool) : Steps d follow' last' l part next := by
  cases step with
  | stay still => exact .stay still
  | up parent => exact .up parent
  | down isName present noLink => exact .down isName present noLink
  | stop isName isLast stops =>
      rcases stops with absent | ⟨impossible, -⟩
      · rw [isDirectory] at absent
        cases absent
      · cases impossible

theorem exists_step_of_name {part : List Char} (isName : IsName part)
    (ends : follow = true → ¬ d.Linked (l ++ [String.ofList part])) :
    Steps d follow true l part (l ++ [String.ofList part]) := by
  by_cases linked : d.Linked (l ++ [String.ofList part])
  · refine .stop isName rfl (.inr ⟨?_, linked⟩)
    cases follow with
    | false => rfl
    | true => exact absurd linked (ends rfl)
  · cases present : d.entry? (l ++ [String.ofList part]) with
    | none => exact .stop isName rfl (.inl present)
    | some e => exact .down isName (by rw [present]; rfl) linked

/-- A name behind a walk stands for itself in the directory, unless it is a link that is followed. -/
theorem Walks.concat (walks : Walks d true links l parts m) (isDirectory : d.entry? m = some .directory)
    {part : List Char} (isName : IsName part)
    (ends : follow = true → ¬ d.Linked (m ++ [String.ofList part])) :
    Walks d follow links l (parts ++ [part]) (m ++ [String.ofList part]) := by
  induction walks with
  | here => exact .step isDirectory (exists_step_of_name isName ends) .here
  | step startDirectory step behind ih =>
      have next := behind.startDirectory isDirectory
      exact .step startDirectory (step.of_directory next follow _) (ih isDirectory ends)
  | jump startDirectory linkName isLink goes spelled behind ih =>
      have onward := ih isDirectory ends
      rw [List.append_assoc] at onward
      exact .jump startDirectory linkName isLink (.inl (by simp)) spelled onward

/-- A walk to a name ends in the directory that the parts in front of it lead to. -/
theorem Walks.exists_of_concat {all : List (List Char)} {x : Location} (walks : Walks d follow links l all x)
    {part : List Char} (isName : IsName part)
    (ends : follow = true → ∀ m, ¬ d.Linked (m ++ [String.ofList part])) (split : all = parts ++ [part]) :
    ∃ m, Walks d true links l parts m ∧ d.entry? m = some .directory ∧ x = m ++ [String.ofList part] := by
  induction walks generalizing parts with
  | here => simp at split
  | @step links l next x head rest startDirectory step behind ih =>
      cases parts with
      | nil =>
          obtain ⟨rfl, rfl⟩ : head = part ∧ rest = [] := by simpa using split
          cases behind
          refine ⟨l, .here, startDirectory, ?_⟩
          cases step with
          | stay still => exact absurd still (by simp [isName.1, isName.2.1])
          | up parent => exact absurd parent isName.2.2
          | down => rfl
          | stop => rfl
      | cons first parts =>
          obtain ⟨rfl, rfl⟩ : head = first ∧ rest = parts ++ [part] := by simpa using split
          obtain ⟨m, walks, isDirectory, arrived⟩ := ih rfl
          refine ⟨m, .step startDirectory ?_ walks, isDirectory, arrived⟩
          cases step with
          | stay still => exact .stay still
          | up parent => exact .up parent
          | down downName present noLink => exact .down downName present noLink
          | stop downName isLast stops => simp at isLast
  | @jump links l x head rest target startDirectory linkName isLink goes spelled behind ih =>
      cases parts with
      | nil =>
          obtain ⟨rfl, rfl⟩ : head = part ∧ rest = [] := by simpa using split
          exact absurd ⟨target, isLink⟩ (ends (goes.resolve_left (by simp)) l)
      | cons first parts =>
          obtain ⟨rfl, rfl⟩ : head = first ∧ rest = parts ++ [part] := by simpa using split
          obtain ⟨m, walks, isDirectory, arrived⟩ := ih (List.append_assoc _ _ _).symm
          exact ⟨m, .jump startDirectory linkName isLink (.inr rfl) spelled walks, isDirectory, arrived⟩

theorem walks_empty (isDirectory : d.entry? l = some .directory) (empty : ∀ part ∈ parts, part = []) :
    Walks d follow links l parts l := by
  induction parts with
  | nil => exact .here
  | cons part parts ih =>
      exact .step isDirectory (.stay (.inl (empty part (by simp)))) (ih fun other member =>
        empty other (by simp [member]))

theorem Walks.eq_of_empty (walks : Walks d follow links l parts m) (empty : ∀ part ∈ parts, part = []) :
    m = l := by
  induction walks with
  | here => rfl
  | @step links l next m part rest startDirectory step behind ih =>
      rw [ih fun other member => empty other (by simp [member])]
      cases step with
      | stay still => rfl
      | up parent => simp [empty part (by simp)] at parent
      | down isName => exact absurd (empty part (by simp)) isName.1
      | stop isName => exact absurd (empty part (by simp)) isName.1
  | @jump links l m part rest target startDirectory isName =>
      exact absurd (empty part (by simp)) isName.1

/-- Empty parts at the end change nothing on the way to a directory. -/
theorem walks_append_empty_iff {tail : List (List Char)} (isDirectory : d.entry? m = some .directory)
    (empty : ∀ part ∈ tail, part = []) :
    Walks d true links l (parts ++ tail) m ↔ Walks d true links l parts m := by
  constructor
  · intro walks
    generalize split : parts ++ tail = all at walks
    induction walks generalizing parts with
    | here =>
        obtain ⟨rfl, -⟩ := List.append_eq_nil_iff.1 split
        exact .here
    | @step links l next m head rest startDirectory step behind ih =>
        cases parts with
        | nil =>
            obtain rfl : tail = head :: rest := by simpa using split
            rw [Walks.eq_of_empty (.step startDirectory step behind) empty]
            exact .here
        | cons first parts =>
            obtain ⟨rfl, rfl⟩ : first = head ∧ parts ++ tail = rest := by simpa using split
            have next := behind.startDirectory isDirectory
            exact .step startDirectory (step.of_directory next true _) (ih isDirectory rfl)
    | @jump links l m head rest target startDirectory isName isLink goes spelled behind ih =>
        cases parts with
        | nil =>
            obtain rfl : tail = head :: rest := by simpa using split
            exact absurd (empty head (by simp)) isName.1
        | cons first parts =>
            obtain ⟨rfl, rfl⟩ : first = head ∧ parts ++ tail = rest := by simpa using split
            exact .jump startDirectory isName isLink (.inr rfl) spelled
              (ih isDirectory (List.append_assoc _ _ _))
  · intro walks
    induction walks with
    | here => exact walks_empty isDirectory empty
    | step startDirectory step behind ih =>
        have next := behind.startDirectory isDirectory
        exact .step startDirectory (step.of_directory next true _) (ih isDirectory)
    | jump startDirectory isName isLink goes spelled behind ih =>
        have onward := ih isDirectory
        rw [List.append_assoc] at onward
        exact .jump startDirectory isName isLink (.inr rfl) spelled onward

/-- The parts of a walk to a directory name something that is there, be it a link to the directory. -/
theorem Walks.exists_named (walks : Walks d true links l parts m) (isDirectory : d.entry? m = some .directory) :
    ∃ x, Walks d false links l parts x ∧ (d.entry? x).isSome := by
  induction walks with
  | here => exact ⟨_, .here, by rw [isDirectory]; rfl⟩
  | step startDirectory step behind ih =>
      obtain ⟨x, walks, present⟩ := ih isDirectory
      have next := behind.startDirectory isDirectory
      exact ⟨x, .step startDirectory (step.of_directory next false _) walks, present⟩
  | @jump links l m part rest target startDirectory isName isLink goes spelled behind ih =>
      by_cases last : rest = []
      · subst last
        exact ⟨_, .step startDirectory (.stop isName rfl (.inr ⟨rfl, target, isLink⟩)) .here,
          by rw [isLink]; rfl⟩
      · obtain ⟨x, walks, present⟩ := ih isDirectory
        exact ⟨x, .jump startDirectory isName isLink (.inl last) spelled walks, present⟩

end Walks

end Disk

end Crosslink.Files

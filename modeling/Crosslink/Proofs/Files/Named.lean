/-
# Crosslink.Proofs.Files.Named — names in the directory of a path

A name that is joined to a path is meant in the directory that the path leads to
(`Disk.Reaches`), whether or not the path ends in a slash. Unless a link has that
name, what stands there is found under the joined path (`Reaches.entryAt?`), and
in no other directory (`exists_of_locateNew_join`).
-/
import Crosslink.Proofs.Files.Walk

namespace Crosslink.Files

set_option autoImplicit false

/-! ## Pieces -/

theorem pieces_ne_nil (cs : List Char) : pieces cs ≠ [] := by
  cases cs with
  | nil => simp [pieces]
  | cons c cs =>
      rw [pieces]
      split
      · simp
      · split
        · simp
        · simp

theorem pieces_cons {c : Char} (plain : c ≠ '/') {cs piece : List Char} {rest : List (List Char)}
    (behind : pieces cs = piece :: rest) : pieces (c :: cs) = (c :: piece) :: rest := by
  simp [pieces, behind, plain]

theorem pieces_slash_cons (cs : List Char) : pieces ('/' :: cs) = [] :: pieces cs := by
  obtain ⟨piece, rest, behind⟩ := List.exists_cons_of_ne_nil (pieces_ne_nil cs)
  simp [pieces, behind]

theorem pieces_slash (cs ds : List Char) : pieces (cs ++ '/' :: ds) = pieces cs ++ pieces ds := by
  induction cs with
  | nil => exact pieces_slash_cons ds
  | cons c cs ih =>
      by_cases slash : c = '/'
      · rw [slash, List.cons_append, pieces_slash_cons, ih, pieces_slash_cons, List.cons_append]
      · obtain ⟨piece, rest, behind⟩ := List.exists_cons_of_ne_nil (pieces_ne_nil cs)
        rw [behind, List.cons_append] at ih
        rw [List.cons_append, pieces_cons slash ih, pieces_cons slash behind, List.cons_append]

theorem pieces_plain {cs : List Char} (plain : '/' ∉ cs) : pieces cs = [cs] := by
  induction cs with
  | nil => rfl
  | cons c cs ih =>
      simp only [List.mem_cons, not_or] at plain
      exact pieces_cons (Ne.symm plain.1) (ih plain.2)

/-! ## Joined names -/

/-- A text that can be joined to a path as the name of an entry. -/
structure IsFileName (name : String) : Prop where
  isName : IsName name.toList
  plain : '/' ∉ name.toList

theorem IsFileName.relative {name : String} (fileName : IsFileName name) :
    name.toList.head? ≠ some '/' :=
  fun slash => fileName.plain (List.mem_of_mem_head? slash)

namespace Path

variable {name : String}

/-- The parts in front of a name that is joined to the path. -/
def lead (p : Path) : List (List Char) :=
  if p.text.isEmpty then []
  else if p.text.toList.getLast? == some '/' then (pieces p.text.toList).dropLast
  else pieces p.text.toList

/-- The parts in front are those of the path, without the empty one behind a last slash. -/
theorem pieces_eq_lead (p : Path) (notEmpty : p.text.isEmpty = false) :
    (∃ base, p.text.toList = base ++ ['/'] ∧ p.lead = pieces base ∧
        pieces p.text.toList = p.lead ++ [[]]) ∨
      (p.text.toList.getLast? ≠ some '/' ∧ pieces p.text.toList = p.lead) := by
  by_cases slash : p.text.toList.getLast? = some '/'
  · obtain ⟨base, text⟩ := List.getLast?_eq_some_iff.1 slash
    have front : p.lead = pieces base := by
      simp [lead, notEmpty, text, pieces_slash, pieces]
    exact .inl ⟨base, text, front, by rw [text, pieces_slash, front]; rfl⟩
  · exact .inr ⟨slash, by simp [lead, notEmpty, slash]⟩

/-- In front of a joined name stands nothing, or a text with a slash behind it. -/
theorem join_cases (p : Path) (fileName : IsFileName name) :
    (p.text.toList = [] ∧ (p.join name).text.toList = name.toList ∧ p.lead = []) ∨
      ∃ base, (p.join name).text.toList = base ++ '/' :: name.toList ∧ p.lead = pieces base ∧
        (base ++ ['/']).head? = p.text.toList.head? := by
  have relative := fileName.relative
  by_cases empty : p.text.toList = []
  · have isEmpty : p.text.isEmpty = true := by simpa using empty
    exact .inl ⟨empty, by simp [join, isEmpty], by simp [lead, isEmpty]⟩
  · have notEmpty : p.text.isEmpty = false := by simpa using empty
    rcases p.pieces_eq_lead notEmpty with ⟨base, text, front, -⟩ | ⟨slash, parts⟩
    · refine .inr ⟨base, ?_, front, by rw [text]⟩
      simp [join, relative, notEmpty, text]
    · refine .inr ⟨p.text.toList, ?_, parts.symm, ?_⟩
      · simp [join, relative, notEmpty, slash]
      · obtain ⟨c, rest, text⟩ := List.exists_cons_of_ne_nil empty
        rw [text]
        rfl

theorem pieces_join (p : Path) (fileName : IsFileName name) :
    pieces (p.join name).text.toList = p.lead ++ [name.toList] := by
  rcases p.join_cases fileName with ⟨-, joined, lead⟩ | ⟨base, joined, lead, -⟩
  · rw [joined, lead, pieces_plain fileName.plain]
    rfl
  · rw [joined, lead, pieces_slash, pieces_plain fileName.plain]

theorem isAbsolute_join (p : Path) (fileName : IsFileName name) :
    (p.join name).isAbsolute = p.isAbsolute := by
  rcases p.join_cases fileName with ⟨empty, joined, -⟩ | ⟨base, joined, -, head⟩
  · simp [isAbsolute, joined, empty, fileName.relative]
  · rw [isAbsolute, joined, isAbsolute, ← head]
    cases base with
    | nil => rfl
    | cons c base => rfl

/-- A joined path ends as the name does. -/
theorem getLast?_join (p : Path) (fileName : IsFileName name) :
    (p.join name).text.toList.getLast? = name.toList.getLast? := by
  have nonempty := fileName.isName.1
  rcases p.join_cases fileName with ⟨-, joined, -⟩ | ⟨base, joined, -⟩
  · rw [joined]
  · obtain ⟨c, rest, spelled⟩ := List.exists_cons_of_ne_nil nonempty
    rw [joined, spelled]
    simp [List.getLast?_cons]

theorem getLast?_join_ne_slash (p : Path) (fileName : IsFileName name) :
    (p.join name).text.toList.getLast? ≠ some '/' := by
  rw [p.getLast?_join fileName]
  exact fun slash => fileName.plain (List.mem_of_getLast? slash)

theorem isEmpty_join (p : Path) (fileName : IsFileName name) : (p.join name).text.isEmpty = false := by
  cases isEmpty : (p.join name).text.isEmpty with
  | false => rfl
  | true =>
      have empty : (p.join name).text.toList = [] := by simpa using isEmpty
      have last := p.getLast?_join fileName
      rw [empty] at last
      exact absurd (List.getLast?_eq_none_iff.1 last.symm) fileName.isName.1

end Path

/-! ## Entries of a directory -/

theorem Path.named_join (p : Path) {name : String} (fileName : IsFileName name) :
    (p.join name).named = p.lead ++ [name.toList] := by
  have nonempty := fileName.isName.1
  rw [named, p.pieces_join fileName, List.reverse_concat, List.dropWhile_cons_of_neg (by simp [nonempty])]
  simp

namespace Disk

variable {d after : Disk} {p : Path} {name : String} {l x : Location} {follow : Bool}

/-- The path leads to the directory at `l`. -/
structure Reaches (d : Disk) (p : Path) (l : Location) : Prop where
  walks : Walks d true maxLinks (d.start p) p.lead l
  isDirectory : d.entry? l = some .directory

theorem Reaches.unique {k : Location} (first : d.Reaches p k) (second : d.Reaches p l) : k = l := by
  have same := (walk_eq_ok_iff.2 first.walks).symm.trans (walk_eq_ok_iff.2 second.walks)
  exact Except.ok.inj same

/-- A path leads to the same directory wherever directories and links are kept. -/
theorem Reaches.kept (reaches : d.Reaches p l) (keeps : d.Keeps after)
    (sameStart : after.workingDirectory = d.workingDirectory) : after.Reaches p l := by
  refine ⟨?_, keeps.directory reaches.isDirectory⟩
  rw [start, sameStart]
  exact reaches.walks.kept keeps reaches.isDirectory

theorem start_join (d : Disk) (p : Path) (fileName : IsFileName name) :
    d.start (p.join name) = d.start p := by
  rw [start, start, startFrom, startFrom, p.isAbsolute_join fileName]

/-- No link on the disk has the name. -/
def Unlinked (d : Disk) (name : String) : Prop := ∀ l, ¬ d.Linked (l ++ [name])

theorem unlinked_of_entries
    (listed : ∀ entry ∈ d.entries, entry.1.getLast? = some name → entry.2.isLink = false) :
    d.Unlinked name := by
  intro l linked
  obtain ⟨entry, member, location, isLink⟩ := linked.exists_mem
  rw [listed entry member (by simp [location])] at isLink
  cases isLink

theorem Reaches.walk_join (reaches : d.Reaches p l) (fileName : IsFileName name)
    (ends : follow = true → ¬ d.Linked (l ++ [name])) :
    d.walk follow maxLinks (d.start (p.join name)) (p.lead ++ [name.toList]) = .ok (l ++ [name]) := by
  have spelled : String.ofList name.toList = name := String.ofList_toList
  have walks : Walks d follow maxLinks (d.start p) (p.lead ++ [name.toList])
      (l ++ [String.ofList name.toList]) :=
    reaches.walks.concat reaches.isDirectory fileName.isName (by rwa [spelled])
  rw [spelled] at walks
  rw [start_join d p fileName, walk_eq_ok_iff.2 walks]

theorem Reaches.locateNew_join (reaches : d.Reaches p l) (fileName : IsFileName name)
    (ends : follow = true → ¬ d.Linked (l ++ [name])) :
    d.locateNew follow (p.join name) = .ok (l ++ [name]) := by
  rw [locateNew, if_neg (by simp [p.isEmpty_join fileName]), p.named_join fileName,
    reaches.walk_join fileName ends]

theorem exists_of_locateNew_join (fileName : IsFileName name) (ends : follow = true → d.Unlinked name)
    (found : d.locateNew follow (p.join name) = .ok x) : ∃ l, d.Reaches p l ∧ x = l ++ [name] := by
  have spelled : String.ofList name.toList = name := String.ofList_toList
  rw [locateNew, if_neg (by simp [p.isEmpty_join fileName]), p.named_join fileName,
    start_join d p fileName, walk_eq_ok_iff] at found
  obtain ⟨l, walks, isDirectory, arrived⟩ :=
    found.exists_of_concat fileName.isName (by rw [spelled]; exact ends) rfl
  exact ⟨l, ⟨walks, isDirectory⟩, by rw [arrived, spelled]⟩

theorem isSome_of_locate (located : d.locate p = .ok x) : (d.entry? x).isSome := by
  unfold locate at located
  split at located
  · cases located
  split at located
  · split at located
    · rename_i present
      cases located
      exact present
    · cases located
  · cases located

theorem Reaches.locate_join (reaches : d.Reaches p l) (fileName : IsFileName name)
    (noLink : ¬ d.Linked (l ++ [name])) :
    d.locate (p.join name) = if (d.entry? (l ++ [name])).isSome then .ok (l ++ [name]) else .error .notFound := by
  rw [locate, if_neg (by simp [p.isEmpty_join fileName]), p.pieces_join fileName,
    reaches.walk_join fileName fun _ => noLink]

theorem exists_of_locate_join (fileName : IsFileName name) (unlinked : d.Unlinked name)
    (located : d.locate (p.join name) = .ok x) : ∃ l, d.Reaches p l ∧ x = l ++ [name] := by
  have found : d.locateNew true (p.join name) = .ok x := by
    rw [locate, if_neg (by simp [p.isEmpty_join fileName]), p.pieces_join fileName] at located
    rw [locateNew, if_neg (by simp [p.isEmpty_join fileName]), p.named_join fileName]
    split at located
    · rename_i l walked
      split at located
      · cases located
        exact walked
      · cases located
    · cases located
  exact exists_of_locateNew_join fileName (fun _ => unlinked) found

/-- What stands where a path leads to. -/
def entryAt? (d : Disk) (p : Path) : Option Entry :=
  match d.locate p with
  | .ok l => d.entry? l
  | .error _ => none

/-- **What stands at a joined name** is what has that name in the directory. -/
theorem Reaches.entryAt? (reaches : d.Reaches p l) (fileName : IsFileName name)
    (noLink : ¬ d.Linked (l ++ [name])) : d.entryAt? (p.join name) = d.entry? (l ++ [name]) := by
  rw [Disk.entryAt?, reaches.locate_join fileName noLink]
  cases present : d.entry? (l ++ [name]) with
  | none => rfl
  | some e => exact present

end Disk

end Crosslink.Files

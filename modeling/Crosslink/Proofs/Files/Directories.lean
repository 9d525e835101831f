/-
# Crosslink.Proofs.Files.Directories — making directories

Making a directory that is there already changes nothing (`makeDirectories_of_reaches`),
and what every made directory keeps, a chain of them keeps (`makeChain_kept`). On a
sound disk without links, making the directories on the way to a path adds
directories in front of its place and changes nothing else, also when it fails
half way (`grown_makeDirectories`).
-/
import Crosslink.Proofs.Files.Tree

namespace Crosslink.Files

set_option autoImplicit false

/-! ## Directories that are there -/

/-- The parts that a path names are all but empty ones at its end. -/
theorem Path.exists_pieces_eq_named (p : Path) :
    ∃ tail, pieces p.text.toList = p.named ++ tail ∧ ∀ part ∈ tail, part = [] := by
  refine ⟨((pieces p.text.toList).reverse.takeWhile fun part => part == []).reverse, ?_, ?_⟩
  · rw [named, ← List.reverse_append, List.takeWhile_append_dropWhile, List.reverse_reverse]
  · intro part member
    have inside := List.all_eq_true.1 (List.all_takeWhile (p := fun part : List Char => part == [])
      (l := (pieces p.text.toList).reverse))
    simpa using inside part (List.mem_reverse.1 member)

/-- A path that names no part is the root. -/
theorem Disk.start_of_named_eq_nil (d : Disk) {p : Path} (notEmpty : p.text.isEmpty = false)
    (unnamed : p.named = []) : d.start p = [] := by
  obtain ⟨tail, spelled, empty⟩ := p.exists_pieces_eq_named
  rw [unnamed, List.nil_append] at spelled
  have isAbsolute : p.isAbsolute = true := by
    cases text : p.text.toList with
    | nil => simp [← String.toList_eq_nil_iff, text] at notEmpty
    | cons c cs =>
        obtain ⟨piece, rest, behind⟩ := List.exists_cons_of_ne_nil (pieces_ne_nil cs)
        by_cases slash : c = '/'
        · simp [Path.isAbsolute, text, slash]
        · rw [text, pieces_cons slash behind] at spelled
          exact absurd (empty (c :: piece) (by simp [← spelled])) (by simp)
  simp [start, startFrom, isAbsolute]

namespace Disk

section Present

variable {d : Disk} {p : Path} {l : Location}

theorem Reaches.walks_pieces (reaches : d.Reaches p l) (notEmpty : p.text.isEmpty = false) :
    Walks d true maxLinks (d.start p) (pieces p.text.toList) l := by
  obtain ⟨walks, isDirectory⟩ := reaches
  rcases p.pieces_eq_lead notEmpty with ⟨-, -, -, parts⟩ | ⟨-, parts⟩
  · rw [parts]
    exact (walks_append_empty_iff isDirectory (by simp)).2 walks
  · rwa [parts]

theorem Reaches.holdsDirectory (reaches : d.Reaches p l) (notEmpty : p.text.isEmpty = false) :
    d.holdsDirectory p = true := by
  have walked := walk_eq_ok_iff.2 (reaches.walks_pieces notEmpty)
  have located : d.locate p = .ok l := by
    rw [locate, if_neg (by simp [notEmpty]), walked]
    simp [reaches.isDirectory]
  simp [Disk.holdsDirectory, located, reaches.isDirectory]

theorem Reaches.makeDirectory (reaches : d.Reaches p l) (notEmpty : p.text.isEmpty = false) :
    d.makeDirectory p = .error .alreadyExists := by
  obtain ⟨tail, spelled, empty⟩ := p.exists_pieces_eq_named
  have walks := reaches.walks_pieces notEmpty
  rw [spelled, walks_append_empty_iff reaches.isDirectory empty] at walks
  obtain ⟨x, named, present⟩ := walks.exists_named reaches.isDirectory
  rw [Disk.makeDirectory, locateNew, if_neg (by simp [notEmpty]), walk_eq_ok_iff.2 named]
  simp [present]

end Present

end Disk

/-! ## Chains of directories -/

theorem orDirectory_eq (p : Path) (made : Except FileFault Unit) (d : Disk) :
    orDirectory (m := StateM Disk) p made d =
      (match made with
        | .ok _ => .ok ()
        | .error fault => if d.holdsDirectory p then .ok () else .error fault, d) := by
  cases made with
  | ok done => rfl
  | error fault =>
      let given (result : Except FileFault Unit) : StateM Disk (Except FileFault Unit) := pure result
      change (if d.holdsDirectory p then given (.ok ()) else given (.error fault)) d = _
      cases d.holdsDirectory p with
      | true => rfl
      | false => rfl

theorem makeChain_cons {p : Path} (notEmpty : p.text.isEmpty = false) (up : List Path) (d : Disk) :
    makeChain (m := StateM Disk) (p :: up) d =
      match FileAccess.makeDirectory (m := StateM Disk) p d with
      | (.error .notFound, between) =>
        match makeChain (m := StateM Disk) up between with
        | (.error fault, after) => (.error fault, after)
        | (.ok _, after) =>
          let (made, last) := FileAccess.makeDirectory (m := StateM Disk) p after
          orDirectory (m := StateM Disk) p made last
      | (made, after) => orDirectory (m := StateM Disk) p made after := by
  rw [makeChain, if_neg (by simp [notEmpty])]
  simp only [bind, StateT.bind]
  obtain ⟨made, between⟩ := FileAccess.makeDirectory (m := StateM Disk) p d
  cases made with
  | ok done => rfl
  | error fault =>
      cases fault with
      | notFound =>
          simp only [StateT.bind]
          obtain ⟨chain, after⟩ := makeChain (m := StateM Disk) up between
          cases chain with
          | error fault => rfl
          | ok done => rfl
      | _ => rfl

/-- **Making a directory that is there changes nothing**, and succeeds. -/
theorem makeDirectories_of_reaches {d : Disk} {p : Path} {l : Location} (reaches : d.Reaches p l) :
    ∃ after, makeDirectories (m := StateM Disk) p d = (.ok (), after) ∧ (after = d ∨ after = d.tried) := by
  cases isEmpty : p.text.isEmpty with
  | true =>
      refine ⟨d, ?_, .inl rfl⟩
      rw [makeDirectories, makeChain, if_pos isEmpty]
      rfl
  | false =>
      have still := Disk.reaches_tried_iff.2 reaches
      have holds := still.holdsDirectory isEmpty
      refine ⟨d.tried, ?_, .inr rfl⟩
      rw [makeDirectories, makeChain_cons isEmpty]
      cases made : FileAccess.makeDirectory (m := StateM Disk) p d with
      | mk outcome after =>
          cases Disk.attempt_commit made with
          | stopped mishap => simp [orDirectory_eq, holds]
          | refused failed =>
              rw [still.makeDirectory isEmpty] at failed
              cases failed
              simp [orDirectory_eq, holds]
          | done changed =>
              rw [still.makeDirectory isEmpty] at changed
              cases changed

/-- What every made directory keeps, a chain of them keeps. -/
theorem makeChain_kept (kept : Disk → Prop) {paths : List Path}
    (tried : ∀ {between : Disk}, kept between → kept between.tried)
    (step : ∀ q ∈ paths, ∀ {between after : Disk}, kept between → between.makeDirectory q = .ok after →
      kept after) {d : Disk} (start : kept d) : kept (makeChain (m := StateM Disk) paths d).2 := by
  have attempted : ∀ q ∈ paths, ∀ {between : Disk}, kept between →
      kept (FileAccess.makeDirectory (m := StateM Disk) q between).2 := by
    intro q member between holds
    cases made : FileAccess.makeDirectory (m := StateM Disk) q between with
    | mk outcome after =>
        cases Disk.attempt_commit made with
        | stopped mishap => exact tried holds
        | refused failed => exact tried holds
        | done changed => exact step q member (tried holds) changed
  induction paths generalizing d with
  | nil => exact start
  | cons p up ih =>
      cases isEmpty : p.text.isEmpty with
      | true =>
          rw [makeChain, if_pos isEmpty]
          exact start
      | false =>
          have first := attempted p (by simp) start
          rw [makeChain_cons isEmpty]
          cases made : FileAccess.makeDirectory (m := StateM Disk) p d with
          | mk outcome between =>
              rw [made] at first
              split
              · have above := ih (fun q member => step q (by simp [member])) first
                  fun q member => attempted q (by simp [member])
                rename_i same
                obtain ⟨-, rfl⟩ := Prod.mk.inj same
                cases chain : makeChain (m := StateM Disk) up between with
                | mk result after =>
                    rw [chain] at above
                    cases result with
                    | error fault => exact above
                    | ok done =>
                        simp only [orDirectory_eq]
                        exact attempted p (by simp) above
              · rename_i same
                obtain ⟨-, rfl⟩ := Prod.mk.inj same
                simp only [orDirectory_eq]
                exact first

/-! ## The directories above a path -/

theorem plain_of_mem_pieces {cs part : List Char} (member : part ∈ pieces cs) : '/' ∉ part := by
  induction cs generalizing part with
  | nil =>
      obtain rfl : part = [] := by simpa [pieces] using member
      simp
  | cons c cs ih =>
      obtain ⟨piece, rest, behind⟩ := List.exists_cons_of_ne_nil (pieces_ne_nil cs)
      rw [behind] at ih
      by_cases slash : c = '/'
      · rw [slash, pieces_slash_cons, behind] at member
        rcases List.mem_cons.1 member with rfl | later
        · simp
        · exact ih later
      · rw [pieces_cons slash behind] at member
        rcases List.mem_cons.1 member with rfl | later
        · have plain := ih List.mem_cons_self
          simp [Ne.symm slash, plain]
        · exact ih (List.mem_cons_of_mem _ later)

theorem pieces_intercalate {parts : List (List Char)} (nonempty : parts ≠ [])
    (plain : ∀ part ∈ parts, '/' ∉ part) : pieces (['/'].intercalate parts) = parts := by
  induction parts with
  | nil => exact absurd rfl nonempty
  | cons part parts ih =>
      cases parts with
      | nil => simpa [List.intercalate] using pieces_plain (plain part (by simp))
      | cons next parts =>
          have split : ['/'].intercalate (part :: next :: parts) =
              part ++ '/' :: ['/'].intercalate (next :: parts) := by
            simp [List.intercalate]
          rw [split, pieces_slash, pieces_plain (plain part (by simp)),
            ih (by simp) fun other member => plain other (by simp [member])]
          rfl

namespace Path

/-- Parts that a path can be put together from. -/
structure Components.Plain (c : Components) : Prop where
  nonempty : ∀ part ∈ c.parts, part ≠ []
  plain : ∀ part ∈ c.parts, '/' ∉ part

/-- A path with these components has no other parts than empty ones. -/
theorem Components.Plain.exists_pieces {c : Components} (plain : c.Plain) :
    ∃ front back, pieces c.path.text.toList = front ++ c.parts ++ back ∧
      (∀ part ∈ front ++ back, part = []) := by
  have body : ∃ back, pieces (['/'].intercalate c.parts) = c.parts ++ back ∧ ∀ part ∈ back, part = [] := by
    by_cases none_ : c.parts = []
    · exact ⟨[[]], by simp [none_, List.intercalate, pieces], by simp⟩
    · exact ⟨[], by simp [pieces_intercalate none_ plain.plain], by simp⟩
  obtain ⟨back, spelled, empty⟩ := body
  cases rooted : c.rooted with
  | true =>
      refine ⟨[[]], back, ?_, by simpa using empty⟩
      simp [Components.path, rooted, pieces_slash_cons, spelled]
  | false => exact ⟨[], back, by simp [Components.path, rooted, spelled], by simpa using empty⟩

theorem Components.Plain.names_path {c : Components} (plain : c.Plain) :
    names (pieces c.path.text.toList) = names c.parts := by
  obtain ⟨front, back, spelled, empty⟩ := plain.exists_pieces
  have frontEmpty : names front = [] := names_of_empty fun part member => empty part (by simp [member])
  have backEmpty : names back = [] := names_of_empty fun part member => empty part (by simp [member])
  rw [spelled, names_append, names_append, frontEmpty, backEmpty, List.nil_append, List.append_nil]

theorem Components.Plain.isAbsolute_path {c : Components} (plain : c.Plain) :
    c.path.isAbsolute = c.rooted := by
  cases rooted : c.rooted with
  | true => simp [isAbsolute, Components.path, rooted]
  | false =>
      cases parts : c.parts with
      | nil => simp [isAbsolute, Components.path, rooted, parts, List.intercalate]
      | cons part rest =>
          obtain ⟨d, tail, spelled⟩ := List.exists_cons_of_ne_nil (plain.nonempty part (by simp [parts]))
          have other : d ≠ '/' := by
            rintro rfl
            exact plain.plain part (by simp [parts]) (by simp [spelled])
          cases rest with
          | nil => simp [isAbsolute, Components.path, rooted, parts, List.intercalate, spelled, other]
          | cons next rest => simp [isAbsolute, Components.path, rooted, parts, List.intercalate, spelled, other]

theorem mem_pieces_of_mem_components {p : Path} {part : List Char} (member : part ∈ p.components.parts) :
    part ∈ pieces p.text.toList ∧ part ≠ [] := by
  unfold components at member
  dsimp only at member
  split at member
  · rename_i dotted
    simp only [Bool.and_eq_true, beq_iff_eq] at dotted
    rcases List.mem_cons.1 member with rfl | later
    · exact ⟨List.mem_of_mem_head? dotted.2, by simp⟩
    · simp at later
      exact ⟨later.1, later.2.1⟩
  · simp at member
    exact ⟨member.1, member.2.1⟩

theorem names_components (p : Path) : names p.components.parts = names (pieces p.text.toList) := by
  unfold components
  dsimp only
  split
  · rw [← List.singleton_append, names_append, names_still (.inr rfl), List.nil_append, names, names,
      List.filter_filter]
    simp
  · rw [names, names, List.filter_filter]
    simp

theorem plain_take (p : Path) (n : Nat) :
    (Components.mk p.isAbsolute (p.components.parts.take n)).Plain := by
  refine ⟨?_, ?_⟩
  · intro part member
    exact (mem_pieces_of_mem_components (List.mem_of_mem_take member)).2
  · intro part member
    exact plain_of_mem_pieces (mem_pieces_of_mem_components (List.mem_of_mem_take member)).1

theorem exists_take_of_mem_above {p q : Path} (member : q ∈ p.above) :
    ∃ n, q = Components.path ⟨p.isAbsolute, p.components.parts.take n⟩ := by
  obtain ⟨n, -, rfl⟩ := List.mem_map.1 member
  exact ⟨n, rfl⟩

/-- The directories above a path that goes down only are such paths too, -/
theorem Descends.above {p q : Path} (descends : p.Descends) (member : q ∈ p.above) : q.Descends := by
  obtain ⟨n, rfl⟩ := exists_take_of_mem_above member
  obtain ⟨front, back, spelled, empty⟩ := (p.plain_take n).exists_pieces
  have outside : ['.', '.'] ∉ front ++ back := fun parent => List.cons_ne_nil _ _ (empty _ parent)
  rw [Descends, spelled]
  simp only [List.mem_append, not_or] at outside ⊢
  refine ⟨⟨outside.1, ?_⟩, outside.2⟩
  intro parent
  exact descends (mem_pieces_of_mem_components (List.mem_of_mem_take parent)).1

end Path

/-- and they lie on the way to its place. -/
theorem Disk.place_above (d : Disk) {p q : Path} (member : q ∈ p.above) : d.place q <+: d.place p := by
  obtain ⟨n, rfl⟩ := Path.exists_take_of_mem_above member
  have plain := p.plain_take n
  have start : d.start (Path.Components.path ⟨p.isAbsolute, p.components.parts.take n⟩) = d.start p := by
    rw [Disk.start, Disk.start, Disk.startFrom, Disk.startFrom, plain.isAbsolute_path]
  have onTheWay : names (p.components.parts.take n) <+: names p.components.parts := by
    conv => rhs; rw [← List.take_append_drop n p.components.parts, names_append]
    exact List.prefix_append _ _
  rw [Disk.place, Disk.place, start, plain.names_path, ← p.names_components]
  exact (List.prefix_append_right_inj _).2 onTheWay

/-! ## Directories that are missing -/

namespace Disk

variable {d : Disk} {p : Path}

theorem makeDirectory_eq_ok_iff {after : Disk} :
    d.makeDirectory p = .ok after ↔
      ∃ x, d.locateNew false p = .ok x ∧ d.entry? x = none ∧ after = d.insert x .directory := by
  unfold makeDirectory
  constructor
  · intro made
    split at made
    · cases made
    rename_i x found
    split at made
    · cases made
    rename_i absent
    exact ⟨x, found, by simpa using absent, (Except.ok.inj made).symm⟩
  · rintro ⟨x, found, absent, rfl⟩
    rw [found]
    simp [absent]

/-- A new directory is made in another one. -/
theorem Sound.exists_parent_of_locateNew (sound : d.Sound) {follow : Bool} {x : Location}
    (found : d.locateNew follow p = .ok x) (absent : d.entry? x = none) :
    ∃ l name, x = l ++ [name] ∧ d.entry? l = some .directory := by
  rw [locateNew] at found
  split at found
  · cases found
  rename_i notEmpty
  have walks := walk_eq_ok_iff.1 found
  refine sound.exists_parent walks absent ?_
  intro unnamed
  rw [unnamed, d.start_of_named_eq_nil (by simpa using notEmpty) unnamed] at walks
  cases walks
  cases absent

/-- It is made at the place of its path. -/
theorem eq_place_of_locateNew (linkFree : d.LinkFree) (descends : p.Descends) {follow : Bool} {x : Location}
    (found : d.locateNew follow p = .ok x) : x = d.place p := by
  rw [locateNew] at found
  split at found
  · cases found
  obtain ⟨tail, spelled, empty⟩ := p.exists_pieces_eq_named
  have namedDescends : ['.', '.'] ∉ p.named := by
    intro parent
    exact descends (by rw [spelled]; exact List.mem_append_left _ parent)
  rw [(walk_eq_ok_iff.1 found).eq_of_descends linkFree namedDescends, place, spelled, names_append,
    names_of_empty empty, List.append_nil]

/-- The disk has gained directories on the way to `top`, and nothing else has changed. -/
structure Grown (d after : Disk) (top : Location) : Prop where
  sound : after.Sound
  workingDirectory : after.workingDirectory = d.workingDirectory
  entries : ∀ x, after.entry? x = d.entry? x ∨
    (d.entry? x = none ∧ after.entry? x = some .directory ∧ x <+: top)

theorem Sound.grown (sound : d.Sound) (top : Location) : Grown d d top :=
  ⟨sound, rfl, fun _ => .inl rfl⟩

section Grown

variable {between after : Disk} {top x : Location}

theorem Grown.tried (grown : Grown d between top) : Grown d between.tried top :=
  ⟨grown.sound, grown.workingDirectory, grown.entries⟩

theorem Grown.linkFree (grown : Grown d after top) (linkFree : d.LinkFree) : after.LinkFree := by
  rintro x ⟨target, isLink⟩
  rcases grown.entries x with kept | ⟨-, isDirectory, -⟩
  · exact linkFree x ⟨target, kept.symm.trans isLink⟩
  · rw [isLink] at isDirectory
    cases isDirectory

/-- One directory more. -/
theorem Grown.makeDirectory (grown : Grown d between top) (linkFree : d.LinkFree) (descends : p.Descends)
    (onTheWay : between.place p <+: top) (made : between.makeDirectory p = .ok after) :
    Grown d after top := by
  obtain ⟨x, found, absent, rfl⟩ := makeDirectory_eq_ok_iff.1 made
  have isPlace := eq_place_of_locateNew (grown.linkFree linkFree) descends found
  obtain ⟨l, name, rfl, isDirectory⟩ := grown.sound.exists_parent_of_locateNew found absent
  have inserted := between.entry?_insert (l := l ++ [name]) (by simp) .directory
  refine ⟨grown.sound.put isDirectory (by simp [absent]) inserted, grown.workingDirectory, ?_⟩
  intro y
  rw [inserted]
  by_cases same : y = l ++ [name]
  · subst same
    rcases grown.entries (l ++ [name]) with kept | ⟨-, isThere, -⟩
    · exact .inr ⟨kept.symm.trans absent, if_pos rfl, isPlace ▸ onTheWay⟩
    · rw [absent] at isThere
      cases isThere
  · rw [if_neg same]
    exact grown.entries y

/-- What is not on the way is as it was. -/
theorem Grown.entry?_of_not_prefix (grown : Grown d after top) (past : ¬ x <+: top) :
    after.entry? x = d.entry? x := by
  rcases grown.entries x with kept | ⟨-, -, onTheWay⟩
  · exact kept
  · exact absurd onTheWay past

theorem Grown.file (grown : Grown d after top) {content : ByteArray}
    (isFile : d.entry? x = some (.file content)) : after.entry? x = some (.file content) := by
  rcases grown.entries x with kept | ⟨absent, -⟩
  · exact kept.trans isFile
  · rw [absent] at isFile
    cases isFile

end Grown

/-- Directories that are made add no link. -/
theorem Unlinked.makeDirectory {name : String} (unlinked : d.Unlinked name) {after : Disk}
    (made : d.makeDirectory p = .ok after) : after.Unlinked name := by
  obtain ⟨x, found, absent, rfl⟩ := makeDirectory_eq_ok_iff.1 made
  have below : x ≠ [] := by
    rintro rfl
    cases absent
  rintro l ⟨target, isLink⟩
  rw [entry?_insert d below] at isLink
  split at isLink
  · cases isLink
  · exact unlinked l ⟨target, isLink⟩

end Disk

/-- **Making directories adds directories on the way, and changes nothing else.** -/
theorem grown_makeDirectories {d after : Disk} (sound : d.Sound) (linkFree : d.LinkFree) {p : Path}
    (descends : p.Descends) {outcome : Except FileFault Unit}
    (made : makeDirectories (m := StateM Disk) p d = (outcome, after)) : Disk.Grown d after (d.place p) := by
  have step : ∀ q ∈ p :: p.above, ∀ {between after : Disk}, Disk.Grown d between (d.place p) →
      between.makeDirectory q = .ok after → Disk.Grown d after (d.place p) := by
    intro q member between after grown added
    have samePlace : between.place q = d.place q := Disk.place_congr grown.workingDirectory q
    rcases List.mem_cons.1 member with rfl | higher
    · exact grown.makeDirectory linkFree descends (samePlace ▸ List.prefix_rfl) added
    · exact grown.makeDirectory linkFree (descends.above higher) (samePlace ▸ d.place_above higher) added
  have kept := makeChain_kept (fun after => Disk.Grown d after (d.place p)) Disk.Grown.tried step (sound.grown _)
  rwa [← makeDirectories, made] at kept

theorem unlinked_makeDirectories {d after : Disk} {name : String} (unlinked : d.Unlinked name) {p : Path}
    {outcome : Except FileFault Unit} (made : makeDirectories (m := StateM Disk) p d = (outcome, after)) :
    after.Unlinked name := by
  have kept : (makeDirectories (m := StateM Disk) p d).2.Unlinked name :=
    makeChain_kept (fun disk => disk.Unlinked name) id
      (fun _ _ _ _ holds made => Disk.Unlinked.makeDirectory holds made) unlinked
  rwa [made] at kept

end Crosslink.Files

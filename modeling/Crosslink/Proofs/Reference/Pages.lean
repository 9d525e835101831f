/-
# Crosslink.Proofs.Reference.Pages — members link to the page of their namespace

The page of a path is the slugs of its segments, joined by slashes
(`pageOf_joinSegments`). The slug of a segment is a part of an address on its own
(`isPagePart_slug`): the capital it starts with is a letter of the slug, and a
slash, colon, underscore or blank in the slug would stand in the segment. So the
page can be cut at its slashes into the slugs again (`splitOn_page`).

A definition is looked up by its whole name and a member by a name that is cut
into a namespace and the rest, in a way that depends on its form and spelling.
Both ask `pageOf` for the page of the same namespace.

Main theorem: `members_link_to_page_of_space`.
-/
import Crosslink.Proofs.Reference.Resolution
import Crosslink.Proofs.Reference.Slugs

namespace Crosslink.Reference

open Crosslink.Text
open Crosslink.Symbols

set_option autoImplicit false

variable {s : List Char} {ss : List (List Char)} {form : Form}

/-! ## Parts of a page -/

/-- What may stand between two slashes of a page. -/
structure IsPagePart (part : List Char) : Prop where
  nonempty : part ≠ []
  hyphenated : IsHyphenated part
  plain : ∀ c ∈ part, c ≠ '_' ∧ c ≠ ':' ∧ isBlank c = false

theorem mem_slug {d : Char} (member : d ∈ slug s) (solid : d ≠ '-') :
    isBreak d = false ∧ ∃ c ∈ s, d ∈ lower c := by
  have kept : d ∈ (slug s).filter (· ≠ '-') := List.mem_filter.2 ⟨member, by simpa using solid⟩
  rw [filter_slug] at kept
  obtain ⟨c, inText, inLower⟩ := List.mem_flatMap.1 kept
  obtain ⟨inText, letter⟩ := List.mem_filter.1 inText
  exact ⟨isBreak_of_mem_lower (by simpa using letter) inLower, c, inText, inLower⟩

/-- A letter is written in the slug. -/
theorem slug_ne_nil {c : Char} (member : c ∈ s) (letter : isBreak c = false) : slug s ≠ [] := by
  intro empty
  have written := filter_slug s
  rw [empty, List.filter_nil, eq_comm, lowerAll_eq_nil_iff] at written
  exact List.filter_eq_nil_iff.1 written c member (by simp [letter])

/-- The slug of a segment holds none of the characters that stand around segments. -/
theorem plain_of_mem_slug (segment : isSegment s = true) {d : Char} (member : d ∈ slug s) :
    d ≠ '/' ∧ d ≠ '_' ∧ d ≠ ':' ∧ isBlank d = false := by
  by_cases solid : d = '-'
  · subst solid
    decide
  · obtain ⟨letter, c, inText, inLower⟩ := mem_slug member solid
    -- A character that lower case does not make stands in the segment.
    have inside : d.toNat ∈ keptPoints → d ∈ s := fun kept =>
      eq_of_mem_lower inLower kept ▸ inText
    have reference := isReferenceChar_of_isSegment segment
    refine ⟨?_, ?_, ?_, ?_⟩
    · rintro rfl
      exact absurd (reference '/' (inside (by decide))) (by decide +kernel)
    · rintro rfl
      cases letter
    · rintro rfl
      exact isBare_of_isSegment segment ':' (inside (by decide)) (by decide)
    · cases blank : isBlank d with
      | false => rfl
      | true =>
          have kept : d.toNat ∈ keptPoints :=
            List.mem_append_right _ (toNat_mem_blankPoints blank)
          exact blank ▸ isBlank_eq_false_of_isReferenceChar (reference d (inside kept))

theorem isPagePart_slug (segment : isSegment s = true) : IsPagePart (slug s) where
  nonempty := by
    cases s with
    | nil => cases segment
    | cons c cs =>
        simp only [isSegment, Bool.and_eq_true] at segment
        have letter : isBreak c = false := by
          rw [← Bool.not_eq_true, isBreak_iff]
          rintro (rfl | rfl) <;> exact absurd segment.1 (by decide)
        exact slug_ne_nil (by simp) letter
  hyphenated := isHyphenated_slug s
  plain := fun _ member => (plain_of_mem_slug segment member).2

/-! ## Pages -/

theorem pageOf_joinSegments (nonempty : ss ≠ []) (isSegments : ∀ s ∈ ss, isSegment s = true) :
    pageOf (joinSegments ss) = ['/'].intercalate (ss.map slug) := by
  have noColon : ∀ s ∈ ss, ':' ∉ s := fun s member colon =>
    isBare_of_isSegment (isSegments s member) ':' colon (by decide)
  have kept : ss.filter (fun s => !s.isEmpty) = ss := by
    apply List.filter_eq_self.2
    intro s member
    cases s with
    | nil => cases isSegments [] member
    | cons c cs => rfl
  rw [pageOf, segments_joinSegments nonempty noColon, kept]

/-- A page is cut at its slashes into the slugs it was made of. -/
theorem splitOn_page (nonempty : ss ≠ []) (isSegments : ∀ s ∈ ss, isSegment s = true) :
    (pageOf (joinSegments ss)).splitOn '/' = ss.map slug := by
  rw [pageOf_joinSegments nonempty isSegments]
  apply List.splitOn_intercalate
  · intro part member slash
    obtain ⟨s, inPath, rfl⟩ := List.mem_map.1 member
    exact (plain_of_mem_slug (isSegments s inPath) slash).1 rfl
  · simpa using nonempty

theorem isPagePart_of_mem (isSegments : ∀ s ∈ ss, isSegment s = true) :
    ∀ part ∈ ss.map slug, IsPagePart part := by
  intro part member
  obtain ⟨s, inPath, rfl⟩ := List.mem_map.1 member
  exact isPagePart_slug (isSegments s inPath)

theorem pageOf_ne_nil (nonempty : ss ≠ []) (isSegments : ∀ s ∈ ss, isSegment s = true) :
    pageOf (joinSegments ss) ≠ [] := by
  intro empty
  have parts := splitOn_page nonempty isSegments
  rw [empty, List.splitOn_nil] at parts
  exact (isPagePart_of_mem isSegments [] (by simp [← parts])).nonempty rfl

/-- Of the two names that a link is made from, one has a page. -/
theorem pageFor_eq_some {full space page : List Char} (nonempty : page ≠ [])
    (isPage : pageOf (if form = .definition then full else space) = page) :
    pageFor form full space = some (String.ofList page) := by
  obtain ⟨c, cs, rfl⟩ := List.exists_cons_of_ne_nil nonempty
  rw [pageFor, isPage]

/-! ## Links -/

/-- At top level a recorded path links to its own page. -/
theorem page_of_definition {symbols : List Symbol} {title : String}
    (structured : classify title = some .definition) (path : isPath title.toList = true)
    (recorded : Recorded symbols .definition title.toList) (nonempty : pageOf title.toList ≠ [])
    (shown : Option String) :
    (resolve symbols title "" shown).page = some (String.ofList (pageOf title.toList)) := by
  have unmarked : ¬ scopeMark <+: title.toList := not_scopeMark_isPrefix (IsSpace.head (.inr path))
  have language : Form.language .definition title.toList = true := by
    show isPath (dropScopeMark title.toList) = true
    rw [dropScopeMark_eq_self unmarked, path]
  have body := bodyOf_eq_toList language
  have top : ¬ RecordedBelow symbols .definition [] title.toList := not_recordedBelow_nil
  have located := locateName_of_not_recordedBelow top
  have found : (findAs symbols .definition title.toList).isSome = true :=
    isSome_findAs_iff.2 recorded
  rw [labelOf_eq_self _ unmarked, lookupName_eq_self unmarked, found] at located
  rw [Tag.page, resolve_structured structured, body]
  show (resolveBody symbols .definition [] title.toList).page = _
  rw [resolveBody, located]
  exact pageFor_eq_some nonempty rfl

/-- The namespace of a structured reference is the one it was written with, below its parent when it
was found there. -/
theorem exists_space {text parent : String} (symbols : List Symbol)
    (structured : classify text = some form) (enclosing : IsSpace parent.toList)
    (shown : Option String) :
    ∃ r space name, (resolve symbols text parent shown).resolution = some r ∧
      Reads form (dropScopeMark (bodyOf text)) space name ∧
      r.space.toList = (if r.relative then within parent.toList space else space) ∧
      (r.found = true → ∃ full, r.page = pageFor form full r.space.toList) := by
  obtain ⟨space, name, reads, calls⟩ := exists_reads structured
  obtain ⟨full, relative, found, located, fullCalls, -, -⟩ :=
    locateName_spec symbols enclosing reads calls
  refine ⟨_, space, name, resolve_structured structured symbols parent shown, reads, ?_, ?_⟩
  · simp [resolveBody, located, fullCalls.cutFull]
  · intro hit
    refine ⟨full, ?_⟩
    simp only [resolveBody, located, fullCalls.cutFull] at hit ⊢
    simp [hit]

/-- **Members link to the page of the namespace that holds them.** The page of a recorded path has
the slugs of its segments between its slashes, each of them a well-formed part. Any constant or
method that was found, however it is spelled and wherever it is written, links to that same page
when the path is its namespace: the one it is written with, below its parent when it was found
there. -/
theorem members_link_to_page_of_space (symbols : List Symbol) (ss : List (List Char))
    (title : String) (isSegments : ∀ s ∈ ss, isSegment s = true)
    (titled : title.toList = joinSegments ss) (structured : classify title = some .definition)
    (recorded : Recorded symbols .definition title.toList) :
    ∃ page : String, (∀ shown, (resolve symbols title "" shown).page = some page) ∧
      page.toList.splitOn '/' = ss.map slug ∧
      (∀ part ∈ ss.map slug, IsPagePart part) ∧
      ∀ (text parent : String) (shown : Option String) (form : Form), classify text = some form →
        form ≠ .definition → IsSpace parent.toList →
        let tag := resolve symbols text parent shown
        ∃ r space name, tag.resolution = some r ∧
          Reads form (dropScopeMark (bodyOf text)) space name ∧
          r.space.toList = (if tag.relative then within parent.toList space else space) ∧
          (tag.found = true → r.space = title → tag.page = some page) := by
  have nonempty : ss ≠ [] := by
    rintro rfl
    obtain rfl : title = "" := String.toList_eq_nil_iff.1 titled
    exact absurd structured (by decide)
  have path : isPath title.toList = true := isPath_iff.2 ⟨ss, nonempty, isSegments, titled.symm⟩
  have isPage : pageOf title.toList ≠ [] := titled ▸ pageOf_ne_nil nonempty isSegments
  refine ⟨String.ofList (pageOf title.toList),
    page_of_definition structured path recorded isPage, ?_, isPagePart_of_mem isSegments, ?_⟩
  · rw [String.toList_ofList, titled]
    exact splitOn_page nonempty isSegments
  · intro text parent shown form isMember notDefinition enclosing
    obtain ⟨r, space, name, resolution, reads, isSpace, links⟩ :=
      exists_space symbols isMember enclosing shown
    refine ⟨r, space, name, resolution, reads, ?_, ?_⟩
    · simpa [Tag.relative, resolution] using isSpace
    · intro found isTitle
      obtain ⟨full, page⟩ := links (by simpa [Tag.found, resolution] using found)
      rw [isTitle] at page
      rw [Tag.page, resolution]
      exact page.trans (pageFor_eq_some isPage (by rw [if_neg notDefinition]))

/-- A class method in the older spelling, found below the namespace it is written in. -/
theorem members_link_to_page_of_space_relative :
    classify "Foo::IOBar" = some .definition ∧ classify " IOBar::run! " = some .classMethod ∧
      ∃ page : String, page.toList.splitOn '/' = ["foo".toList, "io-bar".toList] ∧
        (resolve [.plain .classDef "Foo::IOBar", .method "Foo::IOBar.run!" .onClass]
          "Foo::IOBar" "" none).page = some page ∧
        (resolve [.plain .classDef "Foo::IOBar", .method "Foo::IOBar.run!" .onClass]
          " IOBar::run! " "Foo" none).page = some page := by
  have structured : classify "Foo::IOBar" = some .definition := by decide
  have isMember : classify " IOBar::run! " = some .classMethod := by decide
  obtain ⟨page, own, parts, -, members⟩ := members_link_to_page_of_space
    [.plain .classDef "Foo::IOBar", .method "Foo::IOBar.run!" .onClass]
    ["Foo".toList, "IOBar".toList] "Foo::IOBar" (by decide) (by decide) structured
    ⟨.plain .classDef "Foo::IOBar", by simp, .inr rfl, rfl⟩
  obtain ⟨r, space, name, resolution, -, -, links⟩ := members " IOBar::run! " "Foo" none
    .classMethod isMember (by decide) (.inr (by decide))
  have found : (resolve [.plain .classDef "Foo::IOBar", .method "Foo::IOBar.run!" .onClass]
      " IOBar::run! " "Foo" none).resolution.map (fun r => r.space) =
        some "Foo::IOBar" := by decide
  rw [resolution] at found
  refine ⟨structured, isMember, page, ?_, own none, links (by decide) (Option.some.inj found)⟩
  rw [parts]
  decide +kernel

end Crosslink.Reference

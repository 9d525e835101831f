/-
# Crosslink.Proofs.Symbols.MethodTitles — one title for all spellings of a method

A query turns the spellings of a method into its title by cutting at the last
`::`. What it takes for a method's name starts like one and holds no `::`
(`IsMethodLike`); colons, dots and blanks may stand in it otherwise. So the last
`::` of `space::name` stands right before the name, whatever the space is
(`cutMethod?_scoped`), and where a dot stands before the name instead, what
follows the last `::` starts with the capital letter of a segment, and nothing
is cut (`cutMethod?_dotted`).

The cut does not look for a dot first. So a name that does not start with one is
looked up as it is exactly when it is not in the older spelling
(`IsOlderSpelling`), wherever its dots stand: behind a segment in small letters
the `::` of `Foo::bar.baz` is taken for the mark before a method.

Main theorems: `find_spellings_alike`, `findClassMethod_exact_iff`.
-/
import Crosslink.Proofs.Reference.Names
import Crosslink.Symbols.Query

namespace Crosslink.Symbols

open Crosslink.Text
open Crosslink.Reference

set_option autoImplicit false

/-- What the queries take for the name of a method. -/
structure IsMethodLike (name : List Char) : Prop where
  start : ∃ c rest, name = c :: rest ∧ (c.isLower = true ∨ c = '_')
  unmarked : ¬ scopeMark <:+: name

theorem isMethodLike_of_isMethodName {name : List Char} (method : isMethodName name = true) :
    IsMethodLike name := by
  constructor
  · cases name with
    | nil => cases method
    | cons c rest =>
        simp only [isMethodName, Bool.and_eq_true, Bool.or_eq_true, beq_iff_eq] at method
        exact ⟨c, rest, rfl, method.1⟩
  · apply not_infix_of_no_colon
    intro colon
    exact isBare_of_isMethodName method ':' colon (by decide)

theorem IsMethodLike.head {name : List Char} (method : IsMethodLike name) :
    name.head? ≠ some ':' := by
  obtain ⟨c, rest, rfl, first⟩ := method.start
  intro colon
  obtain rfl : c = ':' := by simpa using colon
  exact absurd first (by decide)

theorem within_ne_nil {last : List Char} (segment : isSegment last = true) (outer : List Char) :
    within outer last ≠ [] := by
  intro empty
  rw [(within_eq_nil_iff.1 empty).2] at segment
  cases segment

/-! ## Cuts -/

/-- Behind any space and `::`, the name is cut off. -/
theorem cutMethod?_scoped {name : List Char} (method : IsMethodLike name) (space : List Char) :
    cutMethod? (space ++ scopeMark ++ name) = some (space, name) := by
  unfold cutMethod?
  rw [cutLast_scopeMark_of_head method.unmarked method.head]
  obtain ⟨c, rest, rfl, first⟩ := method.start
  have taken : (c.isLower || c == '_') = true := by simpa using first
  simp only [taken, if_true]

/-- The cut gives what stands around the last `::`, if a name of a method can follow it. -/
theorem cutMethod?_eq_some_iff {name space method : List Char} :
    cutMethod? name = some (space, method) ↔
      IsMethodLike method ∧ name = space ++ scopeMark ++ method := by
  constructor
  · intro cut
    unfold cutMethod? at cut
    split at cut
    · rename_i before c rest around
      by_cases first : (c.isLower || c == '_') = true
      · rw [if_pos first] at cut
        obtain ⟨rfl, rfl⟩ : before = space ∧ c :: rest = method := by simpa using cut
        have start : c.isLower = true ∨ c = '_' := by simpa using first
        exact ⟨⟨⟨c, rest, rfl, start⟩, not_infix_of_cutLast (by decide) around⟩, eq_of_cutLast around⟩
      · rw [if_neg first] at cut
        cases cut
    · cases cut
  · rintro ⟨method, rfl⟩
    exact cutMethod?_scoped method space

/-- Behind a segment and a dot, it is not. -/
theorem cutMethod?_dotted {last name : List Char} (segment : isSegment last = true)
    (unmarked : ¬ scopeMark <:+: name) (outer : List Char) :
    cutMethod? (within outer last ++ '.' :: name) = none := by
  have noColon : ':' ∉ last := fun colon => isBare_of_isSegment segment ':' colon (by decide)
  have uncut : ¬ scopeMark <:+: last ++ '.' :: name := by
    have dotted : ¬ scopeMark <:+: last ++ ['.'] ++ name :=
      not_infix_append (by simp [noColon]) unmarked
    simpa using dotted
  unfold cutMethod?
  by_cases top : outer = []
  · rw [top, within_nil_left, cutLast_eq_none_of_not_infix uncut]
  · cases last with
    | nil => cases segment
    | cons d ds =>
        have upper : d.isUpper = true := by
          simp only [isSegment, Bool.and_eq_true] at segment
          exact segment.1
        have notColon : d ≠ ':' := by
          rintro rfl
          exact absurd upper (by decide)
        have notLow : d ≠ '_' := by
          rintro rfl
          exact absurd upper (by decide)
        rw [within_eq top (by simp), List.append_assoc,
          cutLast_scopeMark_of_head uncut (by simpa using notColon)]
        simp [not_isLower_of_isUpper upper, notLow]

/-! ## Titles -/

theorem classTitle_eq {name : List Char} (notDot : name.head? ≠ some '.') :
    classTitle name =
      match cutMethod? name with
      | some ([], _) => name
      | some (space, method) => space ++ '.' :: method
      | none => name := by
  unfold classTitle
  split
  · exact absurd rfl notDot
  · rfl

/-- A class method in the older spelling. -/
theorem classTitle_scoped {space name : List Char} (method : IsMethodLike name)
    (nonempty : space ≠ []) (notDot : space.head? ≠ some '.') :
    classTitle (space ++ scopeMark ++ name) = space ++ '.' :: name := by
  obtain ⟨c, rest, rfl⟩ := List.exists_cons_of_ne_nil nonempty
  rw [classTitle_eq (by simpa using notDot), cutMethod?_scoped method]

theorem classTitle_scoped_top {name : List Char} (method : IsMethodLike name) :
    classTitle (scopeMark ++ name) = scopeMark ++ name := by
  have cut := cutMethod?_scoped method []
  rw [List.nil_append] at cut
  rw [classTitle_eq (by simp [scopeMark]), cut]

/-- A class method written with a dot has the title it is written with. -/
theorem classTitle_dotted {outer last name : List Char} (segment : isSegment last = true)
    (unmarked : ¬ scopeMark <:+: name) (notDot : (within outer last).head? ≠ some '.') :
    classTitle (within outer last ++ '.' :: name) = within outer last ++ '.' :: name := by
  have head : (within outer last ++ '.' :: name).head? ≠ some '.' := by
    rwa [List.head?_append_of_ne_nil _ (within_ne_nil segment outer)]
  rw [classTitle_eq head, cutMethod?_dotted segment unmarked]

theorem instanceTitle_scoped {space name : List Char} (method : IsMethodLike name)
    (outside : '#' ∉ space) (inside : '#' ∉ name) :
    instanceTitle (space ++ scopeMark ++ name) = space ++ '#' :: name := by
  have absent : '#' ∉ space ++ scopeMark ++ name := by
    simp [outside, inside, scopeMark]
  rw [instanceTitle, if_neg absent, cutMethod?_scoped method]

theorem instanceTitle_hash (space name : List Char) :
    instanceTitle (space ++ '#' :: name) = space ++ '#' :: name := by
  simp [instanceTitle]

/-- The older spelling of a class method: something, `::`, and a name like that of a method. -/
def IsOlderSpelling (name : List Char) : Prop :=
  ∃ space method, space ≠ [] ∧ IsMethodLike method ∧ name = space ++ scopeMark ++ method

/-- A name that does not start with a dot is a title, unless it is in the older spelling. -/
theorem classTitle_eq_self_iff {name : List Char} (notDot : name.head? ≠ some '.') :
    classTitle name = name ↔ ¬ IsOlderSpelling name := by
  constructor
  · rintro same ⟨space, method, inside, methodLike, rfl⟩
    rw [List.append_assoc, List.head?_append_of_ne_nil _ inside] at notDot
    rw [classTitle_scoped methodLike inside notDot] at same
    have lengths := congrArg List.length same
    simp only [scopeMark, List.length_append, List.length_cons, List.length_nil] at lengths
    omega
  · intro notOlder
    rw [classTitle_eq notDot]
    cases cut : cutMethod? name with
    | none => rfl
    | some parts =>
        obtain ⟨space, method⟩ := parts
        obtain ⟨methodLike, whole⟩ := cutMethod?_eq_some_iff.1 cut
        cases space with
        | nil => rfl
        | cons c rest => exact absurd ⟨c :: rest, method, by simp, methodLike, whole⟩ notOlder

/-! ## Records -/

/-- Behind a space that ends in a segment, both spellings of a class method find the record with the
dotted title. -/
theorem findClassMethod_spellings {outer last name : List Char} (symbols : List Symbol)
    (method : IsMethodLike name) (segment : isSegment last = true)
    (notDot : (within outer last).head? ≠ some '.') :
    findClassMethod symbols (within outer last ++ scopeMark ++ name) =
        findTitled symbols (within outer last ++ '.' :: name) (fun s => s.isMethodIn .onClass) ∧
      findClassMethod symbols (within outer last ++ scopeMark ++ name) =
        findClassMethod symbols (within outer last ++ '.' :: name) := by
  have older := classTitle_scoped method (within_ne_nil segment outer) notDot
  have dotted := classTitle_dotted segment method.unmarked notDot
  exact ⟨by rw [findClassMethod, older], by rw [findClassMethod, findClassMethod, older, dotted]⟩

/-- **All spellings of a method find its record.** `space::name` finds the instance method titled
`space#name`, as `space#name` does, and the class method titled `space.name`, as `space.name` does;
at top level `::name` and `.name` find the class method titled `::name`. -/
theorem find_spellings_alike (symbols : List Symbol) (name : List Char) (method : IsMethodLike name)
    (noHash : '#' ∉ name) :
    (∀ space : List Char, '#' ∉ space →
      findInstanceMethod symbols (space ++ scopeMark ++ name) =
          findTitled symbols (space ++ '#' :: name) (fun s => s.isMethodIn .onInstance) ∧
        findInstanceMethod symbols (space ++ scopeMark ++ name) =
          findInstanceMethod symbols (space ++ '#' :: name) ∧
        isInstanceAttribute symbols (space ++ scopeMark ++ name) =
          isInstanceAttribute symbols (space ++ '#' :: name)) ∧
      (∀ space : List Char, isPath space = true →
        findClassMethod symbols (space ++ scopeMark ++ name) =
            findTitled symbols (space ++ '.' :: name) (fun s => s.isMethodIn .onClass) ∧
          findClassMethod symbols (space ++ scopeMark ++ name) =
            findClassMethod symbols (space ++ '.' :: name)) ∧
      findClassMethod symbols (scopeMark ++ name) =
          findTitled symbols (scopeMark ++ name) (fun s => s.isMethodIn .onClass) ∧
        findClassMethod symbols (scopeMark ++ name) = findClassMethod symbols ('.' :: name) := by
  refine ⟨fun space outside => ?_, fun space path => ?_, ?_⟩
  · have older := instanceTitle_scoped method outside noHash
    have same : findInstanceMethod symbols (space ++ scopeMark ++ name) =
        findInstanceMethod symbols (space ++ '#' :: name) := by
      rw [findInstanceMethod, findInstanceMethod, older, instanceTitle_hash]
    exact ⟨by rw [findInstanceMethod, older], same, by
      rw [isInstanceAttribute, isInstanceAttribute, same]⟩
  · obtain ⟨outer, last, -, segment, whole⟩ := within_of_isPath path
    have notDot : space.head? ≠ some '.' := fun head =>
      IsSpace.not_mem (.inr path) (by decide) (by decide) (List.mem_of_head? head)
    rw [whole] at notDot ⊢
    exact findClassMethod_spellings symbols method segment notDot
  · have older := classTitle_scoped_top method
    refine ⟨by rw [findClassMethod, older], ?_⟩
    rw [findClassMethod, findClassMethod, older]
    rfl

/-- Three colons in a row and one at the end: the last `::` is the one before the name. -/
theorem find_spellings_alike_colons :
    IsMethodLike "run:".toList ∧ '#' ∉ "run:".toList ∧
      findInstanceMethod [.accessor ":#run:" .onInstance] ":::run:".toList =
        some (.accessor ":#run:" .onInstance) := by
  have method : IsMethodLike "run:".toList := ⟨⟨'r', "un:".toList, rfl, by decide⟩, by decide⟩
  refine ⟨method, by decide, ?_⟩
  have found := (find_spellings_alike [.accessor ":#run:" .onInstance] "run:".toList method
    (by decide)).1 [':'] (by decide)
  exact found.2.1.trans (by decide)

/-- A title that finds what another title finds, in every table, is that title. -/
theorem eq_of_findTitled_eq {title other : List Char}
    (alike : ∀ symbols, findTitled symbols title (fun s => s.isMethodIn .onClass) =
      findTitled symbols other (fun s => s.isMethodIn .onClass)) : title = other := by
  have found := alike [.method (String.ofList other) .onClass]
  have there : findTitled [.method (String.ofList other) .onClass] other
      (fun s => s.isMethodIn .onClass) = some (.method (String.ofList other) .onClass) := by
    simp [findTitled, Symbol.method, Symbol.isMethodIn]
  rw [there] at found
  have accepted := List.find?_some found
  simp only [Symbol.method, Bool.and_eq_true, beq_iff_eq] at accepted
  exact (String.ofList_injective accepted.1).symm

/-- **A class method is looked up under the name as it is written, unless that is the older spelling.**
Of the names that do not start with a dot, those in the older spelling are looked up with a dot for
their last `::`, and every other name finds the first method on a class with that very title. A dot
elsewhere in the name does not matter. -/
theorem findClassMethod_exact_iff (name : List Char) (notDot : name.head? ≠ some '.') :
    ((∀ symbols, findClassMethod symbols name =
        findTitled symbols name (fun s => s.isMethodIn .onClass)) ↔ ¬ IsOlderSpelling name) ∧
      ∀ space method, space ≠ [] → IsMethodLike method → name = space ++ scopeMark ++ method →
        ∀ symbols, findClassMethod symbols name =
          findTitled symbols (space ++ '.' :: method) (fun s => s.isMethodIn .onClass) := by
  constructor
  · rw [← classTitle_eq_self_iff notDot]
    constructor
    · intro alike
      exact eq_of_findTitled_eq alike
    · intro title symbols
      rw [findClassMethod, title]
  · rintro space method inside methodLike rfl symbols
    rw [List.append_assoc, List.head?_append_of_ne_nil _ inside] at notDot
    rw [findClassMethod, classTitle_scoped methodLike inside notDot]

/-- A name with a dot behind its last `::` finds a record of another title. -/
theorem findClassMethod_exact_iff_small_segment :
    "Foo::bar.baz".toList.head? ≠ some '.' ∧
      findClassMethod [.method "Foo::bar.baz" .onClass, .method "Foo.bar.baz" .onClass]
        "Foo::bar.baz".toList = some (.method "Foo.bar.baz" .onClass) := by
  have methodLike : IsMethodLike "bar.baz".toList :=
    ⟨⟨'b', "ar.baz".toList, by decide, by decide⟩, not_infix_of_no_colon (by decide)⟩
  have looked := (findClassMethod_exact_iff "Foo::bar.baz".toList (by decide)).2 "Foo".toList
    "bar.baz".toList (by decide) methodLike (by decide)
  exact ⟨by decide, (looked _).trans (by decide)⟩

/-- Not every name with a dot inside is looked up as it is: the method titled `Foo::bar.baz` is not
found under its title. -/
theorem dotted_class_method_missed :
    ¬ ∀ (symbols : List Symbol) (name : List Char), '.' ∈ name → name.head? ≠ some '.' →
      findClassMethod symbols name = findTitled symbols name (fun s => s.isMethodIn .onClass) := by
  intro always
  have found := always [.method "Foo::bar.baz" .onClass] "Foo::bar.baz".toList (by decide) (by decide)
  exact absurd found (by decide)

end Crosslink.Symbols

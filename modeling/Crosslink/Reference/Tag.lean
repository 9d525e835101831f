/-
# Crosslink.Reference.Tag — references as they stand in a comment

A tag is a reference text, the namespace it was written in, an optional text to
show in its place, and what the reference resolves to. Unstructured text
resolves to nothing and is shown as it is. The body of a see-also comment is a
reference, then blanks, then the text to show.
-/
import Crosslink.Reference.Resolution

namespace Crosslink.Reference

open Crosslink.Text
open Crosslink.Symbols

structure Tag where
  nativeText : String
  parent : String
  shownText : Option String
  resolution : Option Resolution
deriving DecidableEq, Repr

namespace Tag

/-- The word for the kind of a tag. -/
def kind (t : Tag) : String := (t.resolution.map fun r => r.form.text).getD "unstructured"

def reference (t : Tag) : String := (t.resolution.map fun r => r.label).getD t.nativeText

def found (t : Tag) : Bool := t.resolution.any fun r => r.found

def relative (t : Tag) : Bool := t.resolution.any fun r => r.relative

def page (t : Tag) : Option String := t.resolution.bind fun r => r.page

def category (t : Tag) : String := (t.resolution.map fun r => r.category.text).getD "unstructured"

/-- The text to show: the given one, else the reference. -/
def label (t : Tag) : String := t.shownText.getD t.reference

end Tag

/-- A text to show, trimmed; a blank one counts as none. -/
def shownTextOf (shown : Option String) : Option String :=
  match shown.map fun s => trim s.toList with
  | some [] => none
  | some cs => some (String.ofList cs)
  | none => none

/-- Classifies a reference written inside `parent` and looks it up. -/
def resolve (symbols : List Symbol) (text parent : String) (shown : Option String) : Tag :=
  { nativeText := text
    parent
    shownText := shownTextOf shown
    resolution := (classify text).map fun form =>
      resolveBody symbols form parent.toList (bodyOf text) }

/-- The reference of a see-also body and the text after it. -/
def splitSeeBody (body : String) : String × Option String :=
  let cs := trim body.toList
  let reference := cs.takeWhile fun c => !isBlank c
  match trim (cs.drop reference.length) with
  | [] => (String.ofList reference, none)
  | shown => (String.ofList reference, some (String.ofList shown))

/-- Resolves a see-also body written inside `parent`. -/
def resolveSee (symbols : List Symbol) (body parent : String) : Tag :=
  let (reference, shown) := splitSeeBody body
  resolve symbols reference parent shown

end Crosslink.Reference

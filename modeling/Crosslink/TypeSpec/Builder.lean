/-
# Crosslink.TypeSpec.Builder — from outlines to type expressions

A type specifier is read as an outline first, and its expressions are built from
the outline node by node. The label of a node says what it stands for: a name for
a basic type, a list for the types of its first child and then those of its
second, and the others for a type with the children as its inner types. A node
without a child that it needs stands for nothing.
-/
import Crosslink.Text.Blank
import Crosslink.TypeSpec.Expr
import Crosslink.TypeSpec.Reader

namespace Crosslink.TypeSpec

open Crosslink.Text

/-- What a node of an outline stands for. -/
inductive NodeKind where
  | basic
  | collection (ordered : Bool)
  | mapping
  | sequence

/-- What the nodes of each label stand for. -/
def nodeKinds : List (OutlineLabel × NodeKind) :=
  [(.list, .sequence), (.collection, .collection false), (.ordered, .collection true),
    (.mapping, .mapping), (.name, .basic)]

/-- The expressions that an outline stands for. -/
def Outline.build : Outline → Except Fault (List Expr)
  | .node label text offset children =>
    match nodeKinds.lookup label, children with
    | none, _ => .error ⟨.noKind label, offset⟩
    | some .basic, _ => .ok [.basic (String.ofList (trim text.toList))]
    | some (.collection ordered), items :: _ =>
      (build items).map fun es => [.collection text es ordered]
    | some .mapping, keys :: values :: _ =>
      (build keys).bind fun ks => (build values).map fun vs => [.mapping text ks vs]
    | some .mapping, [keys] =>
      (build keys).bind fun _ => .error ⟨.missingChild label 1, offset⟩
    | some .sequence, head :: tail :: _ =>
      (build head).bind fun es => (build tail).map fun fs => es ++ fs
    | some .sequence, [head] => build head
    | some _, [] => .error ⟨.missingChild label 0, offset⟩

/-! ## Texts -/

/-- The type expressions of a text; a blank text has none. -/
def parse (opts : Options) (text : String) : Except ParseError (List Expr) :=
  (outline opts text).bind fun
    | none => .ok []
    | some root => root.build.mapError fun fault => ⟨fault, text⟩

/-- The type expressions of an annotation that may be missing. -/
def parseOptional (opts : Options) : Option String → Except ParseError (List Expr)
  | some text => parse opts text
  | none => .ok []

/-- The type expressions of a text, and none when it is malformed. -/
def parseLenient (opts : Options) (text : String) : List Expr :=
  match parse opts text with
  | .ok exprs => exprs
  | .error _ => []

end Crosslink.TypeSpec

/-
# Crosslink.Project.Report — results as JSON values

The members of every object stand in a fixed order, with the kind first;
members without a value are left out.
-/
import Crosslink.Json.Value
import Crosslink.Reference.Tag
import Crosslink.TypeSpec.Expr

namespace Crosslink.Project

open Crosslink.Json (Value)
open Crosslink.Reference (Tag Resolution)
open Crosslink.TypeSpec (Expr)

mutual

/-- A type expression as a value. -/
def exprValue : Expr → Value
  | .basic name => .object [("kind", .text "basic"), ("name", .text name)]
  | .collection name items ordered =>
    .object [("kind", .text "parameterized"), ("name", .text name),
      ("items", .list (exprValues items)), ("ordered", .bool ordered)]
  | .mapping name keys values =>
    .object [("kind", .text "key_value"), ("name", .text name),
      ("keys", .list (exprValues keys)), ("values", .list (exprValues values))]

def exprValues : List Expr → List Value
  | [] => []
  | e :: es => exprValue e :: exprValues es

end

/-- A member that may be missing. -/
def member? (name : String) (text : Option String) : List (String × Value) :=
  match text with
  | some text => [(name, .text text)]
  | none => []

def resolutionMembers (r : Resolution) : List (String × Value) :=
  [("reference", .text r.label), ("namespace", .text r.space), ("reference_name", .text r.name),
    ("relative", .bool r.relative), ("exists", .bool r.found)] ++
    member? "path" r.page ++ [("category", .text r.category.text)]

/-- A tag as a value. -/
def tagValue (t : Tag) : Value :=
  .object ([("kind", .text t.kind), ("native_text", .text t.nativeText),
    ("parent_namespace", .text t.parent)] ++ member? "display_text" t.shownText ++
    (t.resolution.map resolutionMembers).getD [])

end Crosslink.Project

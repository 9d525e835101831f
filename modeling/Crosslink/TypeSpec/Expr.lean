/-
# Crosslink.TypeSpec.Expr — type expressions and their canonical text

A type expression is a plain name, a collection of item types, or a mapping
from key types to value types. Several spellings are read as one expression;
`display` writes the canonical one: `Name`, `Name<A, B>`, `Name(A, B)` when the
items are ordered, and a brace form with an arrow for a mapping.
-/

namespace Crosslink.TypeSpec

inductive Expr where
  | basic (name : String)
  | collection (name : String) (items : List Expr) (ordered : Bool)
  | mapping (name : String) (keys values : List Expr)
deriving Inhabited, Repr

namespace Expr

/-- The outermost name. -/
def name : Expr → String
  | .basic name => name
  | .collection name _ _ => name
  | .mapping name _ _ => name

mutual

/-- The canonical text of an expression. -/
def display : Expr → String
  | .basic name => name
  | .collection name items false => name ++ "<" ++ displayList items ++ ">"
  | .collection name items true => name ++ "(" ++ displayList items ++ ")"
  | .mapping name keys values =>
    name ++ "\x7b" ++ displayList keys ++ " => " ++ displayList values ++ "\x7d"

/-- The canonical texts of a list, joined by a comma and a space. -/
def displayList : List Expr → String
  | [] => ""
  | [e] => display e
  | e :: es => display e ++ ", " ++ displayList es

end

/-! ## Equality is decidable -/

mutual

/-- Structural comparison. -/
def same : Expr → Expr → Bool
  | .basic a, .basic b => a == b
  | .collection a xs o, .collection b ys p => a == b && o == p && sameList xs ys
  | .mapping a ks vs, .mapping b ls ws => a == b && sameList ks ls && sameList vs ws
  | _, _ => false

def sameList : List Expr → List Expr → Bool
  | [], [] => true
  | x :: xs, y :: ys => same x y && sameList xs ys
  | _, _ => false

end

mutual

theorem same_iff : ∀ x y : Expr, same x y = true ↔ x = y
  | .basic a, .basic b => by simp [same]
  | .basic _, .collection .. => by simp [same]
  | .basic _, .mapping .. => by simp [same]
  | .collection .., .basic _ => by simp [same]
  | .collection a xs o, .collection b ys p => by
    simp only [same, Bool.and_eq_true, beq_iff_eq, sameList_iff xs ys, Expr.collection.injEq]
    exact ⟨fun ⟨⟨h, k⟩, l⟩ => ⟨h, l, k⟩, fun ⟨h, l, k⟩ => ⟨⟨h, k⟩, l⟩⟩
  | .collection .., .mapping .. => by simp [same]
  | .mapping .., .basic _ => by simp [same]
  | .mapping .., .collection .. => by simp [same]
  | .mapping a ks vs, .mapping b ls ws => by
    simp only [same, Bool.and_eq_true, beq_iff_eq, sameList_iff ks ls, sameList_iff vs ws,
      Expr.mapping.injEq, and_assoc]

theorem sameList_iff : ∀ xs ys : List Expr, sameList xs ys = true ↔ xs = ys
  | [], [] => by simp [sameList]
  | [], _ :: _ => by simp [sameList]
  | _ :: _, [] => by simp [sameList]
  | x :: xs, y :: ys => by
    simp only [sameList, Bool.and_eq_true, same_iff x y, sameList_iff xs ys, List.cons.injEq]

end

instance : DecidableEq Expr := fun x y => decidable_of_iff _ (same_iff x y)

end Expr

end Crosslink.TypeSpec

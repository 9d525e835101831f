/-
# Crosslink.TypeSpec.Phrase — type expressions with their places in the text

A phrase is a type expression that remembers the byte at which it starts: the
start of its name, or of its opening bracket when it has none. `outlineList`
shows the same phrases as a labelled tree in which a list is a chain: a list
node holds its first element and then, when more follow, the list node of the
others, and it starts where its first element does.
-/

namespace Crosslink.TypeSpec

inductive Phrase where
  | basic (offset : Nat) (name : String)
  | collection (offset : Nat) (name : String) (items : List Phrase) (ordered : Bool)
  | mapping (offset : Nat) (name : String) (keys values : List Phrase)
deriving Inhabited, Repr

namespace Phrase

/-- The byte at which the phrase starts. -/
def offset : Phrase → Nat
  | .basic offset _ => offset
  | .collection offset _ _ _ => offset
  | .mapping offset _ _ _ => offset

end Phrase

/-! ## Outlines -/

inductive OutlineLabel where
  | list
  | collection
  | ordered
  | mapping
  | name
deriving DecidableEq, Repr

def OutlineLabel.text : OutlineLabel → String
  | .list => "type_list"
  | .collection => "parameterized_type"
  | .ordered => "ordered_type"
  | .mapping => "key_value_type"
  | .name => "identifier_with_whitespace"

/-- A labelled tree over the text of a specifier. -/
inductive Outline where
  | node (label : OutlineLabel) (text : String) (offset : Nat) (children : List Outline)
deriving Repr

namespace Phrase

mutual

def outline : Phrase → Outline
  | .basic offset name => .node .name name offset []
  | .collection offset name items false => .node .collection name offset (outlineList items)
  | .collection offset name items true => .node .ordered name offset (outlineList items)
  | .mapping offset name keys values =>
    .node .mapping name offset (outlineList keys ++ outlineList values)

/-- The list node of `ps`, and nothing for no phrases. -/
def outlineList : List Phrase → List Outline
  | [] => []
  | p :: ps => [.node .list "" p.offset (outline p :: outlineList ps)]

end

end Phrase

end Crosslink.TypeSpec

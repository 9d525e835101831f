/-
# Crosslink.Proofs.TypeSpec.Image — which expressions texts have

An expression is admissible when its own name and lists are ones that the reader
can give: names are name texts, a collection may also have the default name, no
list is empty, and an unordered collection of another name is not one that its
name makes ordered or a mapping. `Readable` is admissibility of every node
together with the bound on nested brackets (`readableAll_iff`).

Every readable list of expressions has a text. Canonical text will not do: it
may fuse an arrow, and the default name may be one that cannot be written. So
each bracket, comma and arrow is written with a space in front of it, and a
collection of the default name without its name (`exists_writes_list`).

Main theorem: `exists_parse_eq_iff`.
-/
import Crosslink.Proofs.TypeSpec.Tiling
import Crosslink.Proofs.TypeSpec.Written

namespace Crosslink.TypeSpec

set_option autoImplicit false

variable {opts : Options}

/-! ## Admissible nodes and nested brackets -/

namespace Expr

/-- The name and the lists of this node are ones that the reader can give. -/
def Admissible (opts : Options) : Expr → Prop
  | .basic name => IsNameText name
  | .collection name items ordered =>
      (IsNameText name ∨ name = opts.defaultCollection) ∧ items ≠ [] ∧
        (ordered = false → name ≠ opts.defaultCollection →
          name ∉ opts.tupleMarkers ∧ ¬ (name ∈ opts.mappingTypes ∧ items.length = 2))
  | .mapping name keys values => IsNameText name ∧ keys ≠ [] ∧ values ≠ []

mutual

/-- The most brackets that are open at once in the text of an expression. -/
def depth : Expr → Nat
  | .basic _ => 0
  | .collection _ items _ => depthAll items + 1
  | .mapping _ keys values => max (depthAll keys) (depthAll values) + 1

def depthAll : List Expr → Nat
  | [] => 0
  | e :: es => max e.depth (depthAll es)

end

theorem depthAll_le_iff {es : List Expr} {n : Nat} : depthAll es ≤ n ↔ ∀ e ∈ es, e.depth ≤ n := by
  induction es with
  | nil => simp [depthAll]
  | cons e es ih => rw [depthAll, Nat.max_le, ih, List.forall_mem_cons]

mutual

theorem readable_iff : ∀ (e : Expr) (n : Nat), n ≤ maxDepth →
    (Readable opts n e ↔ (∀ f ∈ e.nodes, f.Admissible opts) ∧ n + e.depth ≤ maxDepth)
  | .basic name, n, fits => by
      simp [Readable, nodes, Admissible, depth, fits]
  | .collection name items ordered, n, fits => by
      by_cases room : n < maxDepth
      · have inner := readableAll_iff items (n + 1) room
        simp only [Readable, nodes, List.forall_mem_cons, Admissible, depth, inner, room, true_and]
        rw [show n + (depthAll items + 1) = n + 1 + depthAll items by omega]
        tauto
      · have tooDeep : ¬ n + (depthAll items + 1) ≤ maxDepth := by omega
        simp [Readable, depth, room, tooDeep]
  | .mapping name keys values, n, fits => by
      by_cases room : n < maxDepth
      · have inKeys := readableAll_iff keys (n + 1) room
        have inValues := readableAll_iff values (n + 1) room
        have deepest : n + (max (depthAll keys) (depthAll values) + 1) ≤ maxDepth ↔
            n + 1 + depthAll keys ≤ maxDepth ∧ n + 1 + depthAll values ≤ maxDepth := by omega
        simp only [Readable, nodes, List.forall_mem_cons, List.forall_mem_append, Admissible, depth,
          inKeys, inValues, room, true_and, deepest]
        tauto
      · have tooDeep : ¬ n + (max (depthAll keys) (depthAll values) + 1) ≤ maxDepth := by omega
        simp [Readable, depth, room, tooDeep]

/-- A list can be read where every node is admissible and the nested brackets have room. -/
theorem readableAll_iff : ∀ (es : List Expr) (n : Nat), n ≤ maxDepth →
    (ReadableAll opts n es ↔
      (∀ f ∈ nodesAll es, f.Admissible opts) ∧ n + depthAll es ≤ maxDepth)
  | [], n, fits => by simp [ReadableAll, nodesAll, depthAll, fits]
  | e :: es, n, fits => by
      have deepest : n + max e.depth (depthAll es) ≤ maxDepth ↔
          n + e.depth ≤ maxDepth ∧ n + depthAll es ≤ maxDepth := by omega
      simp only [ReadableAll, nodesAll, depthAll, List.forall_mem_append, deepest,
        readable_iff e n fits, readableAll_iff es n fits]
      tauto

end

end Expr

open Crosslink.TypeSpec.Expr

/-! ## A text for every readable list -/

/-- A bracket around lexemes that tile. -/
theorem Tiles.bracket {ls ms : List Lexeme} (front : Tiles ls) (inner : Tiles ms)
    {opens closes : TokenKind} (isOpen : opens.isName = false) (isClose : closes.isName = false) :
    Tiles (ls ++ spaced opens :: (ms ++ [spaced closes])) :=
  front.join (spaced_sound opens) isOpen (by simp [spaced])
    (inner.join (spaced_sound closes) isClose (by simp [spaced]) tiles_nil)

mutual

theorem exists_writes_type : ∀ (e : Expr) (n : Nat), Readable opts n e →
    ∃ ls, Tiles ls ∧ Writes opts .type n ls [e]
  | .basic name, n, readable => ⟨lexemes name.toList, tiles_lexemes _, writes_basic readable n⟩
  | .collection name items ordered, n, readable => by
      have ⟨room, named, nonempty, unread, inside⟩ := readable
      obtain ⟨ls, tiles, inner⟩ := exists_writes_list items (n + 1) nonempty inside
      obtain ⟨opens, closes, isOpen, isClose, brackets⟩ : ∃ opens closes : TokenKind,
          opens.isName = false ∧ closes.isName = false ∧ CollectionBrackets ordered opens closes := by
        cases ordered with
        | false => exact ⟨.openAngle, .closeAngle, rfl, rfl, rfl, rfl⟩
        | true => exact ⟨.openParen, .closeParen, rfl, rfl, rfl, rfl⟩
      by_cases default : name = opts.defaultCollection
      · subst default
        exact ⟨_, tiles_nil.bracket tiles isOpen isClose, writes_bare room brackets inner⟩
      · have isName : IsNameText name := named.resolve_right default
        exact ⟨_, (tiles_lexemes _).bracket tiles isOpen isClose,
          writes_named isName room (fun unordered => unread unordered default) brackets inner⟩
  | .mapping name keys values, n, readable => by
      have ⟨room, isName, keysSome, valuesSome, keysRead, valuesRead⟩ := readable
      obtain ⟨ls, keysTile, keysWritten⟩ := exists_writes_list keys (n + 1) keysSome keysRead
      obtain ⟨ms, valuesTile, valuesWritten⟩ :=
        exists_writes_list values (n + 1) valuesSome valuesRead
      have turn : Tiles (ls ++ spaced .arrow :: (ms ++ [spaced .closeBrace])) :=
        keysTile.bracket valuesTile rfl rfl
      have tiles := (tiles_lexemes name.toList).join (spaced_sound .openBrace) rfl (by simp [spaced]) turn
      exact ⟨_, tiles, writes_mapping isName room (.inr ⟨rfl, rfl⟩) rfl keysWritten valuesWritten⟩

/-- Every readable list is written by lexemes that a text can have. -/
theorem exists_writes_list : ∀ (es : List Expr) (n : Nat), es ≠ [] → ReadableAll opts n es →
    ∃ ls, Tiles ls ∧ Writes opts .list n ls es
  | [], _, nonempty, _ => absurd rfl nonempty
  | [e], n, _, readable => by
      obtain ⟨ls, tiles, writes⟩ := exists_writes_type e n readable.1
      exact ⟨ls, tiles, writes.one⟩
  | e :: f :: es, n, _, readable => by
      obtain ⟨ls, headTiles, headWritten⟩ := exists_writes_type e n readable.1
      obtain ⟨ms, restTiles, restWritten⟩ := exists_writes_list (f :: es) n (by simp) readable.2
      have tiles := headTiles.join (spaced_sound .comma) rfl (by simp [spaced]) restTiles
      exact ⟨_, tiles, writes_cons headWritten rfl restWritten⟩

end

theorem exists_parse_of_readable {es : List Expr} (readable : ReadableAll opts 0 es) :
    ∃ text, parse opts text = .ok es := by
  by_cases empty : es = []
  · subst empty
    exact ⟨"", parse_eq_ok_iff.2 (.inl ⟨rfl, rfl⟩)⟩
  · obtain ⟨ls, tiles, writes⟩ := exists_writes_list es 0 empty readable
    obtain ⟨text, located⟩ := exists_text_of_tiles tiles
    obtain ⟨ps, spelled, same⟩ := writes (tokens text) located
    exact ⟨text, parse_eq_ok_iff.2 (.inr ⟨ps, spelled, same⟩)⟩

/-- **The expressions that texts have.** Some text is read as `es` exactly when every node of `es`
is admissible and no expression of `es` nests more than 64 brackets. -/
theorem exists_parse_eq_iff (opts : Options) (es : List Expr) :
    (∃ text, parse opts text = .ok es) ↔
      (∀ e ∈ nodesAll es, e.Admissible opts) ∧ ∀ e ∈ es, e.depth ≤ 64 := by
  have bound := @readableAll_iff opts es 0 (Nat.zero_le _)
  rw [Nat.zero_add, depthAll_le_iff] at bound
  constructor
  · rintro ⟨text, read⟩
    exact bound.1 (readableAll_of_parse read)
  · intro admissible
    exact exists_parse_of_readable (bound.2 admissible)

end Crosslink.TypeSpec

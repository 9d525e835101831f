/-
# Crosslink.Toml.Item — tables under construction

A document is a table whose entries are read one after another. A table
remembers how it came to be, because that decides what may still be added to
it: one that only stands in front of a longer header may be opened once by a
header of its own, one made by a dotted key may be extended by dotted keys, one
opened by a header or written inline is not opened again. A header or a key may
lead through the last table of a list of tables.
-/
import Crosslink.Toml.Scalar

namespace Crosslink.Toml

inductive Origin where
  /-- In front of a longer header. -/
  | implied
  /-- Opened by a header of its own. -/
  | header
  /-- Made by a dotted key. -/
  | dotted
  /-- Written inline. -/
  | inline
deriving DecidableEq, Repr

inductive Item where
  | text (value : String)
  | scalar (value : Scalar)
  | list (items : List Item)
  | table (origin : Origin) (entries : List (String × Item))
  /-- Tables opened by doubled headers, last first. -/
  | tables (elements : List (List (String × Item)))

abbrev Entries := List (String × Item)

namespace Entries

/-- The entries with `item` under `key`, which has one already. -/
def replace (es : Entries) (key : String) (item : Item) : Entries :=
  es.map fun (k, old) => if k == key then (k, item) else (k, old)

/-- The entries with a new one at their end; none when the key is taken. -/
def add (es : Entries) (key : String) (item : Item) : Option Entries :=
  if (es.lookup key).isSome then none else some (es ++ [(key, item)])

/-- Changes the table that a header leads to, through tables that it implies. -/
def atHeader (change : Entries → Option Entries) : List String → Entries → Option Entries
  | [], es => change es
  | key :: path, es =>
    match es.lookup key with
    | none => (atHeader change path []).map fun sub => es ++ [(key, .table .implied sub)]
    | some (.table .inline _) => none
    | some (.table origin sub) =>
      (atHeader change path sub).map fun sub => es.replace key (.table origin sub)
    | some (.tables (last :: others)) =>
      (atHeader change path last).map fun last => es.replace key (.tables (last :: others))
    | some _ => none

/-- Opens a table by its header. -/
def openTable (key : String) (es : Entries) : Option Entries :=
  match es.lookup key with
  | none => some (es ++ [(key, .table .header [])])
  | some (.table .implied sub) => some (es.replace key (.table .header sub))
  | some _ => none

/-- Opens one more table of a list of tables. -/
def openNext (key : String) (es : Entries) : Option Entries :=
  match es.lookup key with
  | none => some (es ++ [(key, .tables [[]])])
  | some (.tables elements) => some (es.replace key (.tables ([] :: elements)))
  | some _ => none

/-- Puts an item under a key in front of which `path` stands. The table that
takes it must be one that such keys may extend. -/
def assign (extensible : Bool) (key : String) (item : Item) : List String → Entries → Option Entries
  | [], es => if extensible then es.add key item else none
  | k :: path, es =>
    match es.lookup k with
    | none => (assign true key item path []).map fun sub => es ++ [(k, .table .dotted sub)]
    | some (.table .dotted sub) =>
      (assign true key item path sub).map fun sub => es.replace k (.table .dotted sub)
    | some (.table .implied sub) =>
      (assign false key item path sub).map fun sub => es.replace k (.table .implied sub)
    | some (.tables (last :: others)) =>
      (assign false key item path last).map fun last => es.replace k (.tables (last :: others))
    | some _ => none

end Entries

end Crosslink.Toml

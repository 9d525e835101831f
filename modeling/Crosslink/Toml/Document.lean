/-
# Crosslink.Toml.Document — reading a TOML document

A document is a sequence of lines: blank or comment lines, headers, and keys
with their values. A value is a string, a scalar, a list in square brackets or
an inline table in braces; lists and inline tables may span lines and end in a
comma, and at most `maxNesting` of them may be open at once. Only whether a
text is a document matters to its readers, so every fault is the same.
-/
import Crosslink.Toml.Item
import Crosslink.Toml.Quoted

namespace Crosslink.Toml

/-- The most lists and inline tables that may be open at once. -/
def maxNesting : Nat := 80

/-! ## Blanks, comments and line ends -/

def skipBlanks (cs : List Char) : List Char := cs.dropWhile fun c => c == ' ' || c == '\t'

/-- The text at the end of a comment's line, from inside the comment. -/
def skipComment : List Char → Option (List Char)
  | [] => some []
  | '\n' :: rest => some ('\n' :: rest)
  | '\r' :: '\n' :: rest => some ('\n' :: rest)
  | c :: rest => if isControl c then none else skipComment rest

/-- The text behind the end of a line on which nothing but a comment is left. -/
def endLine (cs : List Char) : Option (List Char) := do
  let cs ← match skipBlanks cs with
    | '#' :: rest => skipComment rest
    | rest => some rest
  match cs with
  | [] => some []
  | '\n' :: rest => some rest
  | '\r' :: '\n' :: rest => some rest
  | _ => none

/-- Skips blanks, comments and line breaks. -/
def skipLines : (fuel : Nat) → List Char → Option (List Char)
  | 0, cs => some cs
  | fuel + 1, cs =>
    match skipBlanks cs with
    | '\n' :: rest => skipLines fuel rest
    | '\r' :: '\n' :: rest => skipLines fuel rest
    | '#' :: rest => skipComment rest >>= skipLines fuel
    | rest => some rest

/-- The next character that is neither blank, comment nor line break. -/
def skipFiller (cs : List Char) : Option (List Char) := skipLines (cs.length + 1) cs

/-! ## Keys -/

def isBareKeyChar (c : Char) : Bool := c.isAlphanum || c == '_' || c == '-'

/-- One part of a key: bare or quoted. -/
def keyPart? (cs : List Char) : Option (String × List Char) :=
  match cs with
  | '"' :: _ => readLine? cs
  | '\'' :: _ => readLine? cs
  | _ =>
    let bare := cs.takeWhile isBareKeyChar
    if bare.isEmpty then none else some (String.ofList bare, cs.drop bare.length)

/-- A key: the parts in front of its last one, the last one, and the text behind
the blanks that follow it. -/
def keyFrom? : (fuel : Nat) → List Char → Option (List String × String × List Char)
  | 0, _ => none
  | fuel + 1, cs =>
    match keyPart? cs with
    | none => none
    | some (part, rest) =>
      match skipBlanks rest with
      | '.' :: rest =>
        (keyFrom? fuel (skipBlanks rest)).map fun (path, last, rest) => (part :: path, last, rest)
      | rest => some ([], part, rest)

def key? (cs : List Char) : Option (List String × String × List Char) := keyFrom? (cs.length + 1) cs

/-! ## Values -/

/-- What a reader of values gives. -/
abbrev ReadItem := List Char → Option (Item × List Char)

/-- A scalar. -/
def readScalar : ReadItem := fun cs =>
  let (run, rest) := scalarRun cs
  (scalar? run).map fun value => (.scalar value, rest)

/-- The remaining items of a list and its closing bracket. -/
def readItems (item : ReadItem) : (fuel : Nat) → List Char → Option (List Item × List Char)
  | 0, _ => none
  | fuel + 1, cs => do
    let cs ← skipFiller cs
    match cs with
    | ']' :: rest => some ([], rest)
    | _ =>
      let (first, cs) ← item cs
      match ← skipFiller cs with
      | ']' :: rest => some ([first], rest)
      | ',' :: rest =>
        let (others, rest) ← readItems item fuel rest
        some (first :: others, rest)
      | _ => none

/-- A key, an equals sign and a value, put among the entries of a table. -/
def readEntry (item : ReadItem) (es : Entries) (cs : List Char) : Option (Entries × List Char) := do
  let (path, key, cs) ← key? cs
  match cs with
  | '=' :: rest =>
    let (value, rest) ← item (skipBlanks rest)
    let es ← es.assign true key value path
    some (es, rest)
  | _ => none

/-- The remaining entries of an inline table and its closing brace. -/
def readEntries (item : ReadItem) : (fuel : Nat) → Entries → List Char →
    Option (Entries × List Char)
  | 0, _, _ => none
  | fuel + 1, es, cs => do
    let cs ← skipFiller cs
    match cs with
    | '}' :: rest => some (es, rest)
    | _ =>
      let (es, cs) ← readEntry item es cs
      match ← skipFiller cs with
      | '}' :: rest => some (es, rest)
      | ',' :: rest => readEntries item fuel es rest
      | _ => none

/-- A value, with `depth` more lists or inline tables to open. -/
def readItem : (depth : Nat) → ReadItem
  | depth, cs =>
    match cs with
    | '"' :: _ => (readText? cs).map fun (text, rest) => (.text text, rest)
    | '\'' :: _ => (readText? cs).map fun (text, rest) => (.text text, rest)
    | '[' :: rest =>
      match depth with
      | 0 => none
      | depth + 1 =>
        (readItems (readItem depth) (rest.length + 1) rest).map fun (items, rest) =>
          (.list items, rest)
    | '{' :: rest =>
      match depth with
      | 0 => none
      | depth + 1 =>
        (readEntries (readItem depth) (rest.length + 1) [] rest).map fun (es, rest) =>
          (.table .inline es, rest)
    | _ => readScalar cs

/-! ## Lines -/

/-- A document read up to some line: its entries, and the header that the next
keys stand under. -/
structure Progress where
  entries : Entries
  header : List String

/-- A header, from behind its opening bracket. -/
def readHeader (p : Progress) (cs : List Char) : Option (Progress × List Char) := do
  let (path, key, cs) ← key? (skipBlanks cs)
  match cs with
  | ']' :: rest =>
    let es ← p.entries.atHeader (Entries.openTable key) path
    some (⟨es, path ++ [key]⟩, rest)
  | _ => none

/-- A doubled header, from behind its opening brackets. -/
def readNextHeader (p : Progress) (cs : List Char) : Option (Progress × List Char) := do
  let (path, key, cs) ← key? (skipBlanks cs)
  match cs with
  | ']' :: ']' :: rest =>
    let es ← p.entries.atHeader (Entries.openNext key) path
    some (⟨es, path ++ [key]⟩, rest)
  | _ => none

/-- A key with its value, under the current header. -/
def readSetting (p : Progress) (cs : List Char) : Option (Progress × List Char) := do
  let (path, key, cs) ← key? cs
  match cs with
  | '=' :: rest =>
    let (value, rest) ← readItem maxNesting (skipBlanks rest)
    let es ← p.entries.atHeader (Entries.assign true key value path) p.header
    some ({ p with entries := es }, rest)
  | _ => none

/-- The entries of a document, from some line on. -/
def readFrom : (fuel : Nat) → Progress → List Char → Option Entries
  | 0, _, _ => none
  | fuel + 1, p, cs => do
    let cs ← skipFiller cs
    match cs with
    | [] => some p.entries
    | '[' :: '[' :: rest =>
      let (p, rest) ← readNextHeader p rest
      readFrom fuel p (← endLine rest)
    | '[' :: rest =>
      let (p, rest) ← readHeader p rest
      readFrom fuel p (← endLine rest)
    | _ =>
      let (p, rest) ← readSetting p cs
      readFrom fuel p (← endLine rest)

/-- A text without a byte order mark at its start. -/
def dropMark : List Char → List Char
  | '\ufeff' :: rest => rest
  | cs => cs

/-- The entries of a document. -/
def readDocument (text : String) : Option Entries :=
  let cs := dropMark text.toList
  readFrom (cs.length + 1) ⟨[], []⟩ cs

end Crosslink.Toml

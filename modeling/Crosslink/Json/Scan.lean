/-
# Crosslink.Json.Scan — walking over JSON text

The steps that readers of particular shapes share: blanks, fixed words, colons,
the item or member that comes next, and skipping a value of any shape. A value
that is only skipped must be well-formed, but nothing in it is decoded. Values
nest to any depth: the open lists and objects are kept on a stack.
-/
import Crosslink.Json.Number
import Crosslink.Json.Quoted

namespace Crosslink.Json

def isBlank (c : Char) : Bool := c == ' ' || c == '\n' || c == '\t' || c == '\r'

def skipBlanks (cs : List Char) : List Char := cs.dropWhile isBlank

/-- The text behind a fixed word. -/
def skipWord : List Char → List Char → Except Fault (List Char)
  | [], cs => .ok cs
  | _ :: _, [] => .error .truncated
  | w :: ws, c :: cs => if c == w then skipWord ws cs else .error .malformed

/-- The text behind the colon of a member. -/
def skipColon (cs : List Char) : Except Fault (List Char) :=
  match skipBlanks cs with
  | ':' :: rest => .ok rest
  | [] => .error .truncated
  | _ => .error .malformed

/-- The text at the next item of a list, or nothing at its closing bracket. -/
def nextItem? (first : Bool) (cs : List Char) : Except Fault (Option (List Char)) :=
  match skipBlanks cs with
  | [] => .error .truncated
  | ']' :: _ => .ok none
  | c :: rest =>
    if first then .ok (some (c :: rest))
    else if c == ',' then
      match skipBlanks rest with
      | [] => .error .truncated
      | ']' :: _ => .error .malformed
      | rest => .ok (some rest)
    else .error .malformed

/-- The text behind the bracket that ends a list. -/
def endList (cs : List Char) : Except Fault (List Char) :=
  match skipBlanks cs with
  | ']' :: rest => .ok rest
  | [] => .error .truncated
  | _ => .error .malformed

/-- The text inside the name of the next member, or nothing at the closing brace. -/
def nextMember? (first : Bool) (cs : List Char) : Except Fault (Option (List Char)) :=
  match skipBlanks cs with
  | [] => .error .truncated
  | '}' :: _ => .ok none
  | '"' :: rest => if first then .ok (some rest) else .error .malformed
  | ',' :: rest =>
    if first then .error .malformed
    else
      match skipBlanks rest with
      | '"' :: rest => .ok (some rest)
      | [] => .error .truncated
      | _ => .error .malformed
  | _ => .error .malformed

/-- The text behind the brace that ends an object. -/
def endObject (cs : List Char) : Except Fault (List Char) :=
  match skipBlanks cs with
  | '}' :: rest => .ok rest
  | [] => .error .truncated
  | _ => .error .malformed

/-! ## Wrong types -/

/-- The fault of a value, at its first character, where `wanted` was expected.
Lists and objects are named without looking inside. -/
def wrongType (wanted : String) (cs : List Char) : Fault :=
  let name (found : Found) : Fault := .mismatch (.wrongType found wanted)
  let after {α : Type} (result : Except Fault α) (found : α → Found) : Fault :=
    match result with
    | .ok a => name (found a)
    | .error fault => fault
  match cs with
  | 'n' :: rest => after (skipWord "ull".toList rest) fun _ => .null
  | 't' :: rest => after (skipWord "rue".toList rest) fun _ => .bool true
  | 'f' :: rest => after (skipWord "alse".toList rest) fun _ => .bool false
  | '-' :: rest => after (readNumber true rest) fun (found, _) => found
  | '"' :: rest => after (readQuoted rest) fun (text, _) => .text text
  | '[' :: _ => name .sequence
  | '{' :: _ => name .map
  | c :: rest =>
    if c.isDigit then after (readNumber false (c :: rest)) fun (found, _) => found
    else .malformed
  | [] => .truncated

/-! ## Skipping -/

inductive Opened where
  | list
  | object

/-- What must come next while skipping. -/
inductive Awaited where
  | value
  | member
  /-- A comma or the end of what is open. -/
  | more

/-- The text behind a word or a number or a literal. -/
def skipScalar (cs : List Char) : Except Fault (List Char) :=
  match cs with
  | 'n' :: rest => skipWord "ull".toList rest
  | 't' :: rest => skipWord "rue".toList rest
  | 'f' :: rest => skipWord "alse".toList rest
  | '-' :: rest => skipNumber rest
  | '"' :: rest => skipQuoted rest
  | c :: rest => if c.isDigit then skipNumber (c :: rest) else .error .malformed
  | [] => .error .truncated

/-- Skips with the lists and objects of `opened` still open. Each step consumes
a character, so `fuel` above the length of the text is never used up. -/
def skipFrom : (fuel : Nat) → Awaited → List Opened → List Char → Except Fault (List Char)
  | 0, _, _, _ => .error .malformed
  | _ + 1, .more, [], cs => .ok cs
  | fuel + 1, .more, open_ :: up, cs =>
    match skipBlanks cs, open_ with
    | [], _ => .error .truncated
    | ',' :: rest, .list => skipFrom fuel .value (open_ :: up) rest
    | ',' :: rest, .object => skipFrom fuel .member (open_ :: up) rest
    | ']' :: rest, .list => skipFrom fuel .more up rest
    | '}' :: rest, .object => skipFrom fuel .more up rest
    | _, _ => .error .malformed
  | fuel + 1, .member, up, cs =>
    match skipBlanks cs with
    | '"' :: rest =>
      match skipQuoted rest >>= skipColon with
      | .ok rest => skipFrom fuel .value up rest
      | .error fault => .error fault
    | [] => .error .truncated
    | _ => .error .malformed
  | fuel + 1, .value, up, cs =>
    match skipBlanks cs with
    | [] => .error .truncated
    | '[' :: rest =>
      match skipBlanks rest with
      | ']' :: rest => skipFrom fuel .more up rest
      | rest => skipFrom fuel .value (.list :: up) rest
    | '{' :: rest =>
      match skipBlanks rest with
      | '}' :: rest => skipFrom fuel .more up rest
      | rest => skipFrom fuel .member (.object :: up) rest
    | rest =>
      match skipScalar rest with
      | .ok rest => skipFrom fuel .more up rest
      | .error fault => .error fault

/-- The text behind a value of any shape. -/
def skipValue (cs : List Char) : Except Fault (List Char) := skipFrom (cs.length + 1) .value [] cs

end Crosslink.Json

/-
# Crosslink.Json.Fault — why a JSON text cannot be used

A text is malformed when no continuation makes it JSON, and truncated when it
ends too early. A well-formed text may still not hold what is wanted; the
mismatch then says what was found and what was expected.
-/
import Crosslink.Text.Printable

namespace Crosslink.Json

/-- The first token of a value, as a message shows it. -/
inductive Found where
  | null
  | bool (value : Bool)
  | integer (value : Int)
  /-- A number with a point or an exponent, or beyond 64 bits; its shown digits. -/
  | real (shown : String)
  | text (value : String)
  | sequence
  | map
deriving DecidableEq, Repr

def Found.message : Found → String
  | .null => "null"
  | .bool value => "boolean `" ++ (if value then "true" else "false") ++ "`"
  | .integer value => "integer `" ++ toString value ++ "`"
  | .real shown => "floating point `" ++ shown ++ "`"
  | .text value => "string " ++ Text.quoted value
  | .sequence => "sequence"
  | .map => "map"

inductive Mismatch where
  | wrongType (found : Found) (wanted : String)
  | wrongLength (length : Nat) (wanted : String)
  | unknownName (name : String) (wanted : String)
  | repeatedMember (name : String)
  | missingMember (name : String)
deriving DecidableEq, Repr

def Mismatch.message : Mismatch → String
  | .wrongType found wanted => "invalid type: " ++ found.message ++ ", expected " ++ wanted
  | .wrongLength length wanted => "invalid length " ++ toString length ++ ", expected " ++ wanted
  | .unknownName name wanted => "unknown variant `" ++ name ++ "`, expected " ++ wanted
  | .repeatedMember name => "duplicate field `" ++ name ++ "`"
  | .missingMember name => "missing field `" ++ name ++ "`"

inductive Fault where
  | malformed
  | truncated
  | mismatch (what : Mismatch)
deriving DecidableEq, Repr

def Fault.message : Fault → String
  | .malformed => "malformed text"
  | .truncated => "text that ends too early"
  | .mismatch what => what.message

/-- A reading step: a value and the text behind it, or the first fault. -/
abbrev Reading (α : Type) := Except Fault (α × List Char)

end Crosslink.Json

/-
# Crosslink.Symbols.Table — symbols with a fingerprint

A table is a list of symbols and the fingerprint of the text it comes from: the
text that was read, or the compact text of a list given in memory. The empty
table comes from no text and has no fingerprint.
-/
import Crosslink.Digest.Sha256
import Crosslink.Symbols.TableText

namespace Crosslink.Symbols

structure Table where
  symbols : List Symbol
  fingerprint : String
deriving DecidableEq, Repr

namespace Table

def empty : Table := ⟨[], ""⟩

def ofSymbols (symbols : List Symbol) : Table :=
  ⟨symbols, Digest.fingerprint (String.ofList (writeTable symbols))⟩

/-- The table that a JSON text holds. -/
def ofText (text : String) : Except Json.Fault Table :=
  (readTable text.toList).map fun symbols => ⟨symbols, Digest.fingerprint text⟩

end Table

end Crosslink.Symbols

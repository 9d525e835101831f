/-
# Crosslink.Reference.Slug — page addresses of namespaces

The slug of a segment is its text in lower case with a hyphen between its
words. Underscores and hyphens separate words, and so does a change of case: a
capital after a small letter or a digit starts a word, and so does the last
capital of a run when a small letter follows it. The page of a namespace is the
slugs of its segments joined by `/`.
-/
import Crosslink.Text.LetterCase
import Crosslink.Text.Split

namespace Crosslink.Reference

open Crosslink.Text

/-- `c` starts a word when it stands between `previous` and `next`. -/
def startsWord (previous c : Char) (next : Option Char) : Bool :=
  isUpper c &&
    (isLower previous || previous.isDigit || (isUpper previous && next.any isLower))

/-- The slug of the remaining characters, put in front of `out`, which holds
the slug so far, last character first. `previous` is the character before them. -/
def slugFrom (previous : Option Char) (out : List Char) : List Char → List Char
  | [] => out
  | c :: cs =>
    if c == '_' || c == '-' then
      slugFrom (some c) (if out.isEmpty || out.head? == some '-' then out else '-' :: out) cs
    else
      let hyphen := out.head? != some '-' && previous.any fun p => startsWord p c cs.head?
      slugFrom (some c) ((lower c).reverse ++ if hyphen then '-' :: out else out) cs

/-- The slug of one segment. -/
def slug (segment : List Char) : List Char :=
  ((slugFrom none [] segment).dropWhile (· == '-')).reverse

/-- The page of a namespace: its non-empty segments as slugs, joined by `/`. -/
def pageOf (space : List Char) : List Char :=
  ['/'].intercalate (((segments space).filter fun s => !s.isEmpty).map slug)

end Crosslink.Reference

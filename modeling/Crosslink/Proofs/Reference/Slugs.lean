/-
# Crosslink.Proofs.Reference.Slugs — a slug is its words, joined by hyphens

`wordsOf` cuts a text into words: at underscores and hyphens, which belong to no
word, and between two characters where the case changes (`Parts`). The slug is
made in one pass that decides each hyphen from the slug so far and from the
characters around it. Behind any slug so far the pass puts the words that are
left (`slugFrom_eq`), so a slug is the words of its text in lower case
(`slug_eq`).

Lower case is never empty and makes no hyphen, underscore, slash, colon or blank
out of another character (`eq_of_mem_lower`). So the hyphens of a slug stand
between words only, one at a time (`isHyphenated_slug`), and a slug of characters
that have no case left is its own slug (`slug_slug`).

Main theorem: `slug_is_words_joined`.
-/
import Crosslink.Proofs.Reference.Classification
import Crosslink.Reference.Slug

namespace Crosslink.Reference

open Crosslink.Text

set_option autoImplicit false

/-! ## Lower case -/

/-- The hyphen, the slash, the colon, the underscore and the blanks, by code point. -/
def keptPoints : List Nat := [0x2d, 0x2f, 0x3a, 0x5f] ++ blankPoints

theorem lower_ne_nil (c : Char) : lower c ≠ [] := by
  unfold lower
  split
  · simp
  · split <;> simp

/-- A character is shifted by the row it stands on, or not at all. -/
theorem lowerShift_cases (n : Nat) : lowerShift n = 0 ∨
    ∃ row ∈ lowerShifts, row.1 ≤ n ∧ n ≤ row.2.1 ∧ lowerShift n = row.2.2.2 := by
  unfold lowerShift
  split
  · rename_i first last step shift found
    have onRow := List.find?_some found
    simp only [Bool.and_eq_true, decide_eq_true_eq] at onRow
    exact .inr ⟨_, List.mem_of_find?_eq_some found, onRow.1.1, onRow.1.2, rfl⟩
  · exact .inl rfl

/-- No row leads to one of the kept code points. -/
theorem lowerShifts_avoid : ∀ row ∈ lowerShifts, ∀ n ∈ keptPoints,
    ¬ ((row.1 : Int) + row.2.2.2 ≤ n ∧ (n : Int) ≤ row.2.1 + row.2.2.2) := by
  decide +kernel

theorem toLower_of_kept {c : Char} (ascii : c.toNat < 128) (kept : c.toLower.toNat ∈ keptPoints) :
    c.toLower = c := by
  have each : ∀ n < 128, (Char.ofNat n).toLower.toNat ∈ keptPoints →
      (Char.ofNat n).toLower = Char.ofNat n := by decide +kernel
  have here := each c.toNat ascii
  rw [Char.ofNat_toNat] at here
  exact here kept

/-- A number that is no code point becomes the character zero, which is not kept. -/
theorem toNat_ofNat_of_kept {n : Nat} (kept : (Char.ofNat n).toNat ∈ keptPoints) :
    (Char.ofNat n).toNat = n := by
  by_cases isValid : n.isValidChar
  · rw [Char.ofNat, dif_pos isValid]
    rfl
  · rw [Char.ofNat, dif_neg isValid] at kept
    exact absurd kept (by decide)

/-- Lower case makes no hyphen, slash, colon, underscore or blank out of another character. -/
theorem eq_of_mem_lower {c d : Char} (member : d ∈ lower c) (kept : d.toNat ∈ keptPoints) :
    d = c := by
  unfold lower at member
  split at member
  · rename_i ascii
    obtain rfl := List.mem_singleton.1 member
    exact toLower_of_kept ascii kept
  · split at member
    · simp only [List.mem_cons, List.not_mem_nil, or_false] at member
      rcases member with rfl | rfl
      · exact absurd kept (by decide)
      · exact absurd kept (by decide)
    · obtain rfl := List.mem_singleton.1 member
      rw [toNat_ofNat_of_kept kept] at kept
      rcases lowerShift_cases c.toNat with none_ | ⟨row, inTable, low, high, shift⟩
      · rw [none_, Int.add_zero, Int.toNat_natCast, Char.ofNat_toNat]
      · refine absurd ?_ (lowerShifts_avoid row inTable _ kept)
        have positive : (c.toNat + lowerShift c.toNat).toNat ≠ 0 := by
          intro zero
          rw [zero] at kept
          exact absurd kept (by decide)
        omega

/-! ## Words -/

/-- The characters that separate words. -/
def isBreak (c : Char) : Bool := c == '_' || c == '-'

/-- A word ends between `p` and `c`, behind which `next` stands. -/
def Parts (p c : Char) (next : Option Char) : Prop :=
  isUpper c = true ∧ (isLower p = true ∨ ('0' ≤ p ∧ p ≤ '9') ∨
    (isUpper p = true ∧ ∃ n, next = some n ∧ isLower n = true))

theorem startsWord_iff {p c : Char} {next : Option Char} :
    startsWord p c next = true ↔ Parts p c next := by
  simp only [startsWord, Parts, Bool.and_eq_true, Bool.or_eq_true, isDigit_iff, Option.any_eq_true,
    or_assoc]

instance (p c : Char) (next : Option Char) : Decidable (Parts p c next) :=
  decidable_of_iff _ startsWord_iff

/-- A word ends between `p` and the first of the characters behind it. -/
def partsBehind (p : Char) : List Char → Bool
  | [] => false
  | c :: cs => decide (Parts p c cs.head?)

/-- The words of a text, and empty words where no character stands between two breaks. -/
def wordsOf : List Char → List (List Char)
  | [] => [[]]
  | c :: cs =>
    if isBreak c then [] :: wordsOf cs
    else if partsBehind c cs then [c] :: wordsOf cs
    else (wordsOf cs).modifyHead (c :: ·)

def lowerAll (w : List Char) : List Char := w.flatMap lower

/-- The words that a slug is made of: those of the text that are not empty, in lower case. -/
def slugWords (s : List Char) : List (List Char) :=
  ((wordsOf s).filter fun w => !w.isEmpty).map lowerAll

/-- The words that are not empty, with hyphens between them. -/
def joinWords (ws : List (List Char)) : List Char :=
  ['-'].intercalate (ws.filter fun w => !w.isEmpty)

theorem isBreak_iff {c : Char} : isBreak c = true ↔ c = '_' ∨ c = '-' := by
  simp [isBreak]

/-- A break is neither a letter of any case nor a digit. -/
theorem caseless_of_isBreak {c : Char} (breaks : isBreak c = true) :
    isUpper c = false ∧ isLower c = false ∧ ¬ ('0' ≤ c ∧ c ≤ '9') := by
  rcases isBreak_iff.1 breaks with rfl | rfl <;> decide

/-- No word ends behind a break. -/
theorem partsBehind_of_isBreak {p : Char} (breaks : isBreak p = true) (cs : List Char) :
    partsBehind p cs = false := by
  obtain ⟨notUpper, notLower, notDigit⟩ := caseless_of_isBreak breaks
  cases cs with
  | nil => rfl
  | cons c cs =>
      apply decide_eq_false
      rintro ⟨-, small | digit | ⟨capital, -⟩⟩
      · exact absurd small (by simp [notLower])
      · exact notDigit digit
      · exact absurd capital (by simp [notUpper])

/-- No word ends in front of a character that is not a capital. -/
theorem partsBehind_of_not_isUpper {p : Char} {cs : List Char}
    (small : ∀ c, cs.head? = some c → isUpper c = false) : partsBehind p cs = false := by
  cases cs with
  | nil => rfl
  | cons c cs =>
      apply decide_eq_false
      rintro ⟨capital, -⟩
      exact absurd capital (by simp [small c rfl])

theorem wordsOf_ne_nil (cs : List Char) : wordsOf cs ≠ [] := by
  fun_induction wordsOf cs with
  | case1 => simp
  | case2 c cs breaks ih => simp
  | case3 c cs letter parts ih => simp
  | case4 c cs letter joined ih =>
      obtain ⟨w, ws, eq⟩ := List.exists_cons_of_ne_nil ih
      simp [eq]

theorem joinWords_nil_cons (ws : List (List Char)) : joinWords ([] :: ws) = joinWords ws := rfl

/-- A word in front of others, with a hyphen before the first of them. -/
theorem joinWords_hyphen {v w : List Char} (left : v ≠ []) (right : w ≠ [])
    (ws : List (List Char)) :
    joinWords ((v ++ '-' :: w) :: ws) = joinWords (v :: w :: ws) := by
  simp only [joinWords]
  rw [List.filter_cons_of_pos (by simp), List.filter_cons_of_pos (by simp [left]),
    List.filter_cons_of_pos (by simp [right])]
  cases ws.filter fun w => !w.isEmpty with
  | nil => simp [List.intercalate_cons_cons]
  | cons u us => simp [List.intercalate_cons_cons]

theorem lowerAll_eq_nil_iff {w : List Char} : lowerAll w = [] ↔ w = [] := by
  cases w with
  | nil => simp [lowerAll]
  | cons c w => simp [lowerAll, lower_ne_nil c]

/-! ## One pass -/

/-- The words of `cs` behind `previous`; the first of them goes on with the word of `previous`. -/
def wordsBehind (previous : Option Char) (cs : List Char) : List (List Char) :=
  if previous.any fun p => partsBehind p cs then [] :: wordsOf cs else wordsOf cs

/-- Words put behind a slug, which is given last character first. -/
def attach (out : List Char) (ws : List (List Char)) : List (List Char) :=
  if out.head? = some '-' then out.tail.reverse :: ws else ws.modifyHead (out.reverse ++ ·)

/-- What the pass has written when `previous` is the character before the ones that are left. -/
inductive Wrote : Option Char → List Char → Prop
  | nothing {previous : Option Char} (between : ∀ p, previous = some p → isBreak p = true) :
      Wrote previous []
  | hyphen {p d : Char} {out : List Char} (breaks : isBreak p = true) (solid : d ≠ '-') :
      Wrote (some p) ('-' :: d :: out)
  | word {p d : Char} {out : List Char} (letter : isBreak p = false) (solid : d ≠ '-') :
      Wrote (some p) (d :: out)

theorem wordsOf_cons_letter {c : Char} (letter : isBreak c = false) (cs : List Char) :
    wordsOf (c :: cs) = (wordsBehind (some c) cs).modifyHead (c :: ·) := by
  rw [wordsOf, letter, wordsBehind]
  cases parts : partsBehind c cs with
  | false => simp [parts]
  | true => simp [parts]

/-- The lower case of a letter ends in no hyphen. -/
theorem lower_reverse {c : Char} (letter : isBreak c = false) :
    ∃ d rest, (lower c).reverse = d :: rest ∧ d ≠ '-' := by
  obtain ⟨d, rest, eq⟩ := List.exists_cons_of_ne_nil
    (mt List.reverse_eq_nil_iff.1 (lower_ne_nil c))
  refine ⟨d, rest, eq, ?_⟩
  rintro rfl
  have member : '-' ∈ lower c := by
    rw [← List.mem_reverse, eq]
    simp
  rw [← eq_of_mem_lower member (by decide)] at letter
  cases letter

theorem partsBehind_cons (p c : Char) (cs : List Char) :
    partsBehind p (c :: cs) = startsWord p c cs.head? := by
  rw [partsBehind, Bool.eq_iff_iff, decide_eq_true_iff, startsWord_iff]

theorem exists_wordsBehind (previous : Option Char) (cs : List Char) :
    ∃ w ws, wordsBehind previous cs = w :: ws := by
  unfold wordsBehind
  split
  · exact ⟨_, _, rfl⟩
  · exact List.exists_cons_of_ne_nil (wordsOf_ne_nil cs)

/-- A break closes the word that was being written, if there was one. -/
theorem joinWords_attach_break {previous : Option Char} {out : List Char}
    (wrote : Wrote previous out) (ws : List (List Char)) :
    joinWords (attach out ([] :: ws)) = joinWords
      (attach (if out.isEmpty || out.head? == some '-' then out else '-' :: out) ws) := by
  cases wrote with
  | nothing between =>
      cases ws with
      | nil => rfl
      | cons w ws => simp [attach, joinWords_nil_cons]
  | hyphen breaks solid => simp [attach, joinWords]
  | word letter solid => simp [attach, solid]

/-- Where a word ends behind `previous`, a word was being written. -/
theorem Wrote.of_partsBehind {p : Char} {out cs : List Char} (wrote : Wrote (some p) out)
    (parts : partsBehind p cs = true) : out ≠ [] ∧ out.head? ≠ some '-' := by
  have letter : ¬ isBreak p = true := fun breaks => by
    rw [partsBehind_of_isBreak breaks] at parts
    cases parts
  cases wrote with
  | nothing between => exact absurd (between p rfl) letter
  | hyphen breaks solid => exact absurd breaks letter
  | word _ solid => exact ⟨by simp, by simpa using solid⟩

/-- A word behind what was written goes on with the word before it, or stands behind a hyphen. -/
theorem joinWords_attach_word {previous : Option Char} {out w : List Char}
    (wrote : Wrote previous out) (nonempty : w ≠ []) (ws : List (List Char)) :
    joinWords (attach out (w :: ws)) = joinWords ((out.reverse ++ w) :: ws) := by
  cases wrote with
  | nothing between => simp [attach]
  | @hyphen p d out breaks solid =>
      have split : ('-' :: d :: out).reverse ++ w = (d :: out).reverse ++ '-' :: w := by simp
      rw [split, joinWords_hyphen (by simp) nonempty]
      simp [attach]
  | word letter solid => simp [attach, solid]

/-- A letter is written behind a hyphen where a word ends before it, unless a hyphen is there. -/
theorem joinWords_attach_letter {previous : Option Char} {out w cs : List Char}
    (wrote : Wrote previous out) (nonempty : w ≠ []) (ws : List (List Char)) :
    joinWords (attach out
        (if previous.any fun p => partsBehind p cs then [] :: w :: ws else w :: ws)) =
      joinWords (((if out.head? != some '-' && previous.any fun p => partsBehind p cs
        then '-' :: out else out).reverse ++ w) :: ws) := by
  cases parts : previous.any fun p => partsBehind p cs with
  | false => simpa using joinWords_attach_word wrote nonempty ws
  | true =>
      obtain ⟨p, rfl, cut⟩ := (Option.any_eq_true _ _).1 parts
      obtain ⟨some_, head⟩ := wrote.of_partsBehind cut
      have hyphen : (out.head? != some '-' && true) = true := by simp [head]
      have split : ('-' :: out).reverse ++ w = out.reverse ++ '-' :: w := by simp
      rw [if_pos rfl, if_pos hyphen, split, joinWords_hyphen (by simp [some_]) nonempty]
      simp [attach, head]

theorem wordsBehind_break {c : Char} (breaks : isBreak c = true) (previous : Option Char)
    (cs : List Char) : wordsBehind previous (c :: cs) = [] :: wordsBehind (some c) cs := by
  have uncut : ∀ p, partsBehind p (c :: cs) = false := by
    intro p
    apply partsBehind_of_not_isUpper
    rintro _ ⟨⟩
    exact (caseless_of_isBreak breaks).1
  have within_ : wordsBehind (some c) cs = wordsOf cs := by
    simp [wordsBehind, partsBehind_of_isBreak breaks]
  rw [within_]
  cases previous with
  | none => simp [wordsBehind, wordsOf, breaks]
  | some p => simp [wordsBehind, wordsOf, breaks, uncut p]

theorem Wrote.behind_break {previous : Option Char} {out : List Char}
    (wrote : Wrote previous out) {c : Char} (breaks : isBreak c = true) :
    Wrote (some c) (if out.isEmpty || out.head? == some '-' then out else '-' :: out) := by
  cases wrote with
  | nothing between => exact .nothing fun p same => Option.some.inj same ▸ breaks
  | hyphen _ solid => exact .hyphen breaks solid
  | @word p d out letter solid =>
      have open_ : ((d :: out).isEmpty || (d :: out).head? == some '-') = false := by simp [solid]
      rw [open_]
      exact .hyphen breaks solid

theorem slugFrom_break {c : Char} (breaks : isBreak c = true) (previous : Option Char)
    (out cs : List Char) : slugFrom previous out (c :: cs) =
      slugFrom (some c) (if out.isEmpty || out.head? == some '-' then out else '-' :: out) cs :=
  if_pos breaks

theorem slugFrom_letter {c : Char} (letter : isBreak c = false) (previous : Option Char)
    (out cs : List Char) : slugFrom previous out (c :: cs) =
      slugFrom (some c) ((lower c).reverse ++
        if out.head? != some '-' && previous.any fun p => partsBehind p (c :: cs) then '-' :: out
        else out) cs := by
  simp only [partsBehind_cons]
  exact if_neg (by rw [show (c == '_' || c == '-') = false from letter]; simp)

/-- The lower case of a letter goes in front of the rest of its word. -/
theorem attach_lower {c : Char} (letter : isBreak c = false) (tail w : List Char)
    (ws : List (List Char)) : attach ((lower c).reverse ++ tail) (lowerAll w :: ws) =
      (tail.reverse ++ lowerAll (c :: w)) :: ws := by
  obtain ⟨d, rest, ends, solid⟩ := lower_reverse letter
  have head : ((lower c).reverse ++ tail).head? ≠ some '-' := by
    rw [ends]
    simpa using solid
  rw [attach, if_neg head]
  simp [lowerAll]

theorem Wrote.behind_letter {c : Char} (letter : isBreak c = false) (tail : List Char) :
    Wrote (some c) ((lower c).reverse ++ tail) := by
  obtain ⟨d, rest, ends, solid⟩ := lower_reverse letter
  rw [ends]
  exact .word letter solid

/-- **Behind any slug so far, the pass writes the words that are left.** -/
theorem slugFrom_eq {previous : Option Char} {out : List Char} (wrote : Wrote previous out)
    (cs : List Char) :
    ((slugFrom previous out cs).dropWhile (· == '-')).reverse =
      joinWords (attach out ((wordsBehind previous cs).map lowerAll)) := by
  induction cs generalizing previous out with
  | nil =>
      have none_ : wordsBehind previous [] = [[]] := by
        cases previous <;> simp [wordsBehind, partsBehind, wordsOf]
      rw [none_, slugFrom]
      cases wrote with
      | nothing between => rfl
      | hyphen breaks solid => simp [attach, joinWords, lowerAll, solid]
      | word letter solid => simp [attach, joinWords, lowerAll, solid]
  | cons c cs ih =>
      cases breaks : isBreak c with
      | true =>
          rw [slugFrom_break breaks, ih (wrote.behind_break breaks), wordsBehind_break breaks]
          exact (joinWords_attach_break wrote _).symm
      | false =>
          obtain ⟨w, ws, behind⟩ := exists_wordsBehind (some c) cs
          have words : wordsOf (c :: cs) = (c :: w) :: ws := by
            rw [wordsOf_cons_letter breaks, behind]
            rfl
          have lowered : lowerAll (c :: w) ≠ [] := mt lowerAll_eq_nil_iff.1 (by simp)
          have here : (wordsBehind previous (c :: cs)).map lowerAll =
              if previous.any fun p => partsBehind p (c :: cs) then
                [] :: lowerAll (c :: w) :: ws.map lowerAll
              else lowerAll (c :: w) :: ws.map lowerAll := by
            rw [wordsBehind, words]
            split <;> rfl
          rw [slugFrom_letter breaks, ih (Wrote.behind_letter breaks _), behind, List.map_cons,
            attach_lower breaks, here]
          exact (joinWords_attach_letter wrote lowered _).symm

/-- A slug is the words of its text in lower case, joined by hyphens. -/
theorem slug_eq (s : List Char) : slug s = ['-'].intercalate (slugWords s) := by
  have pass := slugFrom_eq (.nothing (by simp) : Wrote none []) s
  have whole : attach [] ((wordsBehind none s).map lowerAll) = (wordsOf s).map lowerAll := by
    obtain ⟨w, ws, eq⟩ := List.exists_cons_of_ne_nil (wordsOf_ne_nil s)
    simp [attach, wordsBehind, eq]
  have same : ((fun w => !w.isEmpty) ∘ lowerAll : List Char → Bool) = fun w => !w.isEmpty := by
    funext w
    rw [Function.comp_apply, Bool.eq_iff_iff]
    simp [lowerAll_eq_nil_iff]
  rw [slug, pass, whole, joinWords, List.filter_map, same, slugWords]

/-! ## Characters of a slug -/

/-- Words hold the characters of the text, less the breaks. -/
theorem flatten_wordsOf (s : List Char) : (wordsOf s).flatten = s.filter fun c => !isBreak c := by
  fun_induction wordsOf s with
  | case1 => rfl
  | case2 c cs breaks ih => simp [breaks, ih]
  | case3 c cs letter parts ih => simp [letter, ih]
  | case4 c cs letter joined ih =>
      obtain ⟨w, ws, eq⟩ := List.exists_cons_of_ne_nil (wordsOf_ne_nil cs)
      simpa [letter, eq] using ih

theorem isBreak_of_mem_wordsOf {s w : List Char} {c : Char} (word : w ∈ wordsOf s)
    (member : c ∈ w) : c ∈ s ∧ isBreak c = false := by
  have inText : c ∈ (wordsOf s).flatten := List.mem_flatten.2 ⟨w, word, member⟩
  rw [flatten_wordsOf, List.mem_filter] at inText
  simpa using inText

/-- Lower case makes no break out of a letter. -/
theorem isBreak_of_mem_lower {c d : Char} (letter : isBreak c = false) (member : d ∈ lower c) :
    isBreak d = false := by
  cases breaks : isBreak d with
  | false => rfl
  | true =>
      have kept : d.toNat ∈ keptPoints := by
        rcases isBreak_iff.1 breaks with rfl | rfl <;> decide
      rw [eq_of_mem_lower member kept, letter] at breaks
      cases breaks

theorem mem_slugWords {s v : List Char} (word : v ∈ slugWords s) :
    v ≠ [] ∧ ∀ d ∈ v, isBreak d = false ∧ ∃ c ∈ s, d ∈ lower c := by
  obtain ⟨w, kept, rfl⟩ := List.mem_map.1 word
  obtain ⟨inWords, nonempty⟩ := List.mem_filter.1 kept
  refine ⟨mt lowerAll_eq_nil_iff.1 (by simpa using nonempty), fun d member => ?_⟩
  obtain ⟨c, inWord, inLower⟩ := List.mem_flatMap.1 member
  obtain ⟨inText, letter⟩ := isBreak_of_mem_wordsOf inWords inWord
  exact ⟨isBreak_of_mem_lower letter inLower, c, inText, inLower⟩

theorem hyphen_not_mem_slugWords {s v : List Char} (word : v ∈ slugWords s) : '-' ∉ v := by
  intro hyphen
  have letter := ((mem_slugWords word).2 '-' hyphen).1
  cases letter

/-- Without hyphens, joined words are the words one after another. -/
theorem filter_intercalate {ws : List (List Char)} (solid : ∀ w ∈ ws, '-' ∉ w) :
    (['-'].intercalate ws).filter (· ≠ '-') = ws.flatten := by
  have keep : ∀ w ∈ ws, w.filter (· ≠ '-') = w := by
    intro w member
    apply List.filter_eq_self.2
    intro c inWord
    simpa using fun same : c = '-' => solid w member (same ▸ inWord)
  induction ws with
  | nil => rfl
  | cons w ws ih =>
      have rest := ih (fun v member => solid v (by simp [member])) fun v member =>
        keep v (by simp [member])
      have here := keep w (by simp)
      cases ws with
      | nil => simpa using here
      | cons v ws =>
          rw [List.intercalate_cons_cons, List.filter_append, List.filter_append, here, rest]
          simp

theorem lowerAll_flatten (ws : List (List Char)) :
    (ws.map lowerAll).flatten = lowerAll ws.flatten := by
  induction ws with
  | nil => rfl
  | cons w ws ih => simp [lowerAll, ih]

theorem flatten_slugWords (s : List Char) :
    (slugWords s).flatten = lowerAll (s.filter fun c => !isBreak c) := by
  have dropped : ((wordsOf s).filter fun w => !w.isEmpty).flatten = (wordsOf s).flatten :=
    List.flatten_filter_not_isEmpty
  rw [slugWords, lowerAll_flatten, dropped, flatten_wordsOf]

/-- Without its hyphens a slug is the text in lower case without breaks. -/
theorem filter_slug (s : List Char) :
    (slug s).filter (· ≠ '-') = lowerAll (s.filter fun c => !isBreak c) := by
  rw [slug_eq, filter_intercalate fun v word => hyphen_not_mem_slugWords word, flatten_slugWords]

/-- It does not matter whether breaks are taken away before or after lower case. -/
theorem lowerAll_filter (s : List Char) :
    (lowerAll s).filter (fun c => !isBreak c) = lowerAll (s.filter fun c => !isBreak c) := by
  induction s with
  | nil => rfl
  | cons c s ih =>
      rw [lowerAll, List.flatMap_cons, List.filter_append]
      cases breaks : isBreak c with
      | true =>
          have none_ : (lower c).filter (fun d => !isBreak d) = [] := by
            rcases isBreak_iff.1 breaks with rfl | rfl <;> decide
          rw [none_, List.nil_append, List.filter_cons_of_neg (by simp [breaks])]
          exact ih
      | false =>
          have all : (lower c).filter (fun d => !isBreak d) = lower c := by
            apply List.filter_eq_self.2
            intro d member
            simpa using isBreak_of_mem_lower breaks member
          rw [all, List.filter_cons_of_pos (by simp [breaks])]
          exact congrArg (lower c ++ ·) ih

/-! ## Hyphens -/

/-- Hyphens stand between other characters only, one at a time. -/
structure IsHyphenated (cs : List Char) : Prop where
  front : cs.head? ≠ some '-'
  back : cs.getLast? ≠ some '-'
  single : ¬ ['-', '-'] <:+: cs

theorem isHyphenated_of_not_mem {w : List Char} (solid : '-' ∉ w) : IsHyphenated w where
  front := fun head => solid (List.mem_of_head? head)
  back := fun last => solid (List.mem_of_getLast? last)
  single := fun inside => solid (inside.subset (by simp))

theorem IsHyphenated.join {w cs : List Char} (solid : '-' ∉ w) (left : w ≠ []) (right : cs ≠ [])
    (rest : IsHyphenated cs) : IsHyphenated (w ++ '-' :: cs) where
  front := by
    rw [List.head?_append_of_ne_nil w left]
    exact (isHyphenated_of_not_mem solid).front
  back := by
    rw [List.getLast?_append_cons, List.getLast?_cons_of_ne_nil right]
    exact rest.back
  single := by
    apply not_infix_append solid
    intro inside
    rcases List.infix_cons_iff.1 inside with ⟨more, here⟩ | later
    · obtain ⟨-, tail⟩ := List.cons.inj here
      exact rest.front (by rw [← tail]; rfl)
    · exact rest.single later

theorem isHyphenated_intercalate {ws : List (List Char)} (solid : ∀ w ∈ ws, w ≠ [] ∧ '-' ∉ w) :
    IsHyphenated (['-'].intercalate ws) := by
  induction ws with
  | nil => exact isHyphenated_of_not_mem (by simp)
  | cons w ws ih =>
      obtain ⟨nonempty, noHyphen⟩ := solid w (by simp)
      have rest := ih fun v member => solid v (by simp [member])
      cases ws with
      | nil => simpa using isHyphenated_of_not_mem noHyphen
      | cons v ws =>
          have more : ['-'].intercalate (v :: ws) ≠ [] := by
            have some_ := (solid v (by simp)).1
            cases ws <;> simp [List.intercalate_cons_cons, some_]
          rw [List.intercalate_cons_cons, List.append_assoc]
          exact rest.join noHyphen nonempty more

theorem isHyphenated_slug (s : List Char) : IsHyphenated (slug s) := by
  rw [slug_eq]
  exact isHyphenated_intercalate fun v word =>
    ⟨(mem_slugWords word).1, hyphen_not_mem_slugWords word⟩

/-! ## The slug of a slug -/

/-- A character that lower case has done with: not a capital, and its own lower case. -/
def IsLowered (d : Char) : Prop := isUpper d = false ∧ lower d = [d]

instance : DecidablePred IsLowered := fun _ => inferInstanceAs (Decidable (_ ∧ _))

theorem lowerAll_of_isLowered {w : List Char} (lowered : ∀ d ∈ w, IsLowered d) :
    lowerAll w = w := by
  induction w with
  | nil => rfl
  | cons d w ih =>
      have rest := ih fun e member => lowered e (by simp [member])
      rw [lowerAll, List.flatMap_cons, (lowered d (by simp)).2]
      exact congrArg (d :: ·) rest

/-- Lowered letters in front of a hyphen, or at the end, are one word. -/
theorem wordsOf_lowered {w rest : List Char} (lowered : ∀ d ∈ w, isBreak d = false ∧ IsLowered d)
    (ends : rest = [] ∨ ∃ cs, rest = '-' :: cs) :
    wordsOf (w ++ rest) = (wordsOf rest).modifyHead (w ++ ·) := by
  induction w with
  | nil =>
      obtain ⟨v, vs, eq⟩ := List.exists_cons_of_ne_nil (wordsOf_ne_nil rest)
      simp [eq]
  | cons d w ih =>
      obtain ⟨letter, -, -⟩ := lowered d (by simp)
      have uncut : partsBehind d (w ++ rest) = false := by
        apply partsBehind_of_not_isUpper
        intro c head
        cases w with
        | nil =>
            rcases ends with rfl | ⟨cs, rfl⟩
            · cases head
            · obtain rfl : '-' = c := by simpa using head
              decide
        | cons e w =>
            obtain rfl : e = c := by simpa using head
            exact (lowered e (by simp)).2.1
      have others := ih fun e member => lowered e (by simp [member])
      obtain ⟨v, vs, eq⟩ := List.exists_cons_of_ne_nil (wordsOf_ne_nil rest)
      rw [List.cons_append, wordsOf, letter, uncut, others, eq]
      simp

/-- Lowered words are the words of their join. -/
theorem wordsOf_intercalate {ws : List (List Char)} (nonempty : ws ≠ [])
    (lowered : ∀ w ∈ ws, ∀ d ∈ w, isBreak d = false ∧ IsLowered d) :
    wordsOf (['-'].intercalate ws) = ws := by
  induction ws with
  | nil => exact absurd rfl nonempty
  | cons w ws ih =>
      have here := lowered w (by simp)
      cases ws with
      | nil => simpa [wordsOf] using wordsOf_lowered here (.inl rfl)
      | cons v ws =>
          have rest := ih (by simp) fun u member => lowered u (by simp [member])
          rw [List.intercalate_cons_cons, List.append_assoc, List.singleton_append,
            wordsOf_lowered here (.inr ⟨_, rfl⟩), wordsOf, rest]
          simp [isBreak]

theorem slug_slug {s : List Char} (lowered : ∀ c ∈ s, ∀ d ∈ lower c, IsLowered d) :
    slug (slug s) = slug s := by
  have words : ∀ w ∈ slugWords s, ∀ d ∈ w, isBreak d = false ∧ IsLowered d := by
    intro w word d member
    obtain ⟨letter, c, inText, inLower⟩ := (mem_slugWords word).2 d member
    exact ⟨letter, lowered c inText d inLower⟩
  by_cases none_ : slugWords s = []
  · rw [slug_eq s, none_]
    rfl
  · have kept : (slugWords s).filter (fun w => !w.isEmpty) = slugWords s := by
      apply List.filter_eq_self.2
      intro w word
      simpa using (mem_slugWords word).1
    have same : (slugWords s).map lowerAll = (slugWords s).map id :=
      List.map_congr_left fun w word =>
        lowerAll_of_isLowered fun d member => (words w word d member).2
    have again : slugWords (slug s) = slugWords s := by
      rw [slug_eq s, slugWords, wordsOf_intercalate none_ words, kept, same, List.map_id]
    rw [slug_eq (slug s), again, slug_eq s]

-- A capital without a small letter stays a capital, and a slug of it can have a word more.
example : slug (slug ['A', '𝐀']) ≠ slug ['A', '𝐀'] := by decide +kernel

/-- **A slug is the words of its text in lower case, joined by hyphens.** Without
its hyphens it is the text in lower case without breaks, its hyphens stand
between other characters one at a time, and it is its own slug when lower case
leaves neither capitals nor characters that lower case changes. -/
theorem slug_is_words_joined (s : List Char) :
    slug s = ['-'].intercalate (((wordsOf s).filter fun w => !w.isEmpty).map lowerAll) ∧
      (slug s).filter (· ≠ '-') = (lowerAll s).filter (fun c => c ≠ '_' ∧ c ≠ '-') ∧
      IsHyphenated (slug s) ∧
      ((∀ c ∈ s, ∀ d ∈ lower c, IsLowered d) → slug (slug s) = slug s) := by
  refine ⟨slug_eq s, ?_, isHyphenated_slug s, slug_slug⟩
  calc (slug s).filter (· ≠ '-')
      = (lowerAll s).filter (fun c => !isBreak c) := by rw [filter_slug, lowerAll_filter]
    _ = (lowerAll s).filter (fun c => c ≠ '_' ∧ c ≠ '-') := by
        apply List.filter_congr
        intro c _
        rw [Bool.eq_iff_iff]
        simp [isBreak]

/-- A title with acronyms, a double underscore, a digit and accents keeps its slug. -/
theorem slug_is_words_joined_acronym :
    (∀ c ∈ "HTTPServer__v2API-Été".toList, ∀ d ∈ lower c, IsLowered d) ∧
      slug (slug "HTTPServer__v2API-Été".toList) = "http-server-v2-api-été".toList := by
  have all : "HTTPServer__v2API-Été".toList.all
      (fun c => (lower c).all fun d => decide (IsLowered d)) = true := by decide +kernel
  have lowered : ∀ c ∈ "HTTPServer__v2API-Été".toList, ∀ d ∈ lower c, IsLowered d := by
    intro c inText d inLower
    exact of_decide_eq_true (List.all_eq_true.1 (List.all_eq_true.1 all c inText) d inLower)
  refine ⟨lowered, ((slug_is_words_joined _).2.2.2 lowered).trans ?_⟩
  decide +kernel

end Crosslink.Reference

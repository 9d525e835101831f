/-
# Crosslink.Proofs.TypeSpec.Spans — spans that tile a text

A span is a kind of token and the bytes that a token of that kind covers. Spans
tile a text when they stand in its order, none of them overlaps another, each
covers a text of its kind, only blanks are left out, and no span could have been
longer (`Tiling`). Nothing here depends on how tokens are found.

One notion decides how far a token goes: the character behind it extends it or
does not (`TokenKind.Extends`). Lexemes are apart exactly when the next
character never extends the lexeme before it (`apart_iff`), and a tiling is
taken off its text span by span in the same way (`tiling_cons_iff`). So the
tilings of a text are the ways to cut it into lexemes that tile, and there is
one such way: `tiling_iff_tokens`.
-/
import Crosslink.Proofs.TypeSpec.Positions

namespace Crosslink.TypeSpec

open Crosslink.Text

set_option autoImplicit false

/-! ## Patterns -/

/-- A fixed text, or one or more characters that pass a test. -/
inductive Pattern where
  | exactly (text : List Char)
  | run (test : Char → Bool)

/-- The texts of a pattern. -/
def Pattern.Takes : Pattern → List Char → Prop
  | .exactly text, cs => cs = text
  | .run test, cs => cs ≠ [] ∧ ∀ c ∈ cs, test c = true

/-- What words are made of: neither blanks nor marks nor equals signs. -/
def isLetter (c : Char) : Bool := !isBlank c && !('=' :: marks).contains c

/-- How a token of this kind is written. -/
def TokenKind.pattern : TokenKind → Pattern
  | .openAngle => .exactly ['<']
  | .closeAngle => .exactly ['>']
  | .openParen => .exactly ['(']
  | .closeParen => .exactly [')']
  | .openBrace => .exactly ['{']
  | .closeBrace => .exactly ['}']
  | .comma => .exactly [',']
  | .arrow => .exactly ['=', '>']
  | .equals => .exactly ['=']
  | .word => .run isLetter

theorem isLetter_iff {c : Char} :
    isLetter c = true ↔ isBlank c = false ∧ TokenKind.ofChar c = .word := by
  have notMark : TokenKind.ofChar c = .word ↔ c ∉ '=' :: marks := by
    unfold TokenKind.ofChar
    split <;> simp_all [marks]
  simp [isLetter, notMark]

theorem takes_pattern_iff {kind : TokenKind} {cs : List Char} :
    kind.pattern.Takes cs ↔ IsTextOf kind cs := by
  have single : ∀ {c : Char} {k : TokenKind}, (∀ d, TokenKind.ofChar d = k ↔ d = c) →
      (cs = [c] ↔ ∃ d, cs = [d] ∧ TokenKind.ofChar d = k) := by
    intro c k ofKind
    simp [ofKind]
  cases kind with
  | word => simp only [TokenKind.pattern, Pattern.Takes, IsTextOf, isLetter_iff]
  | arrow => exact Iff.rfl
  | _ =>
      refine single fun d => ?_
      unfold TokenKind.ofChar
      split <;> simp_all

/-! ## What extends a token -/

/-- `c`, right behind a token of this kind, would belong to it. -/
def TokenKind.Extends (kind : TokenKind) (c : Char) : Prop :=
  (kind = .word ∧ isLetter c = true) ∨ (kind = .equals ∧ c = '>')

theorem TokenKind.Extends.solid {kind : TokenKind} {c : Char} (longer : kind.Extends c) :
    isBlank c = false := by
  rcases longer with ⟨-, letter⟩ | ⟨-, rfl⟩
  · exact (isLetter_iff.1 letter).1
  · rfl

/-- The first character of a token tells its kind, except that an arrow starts as an equals sign. -/
theorem IsTextOf.kind_of_head {kind : TokenKind} {cs : List Char} {c : Char}
    (text : IsTextOf kind cs) (head : cs.head? = some c) :
    TokenKind.ofChar c = kind ∨ (kind = .arrow ∧ c = '=') := by
  cases kind with
  | word => exact .inl (text.2 c (List.mem_of_mem_head? head)).2
  | arrow =>
      subst text
      obtain rfl : '=' = c := by simpa using head
      exact .inr ⟨rfl, rfl⟩
  | _ =>
      obtain ⟨d, rfl, kind⟩ := text
      obtain rfl : d = c := by simpa using head
      exact .inl kind

/-- A token whose first character is a letter is a word. -/
theorem IsTextOf.letter_iff {kind : TokenKind} {cs : List Char} {c : Char}
    (text : IsTextOf kind cs) (head : cs.head? = some c) : isLetter c = true ↔ kind = .word := by
  have solid : isBlank c = false := text.solid c (List.mem_of_mem_head? head)
  rw [isLetter_iff]
  rcases text.kind_of_head head with same | ⟨isArrow, rfl⟩
  · simp [solid, same]
  · simp [isArrow, TokenKind.ofChar]

/-- A lexeme touches the one behind it when the first character there extends it. -/
theorem touches_iff_extends {l m : Lexeme} {c : Char} (text : IsTextOf m.kind m.text)
    (head : m.text.head? = some c) : l.Touches m ↔ m.gap = [] ∧ l.kind.Extends c := by
  have closes : c = '>' ↔ m.kind = .closeAngle := by
    rw [← ofChar_eq_closeAngle_iff]
    rcases text.kind_of_head head with same | ⟨isArrow, rfl⟩
    · rw [same]
    · simp [isArrow, TokenKind.ofChar]
  simp only [Lexeme.Touches, TokenKind.Extends, text.letter_iff head, closes]

/-- **Lexemes are apart when the next character extends none.** `tail` is the end of the text. -/
theorem apart_iff {l : Lexeme} {ls : List Lexeme} {tail : List Char}
    (sound : ∀ m ∈ ls, m.Sound) (blank : ∀ c ∈ tail, isBlank c = true) :
    (∀ m ∈ ls.head?, ¬ l.Touches m) ↔
      ∀ c ∈ (source ls ++ tail).head?, ¬ l.kind.Extends c := by
  cases ls with
  | nil =>
      refine ⟨fun _ c head longer => ?_, fun _ m head => by simp at head⟩
      have inTail := blank c (List.mem_of_mem_head? head)
      simp [longer.solid] at inTail
  | cons m ms =>
      obtain ⟨gap, text⟩ := sound m (by simp)
      obtain ⟨d, ds, isText⟩ := List.exists_cons_of_ne_nil text.ne_nil
      have touches := @touches_iff_extends l m d text (by simp [isText])
      have layout : source (m :: ms) ++ tail = m.gap ++ d :: (ds ++ (source ms ++ tail)) := by
        simp [source, isText]
      rw [layout]
      cases isGap : m.gap with
      | nil => simp [touches, isGap]
      | cons b gap' =>
          have noTouch : ¬ l.Touches m := not_touches_of_gap (by simp [isGap])
          have noLonger : ¬ l.kind.Extends b := by
            intro longer
            have inGap := gap b (by simp [isGap])
            simp [longer.solid] at inGap
          simp [noTouch, noLonger]

/-! ## Places -/

theorem byteLength_pos {cs : List Char} (nonempty : cs ≠ []) : 0 < byteLength cs := by
  obtain ⟨c, cs, rfl⟩ := List.exists_cons_of_ne_nil nonempty
  have size := c.utf8Size_pos
  simp only [byteLength]
  omega

theorem utf8ByteSize_eq (text : String) : text.utf8ByteSize = byteLength text.toList := by
  rw [byteLength_eq, String.ofList_toList]

/-- Of two beginnings of one text, the one with fewer bytes begins the other. -/
theorem prefix_of_byteLength_le {xs ys cs : List Char} (first : xs <+: cs) (second : ys <+: cs)
    (le : byteLength xs ≤ byteLength ys) : xs <+: ys := by
  rcases List.prefix_or_prefix_of_prefix first second with within | ⟨more, rfl⟩
  · exact within
  · rcases List.eq_nil_or_concat more with rfl | ⟨init, c, rfl⟩
    · simp
    · have longer := @byteLength_pos (init ++ [c]) (by simp)
      simp only [List.concat_eq_append, byteLength_append] at le longer
      omega

/-- What stands in a text behind its first characters. -/
theorem standsAt_iff {text : String} {before cs : List Char} (split : text.toList = before ++ cs)
    {place : Nat} (behind : byteLength before ≤ place) {part : String} :
    StandsAt text place part ↔
      ∃ gap rest, cs = gap ++ (part.toList ++ rest) ∧ place = byteLength before + byteLength gap := by
  constructor
  · rintro ⟨front, back, whole, rfl⟩
    have whole' : front.toList ++ (part.toList ++ back.toList) = text.toList := by simp [whole]
    rw [utf8ByteSize_eq] at behind ⊢
    obtain ⟨gap, isFront⟩ : before <+: front.toList :=
      prefix_of_byteLength_le ⟨cs, split.symm⟩ ⟨_, whole'⟩ behind
    refine ⟨gap, back.toList, ?_, ?_⟩
    · rw [split, ← isFront, List.append_assoc] at whole'
      exact (List.append_cancel_left whole').symm
    · rw [← isFront, byteLength_append]
  · rintro ⟨gap, rest, rfl, rfl⟩
    refine ⟨String.ofList (before ++ gap), String.ofList rest, ?_, ?_⟩
    · rw [← String.toList_inj, split]
      simp
    · rw [← byteLength_eq, byteLength_append]

/-- What stands right behind the first characters of a text is the next one. -/
theorem standsAt_next_iff {text : String} {before cs : List Char}
    (split : text.toList = before ++ cs) {c : Char} :
    StandsAt text (byteLength before) (String.singleton c) ↔ cs.head? = some c := by
  rw [standsAt_iff split (Nat.le_refl _), List.head?_eq_some_iff]
  constructor
  · rintro ⟨gap, rest, rfl, place⟩
    rcases List.eq_nil_or_concat gap with rfl | ⟨init, d, rfl⟩
    · exact ⟨rest, by simp⟩
    · have longer := @byteLength_pos (init ++ [d]) (by simp)
      rw [List.concat_eq_append] at place
      omega
  · rintro ⟨rest, rfl⟩
    exact ⟨[], rest, by simp, rfl⟩

/-- The first character of what stands at a byte stands there too, and no other does. -/
theorem StandsAt.first_iff {text part : String} {place : Nat} (stands : StandsAt text place part)
    (nonempty : part.toList ≠ []) {c : Char} :
    StandsAt text place (String.singleton c) ↔ part.toList.head? = some c := by
  obtain ⟨front, back, whole, rfl⟩ := stands
  have split : text.toList = front.toList ++ (part.toList ++ back.toList) := by simp [whole]
  rw [utf8ByteSize_eq, standsAt_next_iff split, List.head?_append_of_ne_nil _ nonempty]

/-- What stands at a byte ends between two characters. -/
theorem StandsAt.boundary_stop {text part : String} {place : Nat} (stands : StandsAt text place part) :
    String.Pos.Raw.IsValid text ⟨place + part.utf8ByteSize⟩ := by
  obtain ⟨front, back, rfl, rfl⟩ := stands
  rw [String.Pos.Raw.isValid_iff_exists_append]
  exact ⟨front ++ part, back, rfl, by simp [String.rawEndPos]⟩

/-! ## Tilings -/

/-- A kind of token and the bytes that it covers, from `start` up to `stop`. -/
structure Span where
  kind : TokenKind
  start : Nat
  stop : Nat
deriving DecidableEq, Repr

def Token.span (t : Token) : Span := ⟨t.kind, t.start, t.stop⟩

/-- What a single span of a tiling must be. -/
structure Span.Fits (s : Span) (text : String) : Prop where
  nonempty : s.start < s.stop
  /-- No character is cut. -/
  boundaries : String.Pos.Raw.IsValid text ⟨s.start⟩ ∧ String.Pos.Raw.IsValid text ⟨s.stop⟩
  /-- The bytes of the span are a text of its kind. -/
  covers : ∃ part : String, StandsAt text s.start part ∧ s.stop = s.start + part.utf8ByteSize ∧
    s.kind.pattern.Takes part.toList
  /-- An equals sign in front of `>` is part of an arrow. -/
  lone : s.kind = .equals → ¬ StandsAt text s.stop ">"

/-- Spans that tile a text from the byte `position` on. -/
structure Tiling (text : String) (position : Nat) (spans : List Span) : Prop where
  fits : ∀ s ∈ spans, s.Fits text
  behind : ∀ s ∈ spans, position ≤ s.start
  /-- Spans rise and do not overlap. -/
  rising : spans.Pairwise fun s t => s.start < t.start ∧ s.stop ≤ t.start
  /-- A character that no span covers is blank. -/
  covered : ∀ place c, position ≤ place → StandsAt text place (String.singleton c) →
    isBlank c = true ∨ ∃ s ∈ spans, s.start ≤ place ∧ place < s.stop
  /-- Two words do not touch. -/
  wordsApart : ∀ s ∈ spans, ∀ t ∈ spans, s.kind = .word → t.kind = .word → s.stop ≠ t.start

theorem Span.Fits.exists_first {s : Span} {text : String} (fits : s.Fits text) :
    ∃ c, StandsAt text s.start (String.singleton c) := by
  obtain ⟨part, stands, -, takes⟩ := fits.covers
  have nonempty := (takes_pattern_iff.1 takes).ne_nil
  obtain ⟨c, cs, isPart⟩ := List.exists_cons_of_ne_nil nonempty
  exact ⟨c, (stands.first_iff nonempty).2 (by rw [isPart]; rfl)⟩

/-- The first character of a span tells whether it is a word. -/
theorem Span.Fits.letter_iff {s : Span} {text : String} (fits : s.Fits text) {c : Char}
    (first : StandsAt text s.start (String.singleton c)) : isLetter c = true ↔ s.kind = .word := by
  obtain ⟨part, stands, -, takes⟩ := fits.covers
  have isText := takes_pattern_iff.1 takes
  exact isText.letter_iff ((stands.first_iff isText.ne_nil).1 first)

/-- A character in front of all spans is blank. -/
theorem Tiling.blank_in_front {text : String} {before gap rest : List Char} {c : Char}
    {spans : List Span} (split : text.toList = before ++ (gap ++ c :: rest))
    (tiling : Tiling text (byteLength before) spans)
    (inFront : ∀ s ∈ spans, byteLength before + byteLength gap < s.start) : isBlank c = true := by
  have stands : StandsAt text (byteLength before + byteLength gap) (String.singleton c) :=
    (standsAt_iff split (Nat.le_add_right ..)).2 ⟨gap, rest, by simp, rfl⟩
  rcases tiling.covered _ c (Nat.le_add_right ..) stands with blank | ⟨s, member, starts, -⟩
  · exact blank
  · have later := inFront s member
    omega

theorem tiling_nil_iff {text : String} {before cs : List Char}
    (split : text.toList = before ++ cs) :
    Tiling text (byteLength before) [] ↔ ∀ c ∈ cs, isBlank c = true := by
  constructor
  · intro tiling c member
    obtain ⟨gap, rest, rfl⟩ := List.append_of_mem member
    exact tiling.blank_in_front split (by simp)
  · intro blank
    refine ⟨by simp, by simp, .nil, ?_, by simp⟩
    intro place c behind stands
    obtain ⟨gap, rest, rfl, -⟩ := (standsAt_iff split behind).1 stands
    exact .inl (blank c (by simp))

/-- How the first span of a tiling lies in what is left of the text: behind a gap of blanks it covers
`part`, a text of its kind, and the next character does not extend it. -/
structure Span.Leads (s : Span) (position : Nat) (gap part rest : List Char) : Prop where
  blank : ∀ c ∈ gap, isBlank c = true
  isText : IsTextOf s.kind part
  start : s.start = position + byteLength gap
  stop : s.stop = s.start + byteLength part
  ends : ∀ c ∈ rest.head?, ¬ s.kind.Extends c

section Step

variable {text : String} {before gap part rest : List Char} {s : Span} {spans : List Span}

theorem stop_eq_byteLength (start : s.start = byteLength before + byteLength gap)
    (stop : s.stop = s.start + byteLength part) :
    s.stop = byteLength (before ++ (gap ++ part)) := by
  rw [stop, start, byteLength_append, byteLength_append, Nat.add_assoc]

/-- What stands right behind a span. -/
theorem standsAt_stop_iff (split : text.toList = before ++ (gap ++ (part ++ rest)))
    (start : s.start = byteLength before + byteLength gap)
    (stop : s.stop = s.start + byteLength part) {c : Char} :
    StandsAt text s.stop (String.singleton c) ↔ rest.head? = some c := by
  have split' : text.toList = (before ++ (gap ++ part)) ++ rest := by simp [split]
  rw [stop_eq_byteLength start stop, standsAt_next_iff split']

theorem Span.Leads.fits (split : text.toList = before ++ (gap ++ (part ++ rest)))
    (leads : s.Leads (byteLength before) gap part rest) : s.Fits text := by
  have stands : StandsAt text s.start (String.ofList part) :=
    (standsAt_iff split (by rw [leads.start]; omega)).2 ⟨gap, rest, by simp, leads.start⟩
  have stop : s.stop = s.start + (String.ofList part).utf8ByteSize := by
    rw [leads.stop, byteLength_eq]
  refine ⟨?_, ⟨stands.boundary, stop ▸ stands.boundary_stop⟩, ⟨_, stands, stop, ?_⟩, ?_⟩
  · have size := byteLength_pos leads.isText.ne_nil
    rw [leads.stop]
    omega
  · rw [String.toList_ofList]
    exact takes_pattern_iff.2 leads.isText
  · intro isEquals follows
    exact leads.ends '>' ((standsAt_stop_iff split leads.start leads.stop).1 follows)
      (.inr ⟨isEquals, rfl⟩)

/-- A character in front of the span stands in its gap. -/
theorem Span.Leads.mem_gap (split : text.toList = before ++ (gap ++ (part ++ rest)))
    (leads : s.Leads (byteLength before) gap part rest) {place : Nat} {c : Char}
    (behind : byteLength before ≤ place) (stands : StandsAt text place (String.singleton c))
    (inGap : place < s.start) : c ∈ gap := by
  obtain ⟨front, back, whole, rfl⟩ := (standsAt_iff split behind).1 stands
  have shorter : byteLength front < byteLength gap := by
    rw [leads.start] at inGap
    omega
  obtain ⟨more, rfl⟩ : front <+: gap :=
    prefix_of_byteLength_le ⟨_, whole.symm⟩ (List.prefix_append ..) (Nat.le_of_lt shorter)
  cases more with
  | nil => simp at shorter
  | cons d more =>
      rw [List.append_assoc, String.toList_singleton] at whole
      obtain rfl : d = c := (List.cons.inj (List.append_cancel_left whole)).1
      simp

/-- What is left of a text behind the first span of a tiling is tiled by the others. -/
theorem Tiling.tail {position : Nat} (tiling : Tiling text position (s :: spans)) :
    Tiling text s.stop spans := by
  have rising := List.pairwise_cons.1 tiling.rising
  refine ⟨?_, ?_, rising.2, ?_, ?_⟩
  · exact fun t member => tiling.fits t (by simp [member])
  · exact fun t member => (rising.1 t member).2
  · intro place c behind stands
    have inFront := tiling.behind s (by simp)
    have nonempty := (tiling.fits s (by simp)).nonempty
    rcases tiling.covered place c (by omega) stands with blank | ⟨t, member, starts, stops⟩
    · exact .inl blank
    · rcases List.mem_cons.1 member with rfl | inRest
      · omega
      · exact .inr ⟨t, inRest, starts, stops⟩
  · exact fun t inT u inU => tiling.wordsApart t (by simp [inT]) u (by simp [inU])

/-- The character behind the first span of a tiling does not extend it. -/
theorem Tiling.not_extends {position : Nat} (tiling : Tiling text position (s :: spans)) {c : Char}
    (follows : StandsAt text s.stop (String.singleton c)) : ¬ s.kind.Extends c := by
  rintro (⟨isWord, letter⟩ | ⟨isEquals, rfl⟩)
  · have rising := List.pairwise_cons.1 tiling.rising
    rcases tiling.tail.covered s.stop c (Nat.le_refl _) follows with blank | ⟨t, member, starts, -⟩
    · simp [(isLetter_iff.1 letter).1] at blank
    · have touches : s.stop = t.start := Nat.le_antisymm (rising.1 t member).2 starts
      have isWord' : t.kind = .word :=
        ((tiling.fits t (by simp [member])).letter_iff (touches ▸ follows)).1 letter
      exact tiling.wordsApart s (by simp) t (by simp [member]) isWord isWord' touches
  · exact (tiling.fits s (by simp)).lone isEquals follows

theorem Tiling.exists_leads {cs : List Char} (split : text.toList = before ++ cs)
    (tiling : Tiling text (byteLength before) (s :: spans)) :
    ∃ gap part rest, cs = gap ++ (part ++ rest) ∧ s.Leads (byteLength before) gap part rest := by
  have rising := List.pairwise_cons.1 tiling.rising
  have behind := tiling.behind s (by simp)
  obtain ⟨part, stands, stop, takes⟩ := (tiling.fits s (by simp)).covers
  obtain ⟨gap, rest, rfl, start⟩ := (standsAt_iff split behind).1 stands
  rw [utf8ByteSize_eq] at stop
  refine ⟨gap, part.toList, rest, rfl, ?_, takes_pattern_iff.1 takes, start, stop, ?_⟩
  · intro c member
    obtain ⟨front, back, rfl⟩ := List.append_of_mem member
    have size := c.utf8Size_pos
    simp only [byteLength_append, byteLength] at start
    have split' : text.toList = before ++ (front ++ c :: (back ++ (part.toList ++ rest))) := by
      simp [split]
    refine tiling.blank_in_front split' (List.forall_mem_cons.2 ⟨by omega, fun t inRest => ?_⟩)
    have later := (rising.1 t inRest).1
    omega
  · intro c head
    exact tiling.not_extends ((standsAt_stop_iff split start stop).2 head)

/-- A span in front of a tiling of what is behind it. -/
theorem Tiling.cons (split : text.toList = before ++ (gap ++ (part ++ rest)))
    (leads : s.Leads (byteLength before) gap part rest) (tiling : Tiling text s.stop spans) :
    Tiling text (byteLength before) (s :: spans) := by
  have fits := leads.fits split
  have nonempty := fits.nonempty
  have start := leads.start
  refine ⟨?_, ?_, ?_, ?_, ?_⟩
  · exact List.forall_mem_cons.2 ⟨fits, tiling.fits⟩
  · refine List.forall_mem_cons.2 ⟨by omega, fun t member => ?_⟩
    have behind := tiling.behind t member
    omega
  · refine List.pairwise_cons.2 ⟨fun t member => ?_, tiling.rising⟩
    have behind := tiling.behind t member
    omega
  · intro place c behind stands
    by_cases inGap : place < s.start
    · exact .inl (leads.blank c (leads.mem_gap split behind stands inGap))
    · by_cases inSpan : place < s.stop
      · exact .inr ⟨s, by simp, by omega, inSpan⟩
      · rcases tiling.covered place c (by omega) stands with blank | ⟨t, member, inside⟩
        · exact .inl blank
        · exact .inr ⟨t, by simp [member], inside⟩
  · intro t inT u inU isWord isWord' touches
    rcases List.mem_cons.1 inT with rfl | inSpans <;> rcases List.mem_cons.1 inU with rfl | inSpans'
    · omega
    · -- A word right behind the first span starts with a letter, which would extend that span.
      have fits' := tiling.fits u inSpans'
      obtain ⟨c, first⟩ := fits'.exists_first
      have next := (standsAt_stop_iff split leads.start leads.stop).1 (touches ▸ first)
      exact leads.ends c next (.inl ⟨isWord, (fits'.letter_iff first).2 isWord'⟩)
    · have behind := tiling.behind t inSpans
      have later := (tiling.fits t inSpans).nonempty
      omega
    · exact tiling.wordsApart t inSpans u inSpans' isWord isWord' touches

/-- **A tiling is its first span and a tiling of what is behind that.** -/
theorem tiling_cons_iff {cs : List Char} (split : text.toList = before ++ cs) :
    Tiling text (byteLength before) (s :: spans) ↔
      ∃ gap part rest, cs = gap ++ (part ++ rest) ∧ s.Leads (byteLength before) gap part rest ∧
        Tiling text (byteLength (before ++ (gap ++ part))) spans := by
  constructor
  · intro tiling
    obtain ⟨gap, part, rest, rfl, leads⟩ := tiling.exists_leads split
    exact ⟨gap, part, rest, rfl, leads, stop_eq_byteLength leads.start leads.stop ▸ tiling.tail⟩
  · rintro ⟨gap, part, rest, rfl, leads, tiling⟩
    exact .cons split leads (stop_eq_byteLength leads.start leads.stop ▸ tiling)

end Step

/-! ## Tilings and lexemes -/

/-- Blanks at the end of a text change nothing. -/
theorem lexemes_source_append {ls : List Lexeme} (tiles : Tiles ls) {tail : List Char}
    (blank : ∀ c ∈ tail, isBlank c = true) : lexemes (source ls ++ tail) = ls := by
  have dropped : lexOnto tail [] = [] := by
    induction tail with
    | nil => rfl
    | cons c tail ih =>
        rw [lexOnto_cons, ih fun d member => blank d (by simp [member])]
        exact push_eq_of_pushed (.dropped (blank c (by simp)))
  rw [lexemes_eq_lexOnto, lexOnto_append, dropped, ← lexemes_eq_lexOnto, lexemes_source tiles]

theorem tiles_cons_iff {l : Lexeme} {ls : List Lexeme} {tail : List Char}
    (blank : ∀ c ∈ tail, isBlank c = true) :
    Tiles (l :: ls) ↔
      l.Sound ∧ (∀ c ∈ (source ls ++ tail).head?, ¬ l.kind.Extends c) ∧ Tiles ls := by
  constructor
  · rintro ⟨sound, apart⟩
    obtain ⟨here, inRest⟩ := List.forall_mem_cons.1 sound
    obtain ⟨next, rest⟩ := List.isChain_cons.1 apart
    exact ⟨here, (apart_iff inRest blank).1 next, inRest, rest⟩
  · rintro ⟨here, ends, inRest, rest⟩
    exact ⟨List.forall_mem_cons.2 ⟨here, inRest⟩,
      List.isChain_cons.2 ⟨(apart_iff inRest blank).2 ends, rest⟩⟩

theorem map_span_locate_cons (position : Nat) (l : Lexeme) (ls : List Lexeme) :
    (locate position (l :: ls)).map Token.span =
      ⟨l.kind, position + byteLength l.gap, position + byteLength l.gap + byteLength l.text⟩ ::
        (locate (position + byteLength (l.gap ++ l.text)) ls).map Token.span := by
  simp [locate, Token.span, Token.stop, Nat.add_assoc]

/-- **Spans tile a text exactly when it can be cut into lexemes that tile, with these spans.** -/
theorem tiling_iff {text : String} {before cs : List Char} (split : text.toList = before ++ cs)
    {spans : List Span} :
    Tiling text (byteLength before) spans ↔
      ∃ ls tail, cs = source ls ++ tail ∧ (∀ c ∈ tail, isBlank c = true) ∧ Tiles ls ∧
        spans = (locate (byteLength before) ls).map Token.span := by
  -- On the spans: `before` is what those already taken off, with their gaps, covered.
  induction spans generalizing before cs with
  | nil =>
      rw [tiling_nil_iff split]
      constructor
      · intro blank
        exact ⟨[], cs, rfl, blank, tiles_nil, rfl⟩
      · rintro ⟨ls, tail, rfl, blank, -, none_⟩
        cases ls with
        | nil => exact blank
        | cons l ls => simp [locate] at none_
  | cons s spans ih =>
      rw [tiling_cons_iff split]
      constructor
      · rintro ⟨gap, part, rest, rfl, leads, tiling⟩
        have split' : text.toList = (before ++ (gap ++ part)) ++ rest := by simp [split]
        obtain ⟨ls, tail, rfl, blank, tiles, rfl⟩ := (ih split').1 tiling
        refine ⟨⟨s.kind, gap, part⟩ :: ls, tail, by simp [source], blank, ?_, ?_⟩
        · exact (tiles_cons_iff blank).2 ⟨⟨leads.blank, leads.isText⟩, leads.ends, tiles⟩
        · rw [map_span_locate_cons, ← leads.start, ← leads.stop, byteLength_append]
      · rintro ⟨ls, tail, rfl, blank, tiles, spansOf⟩
        cases ls with
        | nil => simp [locate] at spansOf
        | cons l ls =>
            rw [map_span_locate_cons] at spansOf
            obtain ⟨rfl, rfl⟩ := List.cons.inj spansOf
            obtain ⟨sound, ends, rest⟩ := (tiles_cons_iff blank).1 tiles
            have split' : text.toList = (before ++ (l.gap ++ l.text)) ++ (source ls ++ tail) := by
              simp [split, source]
            refine ⟨l.gap, l.text, source ls ++ tail, by simp [source], ?_, ?_⟩
            · exact ⟨sound.gap, sound.text, rfl, rfl, ends⟩
            · exact (ih split').2 ⟨ls, tail, rfl, blank, rest, by rw [← byteLength_append]⟩

/-- **The tokens of a text are its only tiling.** -/
theorem tiling_iff_tokens {text : String} {spans : List Span} :
    Tiling text 0 spans ↔ spans = (tokens text).map Token.span := by
  have cut := @tiling_iff text [] text.toList rfl spans
  simp only [byteLength] at cut
  rw [cut]
  constructor
  · rintro ⟨ls, tail, whole, blank, tiles, rfl⟩
    rw [tokens, whole, lexemes_source_append tiles blank]
  · rintro rfl
    obtain ⟨tail, blank, whole⟩ := exists_source_append text.toList
    exact ⟨lexemes text.toList, tail, whole, blank, tiles_lexemes _, rfl⟩

end Crosslink.TypeSpec

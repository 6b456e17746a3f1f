import Mathlib.Data.List.TakeWhile
import SignatureLint.Proofs.Edit.Lines
import SignatureLint.Proofs.Lexeme
import SignatureLint.Proofs.Span
import SignatureLint.Proofs.Syntax.Places

/-!
# The last word of a text and its place

The last word of a text is its longest ending of letters, blanks behind it aside, or its last
character if that is no letter.  It is given the place right before the end of the span of the
text.  If the text is what a source holds at this span, the octets of the source at that place are
those of the word.
-/

namespace SignatureLint

open Lexer Text

/-! ## Last words -/

namespace Lexeme

/-- The last word of a text: its longest ending of letters, or its last character. -/
structure IsLast (text last : List Char) : Prop where
  nonempty : last ≠ []
  suffix : last <:+ text
  longest : (∀ c ∈ last, isWord c = true) ∧
      (∀ longer, longer <:+ text → (∀ c ∈ longer, isWord c = true) → longer <:+ last) ∨
    ∃ c, last = [c] ∧ isWord c = false

variable {text : List Char}

theorem solid_trimEnd (visible : ∃ c ∈ text, isBlank c = false) : Solid (trimEnd text) := by
  obtain ⟨c, found, other⟩ := visible
  cases shape : text.reverse.dropWhile isBlank with
  | nil =>
      have blank := List.dropWhile_eq_nil_iff.mp shape c (List.mem_reverse.mpr found)
      rw [other] at blank
      cases blank
  | cons last before =>
      have stops := List.head?_dropWhile_not isBlank text.reverse
      rw [shape] at stops
      refine ⟨before.reverse, last, ?_, stops⟩
      rw [trimEnd, shape, List.reverse_cons]

theorem lastOf_trimEnd (solid : Solid (trimEnd text)) : lastOf (trimEnd text) = lastOf text := by
  obtain ⟨front, last, shape, visible⟩ := solid
  have dropped : text.reverse.dropWhile isBlank = last :: front.reverse := by
    have backwards := congrArg List.reverse shape
    rwa [trimEnd, List.reverse_reverse, List.reverse_concat] at backwards
  rw [shape, lastOf_concat front visible, lastOf, dropped]

theorem suffix_takeWhile_reverse {longer : List Char} (ending : longer <:+ text)
    (letters : ∀ c ∈ longer, isWord c = true) :
    longer <:+ (text.reverse.takeWhile isWord).reverse := by
  obtain ⟨front, rfl⟩ := ending
  have letters' : ∀ c ∈ longer.reverse, isWord c = true :=
    fun c found => letters c (List.mem_reverse.mp found)
  rw [List.reverse_append, List.takeWhile_append_of_pos letters', List.reverse_append,
    List.reverse_reverse]
  exact List.suffix_append _ _

theorem isLast_lastOf (solid : Solid text) : IsLast text (lastOf text) where
  nonempty := by
    obtain ⟨front, last, rfl, -⟩ := solid
    exact lastOf_ne_nil (List.append_ne_nil_of_right_ne_nil _ (List.cons_ne_nil _ _))
  suffix := lastOf_suffix solid
  longest := by
    obtain ⟨front, last, rfl, visible⟩ := solid
    rw [lastOf_concat front visible]
    split
    · rename_i letter
      refine .inl ⟨fun c found => ?_, fun longer ending letters => ?_⟩
      · exact List.all_eq_true.mp List.all_takeWhile c (List.mem_reverse.mp found)
      · rw [← List.reverse_concat]
        exact suffix_takeWhile_reverse ending letters
    · rename_i other
      exact .inr ⟨last, rfl, Bool.eq_false_iff.mpr other⟩

theorem not_isBlank_of_mem_lastOf (solid : Solid text) :
    ∀ c ∈ lastOf text, isBlank c = false := by
  intro c found
  obtain ⟨front, last, rfl, visible⟩ := solid
  rw [lastOf_concat front visible] at found
  split at found
  · exact not_isBlank_of_isWord
      (List.all_eq_true.mp List.all_takeWhile c (List.mem_reverse.mp found))
  · rwa [List.mem_singleton.mp found]

end Lexeme

/-! ## Parts of a source with line feeds -/

namespace Text

theorem ReturnsFeed.linesWithEnds_cons {c : Char} {rest : List Char}
    (returns : ReturnsFeed (c :: rest)) (other : c ≠ '\n') :
    linesWithEnds (c :: rest) = consLine c (linesWithEnds rest) := by
  by_cases back : c = '\r'
  · subst back
    cases rest with
    | nil => cases (returnsFeed_cons.mp returns).1 rfl
    | cons d more =>
        obtain rfl : d = '\n' := Option.some.inj ((returnsFeed_cons.mp returns).1 rfl)
        rw [linesWithEnds_crlf, linesWithEnds_lf, consLine]
  · exact Text.linesWithEnds_cons back other rest

/-- A part of a text has whole lines and the beginning of a line, as it stands in a text where
every carriage return has a line feed behind it. -/
theorem exists_feed_lines (part : List Char) :
    ∃ whole last, part = whole.flatten ++ last ∧
      (∀ after, ReturnsFeed (part ++ after) →
        linesWithEnds (part ++ after) = whole ++ joinLine last (linesWithEnds after)) ∧
      ∀ line column, advance ⟨line, column⟩ part =
        if whole = [] then ⟨line, column + Utf8.width last⟩
        else ⟨line + whole.length, Utf8.width last⟩ := by
  induction part with
  | nil => exact ⟨[], [], rfl, fun _ _ => rfl, fun _ _ => rfl⟩
  | cons c rest ih =>
      obtain ⟨whole, last, parts, lines, place⟩ := ih
      -- a line feed makes one more whole line; any other character lengthens the first one
      by_cases feed : c = '\n'
      · subst feed
        refine ⟨['\n'] :: whole, last, ?_, fun after returns => ?_, fun line column => ?_⟩
        · rw [parts, List.flatten_cons, List.append_assoc, List.singleton_append]
        · rw [List.cons_append, linesWithEnds_lf, lines after (returnsFeed_cons.mp returns).2,
            List.cons_append]
        · rw [advance_feed, place, if_neg (List.cons_ne_nil _ _), List.length_cons]
          split
          · rename_i none
            rw [none, List.length_nil, Nat.zero_add, Nat.zero_add]
          · rw [Nat.add_assoc, Nat.add_comm 1]
      · have lines' (after : List Char) (returns : ReturnsFeed (c :: (rest ++ after))) :
            linesWithEnds (c :: (rest ++ after)) =
              consLine c (whole ++ joinLine last (linesWithEnds after)) := by
          rw [returns.linesWithEnds_cons feed, lines after (returnsFeed_cons.mp returns).2]
        cases whole with
        | nil =>
            refine ⟨[], c :: last, by rw [parts]; rfl, lines', fun line column => ?_⟩
            rw [advance_cons feed, place, if_pos rfl, if_pos rfl, Utf8.width, Nat.add_assoc]
        | cons first others =>
            refine ⟨(c :: first) :: others, last, by rw [parts]; rfl, lines',
              fun line column => ?_⟩
            rw [advance_cons feed, place, if_neg (List.cons_ne_nil _ _),
              if_neg (List.cons_ne_nil _ _)]
            rfl

end Text

theorem Source.segment_reach {before part after : List Char}
    (returns : ReturnsFeed (before ++ part ++ after)) :
    (Source.ofText (before ++ part ++ after)).segment ⟨reach before, reach (before ++ part)⟩ =
      part := by
  obtain ⟨whole, last, -, lines, place⟩ := exists_feed_lines before
  obtain ⟨whole', last', parts, lines', place'⟩ := exists_feed_lines part
  rw [List.append_assoc] at returns
  have all : linesWithEnds (before ++ part ++ after) =
      whole ++ joinLine last (whole' ++ joinLine last' (linesWithEnds after)) := by
    rw [List.append_assoc, lines _ returns, lines' _ returns.back]
  have start : reach before = ⟨1 + whole.length, Utf8.width last⟩ := by
    rw [reach, place]
    split
    · rename_i none
      rw [none, List.length_nil, Nat.zero_add]
    · rfl
  rw [Source.segment_of_lines all start (by rw [← advance_reach, start, place'])]
  exact parts.symm

/-! ## Places of last words -/

namespace Lexer

theorem advance_of_not_mem {part : List Char} (plain : '\n' ∉ part) (line column : Nat) :
    advance ⟨line, column⟩ part = ⟨line, column + Utf8.width part⟩ := by
  induction part generalizing column with
  | nil => rfl
  | cons c rest ih =>
      obtain ⟨other, plain⟩ := List.ne_and_not_mem_of_not_mem_cons plain
      rw [advance_cons (Ne.symm other), ih plain, Utf8.width, Nat.add_assoc]

end Lexer

namespace Lexeme

/-- A word that stands before the end of a span, on its last line. -/
structure EndsAt (span : Span) (lexeme : Lexeme) : Prop where
  path : lexeme.span.path = span.path
  startLine : lexeme.span.startLine = span.endLine
  endLine : lexeme.span.endLine = span.endLine
  endColumn : lexeme.span.endColumn = span.endColumn
  width : lexeme.span.endColumn - lexeme.span.startColumn =
    (Utf8.encode lexeme.text.toList).length

/-- A word that is what a source holds, in octets, at its span. -/
def StandsIn (source : List Char) (lexeme : Lexeme) : Prop :=
  ∃ start stop,
    Edit.offset (Edit.lineStarts (Utf8.encode source)).toArray
      lexeme.span.startLine lexeme.span.startColumn = .ok start ∧
    Edit.offset (Edit.lineStarts (Utf8.encode source)).toArray
      lexeme.span.endLine lexeme.span.endColumn = .ok stop ∧
    Octets.slice (Utf8.encode source) start stop = Utf8.encode lexeme.text.toList

theorem endsAt_trailing (text : String) (span : Span) : EndsAt span (trailing text span) where
  path := rfl
  startLine := rfl
  endLine := rfl
  endColumn := rfl
  width := by
    simp only [trailing, String.toList_ofList, Utf8.length_encode]
    omega

/-- The last word of a part of a source, which ends in no blank, is what the source holds at its
span, and the span lies within that of the part. -/
theorem trailing_of_part {path : String} {before part after : List Char} (solid : Solid part) :
    let span := Span.ofRange path ⟨reach before, reach (before ++ part)⟩
    (trailing (String.ofList part) span).StandsIn (before ++ part ++ after) ∧
      (trailing (String.ofList part) span).span.Within span := by
  obtain ⟨front, whole⟩ := lastOf_suffix solid
  have plain := feed_not_mem_lastOf solid
  -- the place where the word begins
  have stop : reach (before ++ part) = ⟨(reach (before ++ front)).line,
      (reach (before ++ front)).column + Utf8.width (lastOf part)⟩ := by
    conv => lhs; rw [← whole]
    rw [← List.append_assoc, ← advance_reach, advance_of_not_mem plain]
  have line : (reach (before ++ part)).line = (reach (before ++ front)).line := by
    rw [stop]
  have column : (reach (before ++ part)).column =
      (reach (before ++ front)).column + Utf8.width (lastOf part) := by
    rw [stop]
  have source : before ++ part ++ after = before ++ front ++ lastOf part ++ after := by
    conv => lhs; rw [← whole]
    simp only [List.append_assoc]
  have size : (Utf8.encode (before ++ part)).length =
      (Utf8.encode (before ++ front)).length + Utf8.width (lastOf part) := by
    conv => lhs; rw [← whole]
    rw [← List.append_assoc, Utf8.encode_append, List.length_append,
      Utf8.length_encode (lastOf part)]
  refine ⟨⟨(Utf8.encode (before ++ front)).length,
    (Utf8.encode (before ++ front) ++ Utf8.encode (lastOf part)).length, ?_, ?_, ?_⟩, ?_⟩
  · simp only [trailing, Span.ofRange, String.toList_ofList, line, column]
    rw [source, List.append_assoc, Utf8.encode_append, Edit.offset_reach, Utf8.length_encode]
    congr 1
    omega
  · simp only [trailing, Span.ofRange, String.toList_ofList]
    rw [Utf8.encode_append, Edit.offset_reach, List.length_append, ← Utf8.length_encode, size,
      Utf8.length_encode (lastOf part)]
    congr 1
    omega
  · simp only [trailing, String.toList_ofList]
    rw [source, Utf8.encode_append, Utf8.encode_append, Octets.slice_append]
  · refine ⟨rfl, ?_, .refl _ _⟩
    have order := advance_not_before front (reach before).line (reach before).column
    rw [show (⟨(reach before).line, (reach before).column⟩ : Position) = reach before from rfl,
      advance_reach] at order
    simp only [trailing, Span.ofRange, String.toList_ofList, line, column, Span.NotAfter]
    omega

end Lexeme

/-- A range from one place of a text to another one that is not before it.  Places are counted by
line feeds, and on a line by octets. -/
def Range.Inside (range : Range) (source : List Char) : Prop :=
  ∃ before part after, source = before ++ part ++ after ∧
    range = ⟨reach before, reach (before ++ part)⟩

namespace Lexeme

/-- What is taken for the last word of a text that is not blank is its last word, holds no blank,
and has its place right before the end of the span, as long as the word.  If the text is what a
source holds in a range, and ends in no blank, the source holds the word at that place, which lies
within the range. -/
theorem isLast_trailing {text : String} (span : Span)
    (visible : ∃ c ∈ text.toList, isBlank c = false) :
    IsLast (trimEnd text.toList) (trailing text span).text.toList ∧
    (∀ c ∈ (trailing text span).text.toList, isBlank c = false) ∧
    EndsAt span (trailing text span) ∧
    ∀ (source : List Char) (range : Range), ReturnsFeed source → range.Inside source →
      span = Span.ofRange span.path range →
      text.toList = (Source.ofText source).segment range → Solid text.toList →
      (trailing text span).StandsIn source ∧ (trailing text span).span.Within span := by
  have solid := solid_trimEnd visible
  have same : (trailing text span).text.toList = lastOf (trimEnd text.toList) := by
    rw [lastOf_trimEnd solid, trailing, String.toList_ofList]
  refine ⟨?_, ?_, endsAt_trailing text span, ?_⟩
  · rw [same]
    exact isLast_lastOf solid
  · rw [same]
    exact not_isBlank_of_mem_lastOf solid
  · rintro _ _ returns ⟨before, part, after, rfl, rfl⟩ spans held ends
    rw [Source.segment_reach returns] at held
    subst held
    have found := @trailing_of_part span.path before text.toList after ends
    dsimp only at found
    rwa [← spans, String.ofList_toList] at found

/-- A program of one function with a parameter whose name is not in ASCII, behind a line that ends
in two characters. -/
def sampleSource : String := "def f(\r\n  größe: ui.Box): pass\n"

/-- The last word of the parameter is that of its type. -/
theorem isLast_trailing_sampleSource :
    let text := "größe: ui.Box"
    let range : Range := ⟨⟨2, 2⟩, ⟨2, 17⟩⟩
    let span := Span.ofRange "a.py" range
    (∃ c ∈ text.toList, isBlank c = false) ∧ ReturnsFeed sampleSource.toList ∧
      range.Inside sampleSource.toList ∧
      text.toList = (Source.ofText sampleSource.toList).segment range ∧ Solid text.toList ∧
      trailing text span = ⟨"Box", ⟨"a.py", 2, 14, 2, 17⟩⟩ ∧
      IsLast (trimEnd text.toList) (trailing text span).text.toList ∧
      (trailing text span).StandsIn sampleSource.toList ∧
      (trailing text span).span.Within span := by
  intro text range span
  have visible : ∃ c ∈ text.toList, isBlank c = false := ⟨'g', by decide, by decide⟩
  have returns : ReturnsFeed sampleSource.toList := by decide
  have inside : range.Inside sampleSource.toList :=
    ⟨"def f(\r\n  ".toList, text.toList, "): pass\n".toList, by decide, by decide⟩
  have held : text.toList = (Source.ofText sampleSource.toList).segment range := by decide
  have solid : Solid text.toList := ⟨"größe: ui.Bo".toList, 'x', by decide, by decide⟩
  have word : lastOf text.toList = "Box".toList := by decide
  have found : trailing text span = ⟨"Box", ⟨"a.py", 2, 14, 2, 17⟩⟩ := by
    rw [trailing, word, String.ofList_toList]
    rfl
  obtain ⟨last, -, -, stands⟩ := isLast_trailing span visible
  obtain ⟨stands, within⟩ := stands _ range returns inside rfl held solid
  exact ⟨visible, returns, inside, held, solid, found, last, stands, within⟩

end Lexeme

end SignatureLint

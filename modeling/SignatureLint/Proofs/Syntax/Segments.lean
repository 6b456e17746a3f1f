import SignatureLint.Proofs.Edit.Placement
import SignatureLint.Proofs.Syntax.Tokens
import SignatureLint.Proofs.Text.Lines
import SignatureLint.Source

/-!
# Parts of a source text

Places are counted in a text of which line ends were turned into line feeds.  The part
of the text itself between two such places is what the lines of the text hold between
them.
-/

namespace SignatureLint

open Lexer Text

/-- The whole lines of a part of a text and the beginning of the line behind them. -/
structure Broken (part : List Char) (whole : List (List Char)) (last : List Char) : Prop where
  parts : part = whole.flatten ++ last
  /-- Whatever comes behind the part, its lines are lines. -/
  lines : ∀ after, Clean part after →
    linesWithEnds (part ++ after) = whole ++ joinLine last (linesWithEnds after)
  /-- The part leads to the line behind its whole lines. -/
  place : ∀ line column, advance ⟨line, column⟩ (normalizeNewlines part) =
    if whole = [] then ⟨line, column + Utf8.width last⟩
    else ⟨line + whole.length, Utf8.width last⟩

theorem advance_nil (place : Position) : advance place [] = place := rfl

theorem advance_feed (line column : Nat) (rest : List Char) :
    advance ⟨line, column⟩ ('\n' :: rest) = advance ⟨line + 1, 0⟩ rest := rfl

theorem advance_cons {c : Char} (plain : c ≠ '\n') (line column : Nat) (rest : List Char) :
    advance ⟨line, column⟩ (c :: rest) = advance ⟨line, column + Utf8.charWidth c⟩ rest := by
  rw [advance, List.foldl_cons, if_neg (by simpa using plain)]
  rfl

namespace Broken

variable {rest last : List Char} {whole : List (List Char)}

theorem nil : Broken [] [] [] :=
  ⟨rfl, fun _ _ => rfl, fun _ _ => rfl⟩

theorem ending (line : List Char) (broken : Broken rest whole last)
    (normal : normalizeNewlines (line ++ rest) = '\n' :: normalizeNewlines rest)
    (lines : ∀ after, Clean (line ++ rest) after →
      Clean rest after ∧
        linesWithEnds (line ++ (rest ++ after)) = line :: linesWithEnds (rest ++ after)) :
    Broken (line ++ rest) (line :: whole) last where
  parts := by rw [broken.parts, List.flatten_cons, List.append_assoc]
  lines after clean := by
    obtain ⟨clean', first⟩ := lines after clean
    rw [List.append_assoc, first, broken.lines after clean', List.cons_append]
  place line column := by
    rw [normal, advance_feed, broken.place, if_neg (List.cons_ne_nil _ _), List.length_cons]
    split
    · rename_i none
      rw [none, List.length_nil, Nat.zero_add, Nat.zero_add]
    · rw [Nat.add_assoc, Nat.add_comm 1]

theorem cons {c : Char} (plain : c ≠ '\r') (plain' : c ≠ '\n') (broken : Broken rest whole last) :
    ∃ whole last, Broken (c :: rest) whole last := by
  cases whole with
  | nil =>
      refine ⟨[], c :: last, ⟨?_, ?_, ?_⟩⟩
      · rw [broken.parts]
        rfl
      · intro after clean
        rw [List.cons_append, linesWithEnds_cons plain plain', broken.lines after clean.of_cons]
        rfl
      · intro line column
        rw [normalizeNewlines_cons plain, advance_cons plain', broken.place, if_pos rfl, if_pos rfl,
          Utf8.width, Nat.add_assoc]
  | cons first others =>
      refine ⟨(c :: first) :: others, last, ⟨?_, ?_, ?_⟩⟩
      · rw [broken.parts]
        rfl
      · intro after clean
        rw [List.cons_append, linesWithEnds_cons plain plain', broken.lines after clean.of_cons]
        rfl
      · intro line column
        rw [normalizeNewlines_cons plain, advance_cons plain', broken.place,
          if_neg (List.cons_ne_nil _ _), if_neg (List.cons_ne_nil _ _)]
        rfl

end Broken

theorem exists_broken (part : List Char) : ∃ whole last, Broken part whole last := by
  induction part using newlines_induction with
  | nil => exact ⟨[], [], .nil⟩
  | crlf rest ih =>
      obtain ⟨whole, last, broken⟩ := ih
      exact ⟨['\r', '\n'] :: whole, last, broken.ending ['\r', '\n'] (normalizeNewlines_crlf rest)
        fun after clean => ⟨clean.of_cons.of_cons, linesWithEnds_crlf _⟩⟩
  | cr rest lone ih =>
      obtain ⟨whole, last, broken⟩ := ih
      refine ⟨['\r'] :: whole, last, broken.ending ['\r'] (normalizeNewlines_cr lone)
        fun after clean => ⟨clean.of_cons, linesWithEnds_cr ?_⟩⟩
      cases rest with
      | nil => exact clean rfl
      | cons d rest => exact lone
  | other c rest plain ih =>
      obtain ⟨whole, last, broken⟩ := ih
      by_cases feed : c = '\n'
      · subst feed
        exact ⟨['\n'] :: whole, last, broken.ending ['\n'] (normalizeNewlines_cons plain rest)
          fun after clean => ⟨clean.of_cons, linesWithEnds_lf _⟩⟩
      · exact broken.cons plain feed

theorem Source.line_ofText {text : List Char} {front behind : List (List Char)}
    (h : linesWithEnds text = front ++ behind) :
    (Source.ofText text).line (1 + front.length) = behind.headD [] := by
  rw [Source.line, Source.ofText, h, Nat.add_sub_cancel_left, Array.getD_eq_getD_getElem?,
    List.getElem?_toArray, List.getElem?_append_right (Nat.le_refl _), Nat.sub_self]
  cases behind <;> rfl

/-- The part of a source between two places, by the whole lines and the beginnings of lines that
stand before the places. -/
theorem Source.segment_of_lines {text last last' : List Char}
    {whole whole' behind : List (List Char)}
    (lines : linesWithEnds text = whole ++ joinLine last (whole' ++ joinLine last' behind))
    {start stop : Position} (begins : start = ⟨1 + whole.length, Utf8.width last⟩)
    (ends : stop = if whole' = [] then ⟨1 + whole.length, Utf8.width last + Utf8.width last'⟩
      else ⟨1 + whole.length + whole'.length, Utf8.width last'⟩) :
    (Source.ofText text).segment ⟨start, stop⟩ = whole'.flatten ++ last' := by
  cases whole' with
  | nil =>
      -- the part lies on one line
      rw [if_pos rfl] at ends
      rw [begins, ends, Source.segment, if_pos rfl, Source.line_ofText lines]
      simp only [List.nil_append, joinLine_head, Source.splitOctets_width_append,
        Nat.add_sub_cancel_left, List.flatten_nil]
  | cons first others =>
      rw [if_neg (List.cons_ne_nil _ _), List.length_cons] at ends
      rw [List.cons_append, joinLine_cons] at lines
      have below : linesWithEnds text =
          (whole ++ (last ++ first) :: others) ++ joinLine last' behind := by
        rw [lines, List.append_assoc, List.cons_append]
      have number : 1 + whole.length + (others.length + 1) =
          1 + (whole ++ (last ++ first) :: others).length := by
        rw [List.length_append, List.length_cons, Nat.add_assoc]
      have between : ((linesWithEnds text).take
          (1 + whole.length + (others.length + 1) - 1)).drop (1 + whole.length) = others := by
        rw [below, number, Nat.add_sub_cancel_left, List.take_left, Nat.add_comm 1,
          ← List.drop_drop, List.drop_left]
        rfl
      have later : 1 + whole.length ≠ 1 + whole.length + (others.length + 1) := by omega
      rw [begins, ends, Source.segment, if_neg later]
      simp only [Source.ofText, List.toList_toArray, between]
      rw [← Source.ofText, Source.line_ofText lines, number, Source.line_ofText below]
      simp only [List.headD_cons, joinLine_head, Source.splitOctets_width_append]
      rw [List.flatten_cons]

theorem Source.segment_eq {before part after : List Char} (clean : Clean before (part ++ after))
    (clean' : Clean part after) :
    (Source.ofText (before ++ part ++ after)).segment
      ⟨reach (normalizeNewlines before),
        reach (normalizeNewlines before ++ normalizeNewlines part)⟩ =
        part := by
  obtain ⟨whole, last, broken⟩ := exists_broken before
  obtain ⟨whole', last', broken'⟩ := exists_broken part
  have lines : linesWithEnds (before ++ part ++ after) =
      whole ++ joinLine last (whole' ++ joinLine last' (linesWithEnds after)) := by
    rw [List.append_assoc, broken.lines _ clean, broken'.lines _ clean']
  have start : reach (normalizeNewlines before) = ⟨1 + whole.length, Utf8.width last⟩ := by
    rw [reach, broken.place]
    split
    · rename_i none
      rw [none, List.length_nil, Nat.zero_add]
    · rfl
  rw [Source.segment_of_lines lines start (by rw [← advance_reach, start, broken'.place])]
  exact broken'.parts.symm

end SignatureLint

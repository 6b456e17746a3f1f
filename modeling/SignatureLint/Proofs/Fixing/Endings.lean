import SignatureLint.Proofs.Edit.Endings
import SignatureLint.Proofs.Fixing.OwnSource
import SignatureLint.Proofs.Outcome

/-!
# Mending a program whose lines end in another way

The edits of the findings in a program apply to the text in which its lines end in another way,
and do the same there.  Only when lines end in carriage returns alone are the edits behind the
first line refused, because edits count lines by line feeds.
-/

namespace SignatureLint

open Edit Insertion Lexer Outline Text

namespace DeclaredParameter.EndsIn

variable {text : List Char} {parameter : DeclaredParameter} {part : Nat × Nat}

/-- A parameter ends in the same part of the turned text, if there is a line for it. -/
theorem turn {newline : Newline} (ends : parameter.EndsIn text part) (feeds : '\r' ∉ text)
    (keeps : newline = .cr → parameter.span.endLine = 1) :
    parameter.EndsIn (newline.turn text)
      (newline.placeIn text part.1, newline.placeIn text part.2) := by
  have front : reach (newline.turn (text.take part.2)) = reach (text.take part.2) := by
    apply Newline.reach_turn _ fun found => feeds (List.mem_of_mem_take found)
    intro alone
    have line := ends.line
    rw [keeps alone] at line
    exact line_reach_eq_one_iff.mp (by omega)
  have inner : (newline.turn (text.take part.2)).drop (newline.placeIn text part.1) =
      newline.turn ((text.take part.2).drop part.1) := by
    rw [← newline.drop_turn, Newline.placeIn_take ends.order]
  exact
    { anchored := ends.anchored
      typed := ends.typed
      solid := ends.solid
      inside := replaced_le newline.replace text part.2
      order := replaced_mono newline.replace text ends.order
      line := by rw [newline.take_turn, front, ends.line]
      column := by rw [newline.take_turn, front, ends.column]
      word := by
        obtain ⟨before, whole⟩ := ends.word
        rw [newline.take_turn, inner, ← whole, newline.turn_append,
          Newline.turn_of_not_mem ends.solid]
        exact List.suffix_append _ _ }

theorem startLine_edit (ends : parameter.EndsIn text part) (config : Config) :
    (ModifierDefault.edit config parameter).span.startLine = parameter.span.endLine := by
  rw [ModifierDefault.edit, ends.anchored.lastLexeme]
  rfl

theorem place_turn_cr (ends : parameter.EndsIn text part) (later : parameter.span.endLine ≠ 1)
    (config : Config) :
    1 < parameter.span.endLine ∧
      place (Utf8.encode (Newline.cr.turn text))
        (lineStarts (Utf8.encode (Newline.cr.turn text))).toArray
        (ModifierDefault.edit config parameter) =
          .error (.lineOutside parameter.span.endLine) := by
  have first : 1 ≤ (reach (text.take part.2)).line :=
    (exists_lineStart (text.take part.2) [] 0 1 0).1
  have line := ends.line
  refine ⟨by omega, ?_⟩
  have outside : offset #[0] parameter.span.endLine
      (ModifierDefault.edit config parameter).span.startColumn =
        .error (.lineOutside parameter.span.endLine) := by
    obtain ⟨index, same⟩ : ∃ index, (parameter.span.endLine - 1).toNat = index + 1 :=
      ⟨(parameter.span.endLine - 2).toNat, by omega⟩
    rw [offset, if_neg (by omega), same]
    rfl
  rw [lineStarts_encode_of_not_mem (Newline.feed_not_mem_turn_cr text), place,
    ends.startLine_edit config, outside]
  rfl

end DeclaredParameter.EndsIn

namespace FileOutline

variable {path : String} {text : List Char} {config : Config} {outline : FileOutline}

/-- The parameters of a program to which a default is added without asking end in parts of its
text, one after the other. -/
theorem exists_endsIn_fixable [Wordings] (feeds : '\r' ∉ text)
    (read : FileOutline.ofSource path text config = .ok outline) (whole : outline.error = none) :
    ∃ parts : List (Nat × Nat),
      List.Forall₂ (DeclaredParameter.EndsIn text) (outline.fixable config) parts ∧
      (parts.Pairwise fun first second => first.2 ≤ second.1) ∧
      (parts.map (·.2)).Pairwise (· < ·) := by
  obtain ⟨statements, parts, -, located, order⟩ := exists_parts_fixable read whole
  have returns : ReturnsFeed text := by
    rintro before after rfl
    exact absurd (List.mem_append_right _ List.mem_cons_self) feeds
  exact ⟨parts, endsIn_of_locates returns located, order, pairwise_lt_of_locates located order⟩

/-- There is one text that the edits of a program leave, whichever way its lines end: the lines of
the mended text end in the same way.  When lines end in carriage returns, all edits have to be on
the first line. -/
theorem exists_applyAll_turn [Wordings] (plain : '\n' ∉ config.defaultModifier.toList)
    (feeds : '\r' ∉ text)
    (read : FileOutline.ofSource path text config = .ok outline) (whole : outline.error = none) :
    ∃ edited : List Char, ∀ newline : Newline,
      (newline = .cr → ∀ edit ∈ Diagnostic.fixableEdits (outline.findings config),
        edit.span.startLine = 1) →
      applyAll (String.ofList (newline.turn text))
        (Diagnostic.fixableEdits (outline.findings config)) =
          .ok (String.ofList (newline.turn edited)) := by
  obtain ⟨parts, ends, order, ascending⟩ := exists_endsIn_fixable feeds read whole
  refine ⟨insertAll (" = " ++ config.defaultModifier).toList (parts.map (·.2)) text, ?_⟩
  intro newline keeps
  rw [fixableEdits_findings] at keeps ⊢
  -- an edit keeps its line and column, and the places in the turned text are those of the cut parts
  have turned : List.Forall₂ (DeclaredParameter.EndsIn (newline.turn text))
      (outline.fixable config)
      (parts.map fun part => (newline.placeIn text part.1, newline.placeIn text part.2)) := by
    rw [List.forall₂_map_right_iff]
    have first : ∀ parameter ∈ outline.fixable config,
        newline = .cr → (ModifierDefault.edit config parameter).span.startLine = 1 :=
      fun parameter found alone => keeps alone _ (List.mem_map_of_mem found)
    apply ((List.forall₂_and_left _ _).mpr ⟨first, ends⟩).imp
    rintro parameter part ⟨first, ends⟩
    exact ends.turn feeds fun alone => (ends.startLine_edit config).symm.trans (first alone)
  have order' : (parts.map fun part =>
      (newline.placeIn text part.1, newline.placeIn text part.2)).Pairwise
        fun first second => first.2 ≤ second.1 :=
    List.pairwise_map.mpr (order.imp fun apart => replaced_mono newline.replace text apart)
  have added : '\n' ∉ (" = " ++ config.defaultModifier).toList := by
    rw [String.toList_append, List.mem_append, not_or]
    exact ⟨by decide, plain⟩
  have places : ∀ place ∈ parts.map (·.2), place ≤ text.length := by
    intro place found
    obtain ⟨part, here, rfl⟩ := List.mem_map.mp found
    exact Related.forall_mem_of_forall₂ (P := fun part => part.2 ≤ text.length)
      (fun _ _ ends => ends.inside) ends part here
  rw [ModifierDefault.applyAll_of_endsIn config turned order',
    newline.turn_insertAll added text ascending places, List.map_map, List.map_map]
  rfl

/-- When lines end in carriage returns and an edit of a program is not on the first line, the edits
are refused as a whole. -/
theorem exists_conflict_turn_cr [Wordings] (feeds : '\r' ∉ text)
    (read : FileOutline.ofSource path text config = .ok outline) (whole : outline.error = none)
    (later : ∃ edit ∈ Diagnostic.fixableEdits (outline.findings config),
      edit.span.startLine ≠ 1) :
    ∃ line, 1 < line ∧ applyAll (String.ofList (Newline.cr.turn text))
      (Diagnostic.fixableEdits (outline.findings config)) =
        .error (.conflict (.lineOutside line)) := by
  obtain ⟨parts, ends, -, -⟩ := exists_endsIn_fixable feeds read whole
  rw [fixableEdits_findings] at later ⊢
  -- lines start behind line feeds, of which there is none: only the first line has places
  have step : ∀ edit ∈ (outline.fixable config).map (ModifierDefault.edit config),
      (∀ fault, place (Utf8.encode (Newline.cr.turn text))
          (lineStarts (Utf8.encode (Newline.cr.turn text))).toArray edit = .error fault →
        ∃ line, 1 < line ∧ fault = .lineOutside line) ∧
      (edit.span.startLine ≠ 1 → ∃ fault, place (Utf8.encode (Newline.cr.turn text))
          (lineStarts (Utf8.encode (Newline.cr.turn text))).toArray edit = .error fault) := by
    intro edit found
    obtain ⟨parameter, here, rfl⟩ := List.mem_map.mp found
    obtain ⟨part, -, ends⟩ := Related.exists_of_mem ends here
    rw [ends.startLine_edit]
    by_cases first : parameter.span.endLine = 1
    · obtain ⟨placed, stands, -⟩ := (ends.turn feeds fun _ => first).exists_place config
      refine ⟨fun fault fails => ?_, fun other => absurd first other⟩
      rw [stands] at fails
      cases fails
    · obtain ⟨below, fails⟩ := ends.place_turn_cr first config
      refine ⟨fun fault fails' => ?_, fun _ => ⟨_, fails⟩⟩
      rw [fails] at fails'
      cases fails'
      exact ⟨_, below, rfl⟩
  obtain ⟨edit, found, behind⟩ := later
  obtain ⟨fault, fails, line, below, rfl⟩ := Outcome.exists_error_of_mapM
    (fun edit found => (step edit found).1) ⟨edit, found, (step edit found).2 behind⟩
  refine ⟨line, below, ?_⟩
  rw [applyAll, applyOctets, String.toList_ofList, fails]
  rfl

end FileOutline

end SignatureLint

import Mathlib
import SignatureLint.Proofs.Analysis.Fixes
import SignatureLint.Proofs.Edit.Lines
import SignatureLint.Proofs.Outline.Parameters
import SignatureLint.Proofs.Syntax.Places

/-!
# Mending a program

The edits of the findings in a program apply to its own text.  Every one inserts the
default right behind its parameter, and nothing else changes.
-/

namespace SignatureLint

open Edit Insertion Lexer Outline Text

/-! ## Parameters at the ends of parts -/

/-- A parameter with a type whose last word, all on one line, is the last one of a part of a text,
on the line and in the column that the parameter ends in.  The text may be another one than that of
the parameter. -/
structure DeclaredParameter.EndsIn (text : List Char) (parameter : DeclaredParameter)
    (part : Nat × Nat) : Prop where
  anchored : parameter.Anchored
  typed : parameter.type.isSome
  solid : '\n' ∉ parameter.lastLexeme.text.toList
  inside : part.2 ≤ text.length
  order : part.1 ≤ part.2
  line : parameter.span.endLine = (reach (text.take part.2)).line
  column : parameter.span.endColumn = (reach (text.take part.2)).column
  word : parameter.lastLexeme.text.toList <:+ (text.take part.2).drop part.1

namespace DeclaredParameter.EndsIn

variable {text : List Char} {parameter : DeclaredParameter} {part : Nat × Nat}

/-- The edit of such a modifier is placed where the part ends, and it does not reach beyond the
beginning of the part. -/
theorem exists_place (ends : parameter.EndsIn text part) (analysis : Config) :
    ∃ placed : Placed,
      place (Utf8.encode text) (lineStarts (Utf8.encode text)).toArray
        (ModifierDefault.edit analysis parameter) = .ok placed ∧
      placed.edit = ModifierDefault.edit analysis parameter ∧
      placed.Fits (" = " ++ analysis.defaultModifier) text ∧ placed.place text = part.2 ∧
      placed.stop = Utf8.width (text.take part.2) ∧
      (Utf8.width (text.take part.1) : Int) ≤ placed.start := by
  have extend : (ModifierDefault.edit analysis parameter).Extends
      (" = " ++ analysis.defaultModifier) :=
    ModifierDefault.extends_edit ends.anchored ends.typed
  have line : (ModifierDefault.edit analysis parameter).span.endLine =
      (reach (text.take part.2)).line := by
    rw [← ends.line, ModifierDefault.edit, ends.anchored.lastLexeme]
    rfl
  have column : (ModifierDefault.edit analysis parameter).span.endColumn =
      (reach (text.take part.2)).column := by
    rw [← ends.column, ModifierDefault.edit, ends.anchored.lastLexeme]
    rfl
  have word : (ModifierDefault.edit analysis parameter).expected.toList <:+ text.take part.2 :=
    ends.word.trans (List.drop_suffix _ _)
  obtain ⟨placed, found, owner, fits, here, stops⟩ :=
    extend.exists_place ends.inside line column word
  refine ⟨placed, found, owner, fits, here, stops, ?_⟩
  obtain ⟨front, cut⟩ := ends.word
  have whole : text.take part.1 ++ (text.take part.2).drop part.1 = text.take part.2 := by
    conv => rhs; rw [← List.take_append_drop part.1 (text.take part.2)]
    rw [List.take_take, Nat.min_eq_left ends.order]
  -- the word is as wide as the edit expects, so it starts at or behind the start of the part
  have parts := congrArg Utf8.width whole
  rw [← cut, Utf8.width_append, Utf8.width_append] at parts
  have starts := fits.start
  rw [stops, owner] at starts
  have expected : (ModifierDefault.edit analysis parameter).expected.toList =
      parameter.lastLexeme.text.toList := rfl
  rw [expected] at starts
  omega

end DeclaredParameter.EndsIn

/-- The edits of parameters insert the default where the parts end that the parameters end in. -/
theorem ModifierDefault.applyAll_of_endsIn (config : Config) {text : List Char}
    {parameters : List DeclaredParameter} {parts : List (Nat × Nat)}
    (ends : List.Forall₂ (DeclaredParameter.EndsIn text) parameters parts)
    (order : parts.Pairwise fun first second => first.2 ≤ second.1) :
    applyAll (String.ofList text) (parameters.map (edit config)) =
      .ok (String.ofList
        (insertAll (" = " ++ config.defaultModifier).toList (parts.map (·.2)) text)) := by
  -- every parameter with the part that it ends in and with its edit in place
  obtain ⟨triples, rfl, cuts, each⟩ := Related.exists_triples
    (ends.imp fun parameter part ends => ends.exists_place config)
  have order : triples.Pairwise fun first second => first.2.1.2 ≤ second.2.1.1 := by
    rw [← cuts] at order
    exact List.pairwise_map.mp order
  have places : (triples.map (·.2.2)).map (Placed.place text) = parts.map (·.2) := by
    rw [← cuts, List.map_map, List.map_map]
    exact List.map_congr_left fun triple here => (each triple here).2.2.2.1
  have fits : ∀ placed ∈ triples.map (·.2.2),
      placed.Fits (" = " ++ config.defaultModifier) text := by
    intro placed member
    obtain ⟨triple, here, rfl⟩ := List.mem_map.mp member
    exact (each triple here).2.2.1
  have placed : ((triples.map (·.1)).map (edit config)).mapM
      (place (Utf8.encode text) (lineStarts (Utf8.encode text)).toArray) =
        .ok (triples.map (·.2.2)) := by
    rw [mapM_place_eq_ok_iff]
    constructor
    · rw [List.map_map, List.map_map]
      exact List.map_congr_left fun triple here => (each triple here).2.1.symm
    · intro placed member
      obtain ⟨triple, here, rfl⟩ := List.mem_map.mp member
      rw [(each triple here).2.1]
      exact (each triple here).1
  have apart : checkOverlap (descending (triples.map (·.2.2))) = .ok () := by
    apply checkOverlap_descending fun placed member => (fits placed member).start_lt_stop
    rw [List.pairwise_map]
    apply order.imp_of_mem
    intro first second here here' apart
    rw [(each first here).2.2.2.2.1]
    refine Int.le_trans (Int.ofNat_le.mpr ?_) (each second here').2.2.2.2.2
    exact Utf8.width_take_mono text apart
  have same : (String.ofList text).toList = text := String.toList_ofList
  rw [← places]
  conv at fits => enter [placed, member]; rw [← same]
  conv at placed => lhs; rw [← same]
  have applied := (applyAll_of_fits fits placed apart).2
  rwa [same] at applied

/-! ## The parameters of a program in its own text -/

namespace Outline.File

variable {path : String} {text : List Char} {config : Config} {statements : List Statement}
  {parameter : DeclaredParameter} {part : Nat × Nat}

theorem Locates.solid
    (located : Locates ⟨path, Source.ofText text, config⟩ text statements parameter part) :
    Solid ((text.take part.2).drop part.1) ∧
      parameter.lastLexeme.text.toList = Lexeme.lastOf ((text.take part.2).drop part.1) := by
  obtain ⟨slot, -, describes, stands⟩ := located
  obtain ⟨type, -, rfl⟩ := describes_iff.mp describes
  refine ⟨stands.solid, ?_⟩
  dsimp only [Lexeme.trailing]
  rw [textOf_of_stands stands, String.toList_ofList, String.toList_ofList]

/-- A parameter that stands in its source ends in the part that it stands in. -/
theorem Locates.endsIn (returns : ReturnsFeed text)
    (located : Locates ⟨path, Source.ofText text, config⟩ text statements parameter part)
    (typed : parameter.type.isSome) : parameter.EndsIn text part := by
  have word : parameter.lastLexeme.text.toList <:+ (text.take part.2).drop part.1 := by
    rw [located.solid.2]
    exact Lexeme.lastOf_suffix located.solid.1
  have solid : '\n' ∉ parameter.lastLexeme.text.toList := by
    rw [located.solid.2]
    exact Lexeme.feed_not_mem_lastOf located.solid.1
  obtain ⟨slot, -, describes, stands⟩ := located
  have stop : slot.argument.range.stop = reach (text.take part.2) := by
    have front : ReturnsFeed (text.take part.2) := by
      have whole := List.take_append_drop part.2 text
      rw [← whole] at returns
      exact returns.front stands.clean'
    rw [stands.range]
    exact front.advance_normalizeNewlines ⟨1, 0⟩
  have anchored := describes.anchored stands
  obtain ⟨type, -, rfl⟩ := describes_iff.mp describes
  exact
    { anchored, typed, solid, word
      inside := stands.inside
      order := stands.order
      line := by rw [← stop]; rfl
      column := by rw [← stop]; rfl }

end Outline.File

namespace FileOutline

variable {path : String} {text : List Char} {config : Config} {outline : FileOutline}

/-- The parameters of a program to which a default is added without asking stand in its text, one
after the other. -/
theorem exists_parts_fixable [Wordings] (read : FileOutline.ofSource path text config = .ok outline)
    (whole : outline.error = none) :
    ∃ (statements : List Statement) (parts : List (Nat × Nat)),
      Program.read text = .ok statements ∧
      List.Forall₂ (File.Locates ⟨path, Source.ofText text, config⟩ text statements)
        (outline.fixable config) parts ∧
      parts.Pairwise fun first second => first.2 ≤ second.1 := by
  obtain ⟨statements, parts, reads, located, order⟩ := exists_parts read whole
  obtain ⟨parts, sublist, located⟩ :=
    Related.exists_sublist_of_forall₂ (fixable_sublist config outline) located
  exact ⟨statements, parts, reads, located, order.sublist sublist⟩

variable {statements : List Statement} {parts : List (Nat × Nat)}

theorem pairwise_lt_of_locates
    (located : List.Forall₂ (File.Locates ⟨path, Source.ofText text, config⟩ text statements)
      (outline.fixable config) parts)
    (order : parts.Pairwise fun first second => first.2 ≤ second.1) :
    (parts.map (·.2)).Pairwise (· < ·) := by
  rw [List.pairwise_map]
  apply order.imp_of_mem
  intro first second _ here apart
  obtain ⟨parameter, -, slot, -, -, stands⟩ := Related.exists_of_mem located.flip here
  exact Nat.lt_of_le_of_lt apart stands.lt

/-- The parameters of a program to which a default is added without asking end in the parts that
they stand in. -/
theorem endsIn_of_locates (returns : ReturnsFeed text)
    (located : List.Forall₂ (File.Locates ⟨path, Source.ofText text, config⟩ text statements)
      (outline.fixable config) parts) :
    List.Forall₂ (DeclaredParameter.EndsIn text) (outline.fixable config) parts := by
  have typed : ∀ parameter ∈ outline.fixable config, parameter.type.isSome :=
    fun parameter found => ModifierDefault.isSome_type_of_isFixable (isFixable_of_mem_fixable found)
  exact ((List.forall₂_and_left _ _).mpr ⟨typed, located⟩).imp
    fun parameter part ⟨typed, located⟩ => located.endsIn returns typed

theorem applyAll_of_locates (returns : ReturnsFeed text)
    (located : List.Forall₂ (File.Locates ⟨path, Source.ofText text, config⟩ text statements)
      (outline.fixable config) parts)
    (order : parts.Pairwise fun first second => first.2 ≤ second.1) :
    applyAll (String.ofList text) (Diagnostic.fixableEdits (outline.findings config)) =
      .ok (String.ofList
        (insertAll (" = " ++ config.defaultModifier).toList (parts.map (·.2)) text)) := by
  rw [fixableEdits_findings]
  exact ModifierDefault.applyAll_of_endsIn config (endsIn_of_locates returns located) order

/-- A finding about the parameter of a program that ends at a place of its text. -/
def EndsAt (path : String) (text : List Char) (statements : List Statement)
    (diagnostic : Diagnostic) (place : Nat) : Prop :=
  ∃ argument ∈ Program.argumentsOfAll statements, ∃ start,
    diagnostic.location = Span.ofRange path argument.range ∧
    Stands text argument.range (start, place)

/-- The edits of the findings in a program are applied to its own text.  They insert the default
right behind each parameter of which the finding has an edit that is applied without asking, and
change nothing else. -/
theorem applyAll_findings [Wordings] (returns : ReturnsFeed text)
    (read : FileOutline.ofSource path text config = .ok outline) (whole : outline.error = none) :
    ∃ (statements : List Statement) (places : List Nat),
      Program.read text = .ok statements ∧
      List.Forall₂ (EndsAt path text statements)
        (((Analyzer.start config).examine outline).1.filter (·.autoFix?.isSome)) places ∧
      places.Pairwise (· < ·) ∧
      applyAll (String.ofList text)
        (Diagnostic.fixableEdits ((Analyzer.start config).examine outline).1) =
          .ok (String.ofList
            (insertAll (" = " ++ config.defaultModifier).toList places text)) := by
  obtain ⟨statements, parts, reads, located, order⟩ := exists_parts_fixable read whole
  rw [Analyzer.examine_start]
  refine ⟨statements, parts.map (·.2), reads, ?_, pairwise_lt_of_locates located order,
    applyAll_of_locates returns located order⟩
  rw [filter_autoFix?_findings, List.forall₂_map_left_iff, List.forall₂_map_right_iff]
  apply located.imp
  rintro parameter part ⟨slot, here, describes, stands⟩
  obtain ⟨type, -, rfl⟩ := File.describes_iff.mp describes
  exact ⟨slot.argument, here, part.1, rfl, stands⟩

/-- A program of one function with two modifiers, on lines that end in two characters. -/
def sampleProgram : String :=
  "@composable  # größe\r\ndef box(size: Modifier, *,\r\n        m: Modifier): pass\r\n"

section

attribute [local instance] Wordings.short

/-- The edits of the program are applied to it. -/
theorem applyAll_findings_sampleProgram :
    ReturnsFeed sampleProgram.toList ∧
    ∃ outline, FileOutline.ofSource "a.py" sampleProgram.toList {} = .ok outline ∧
      outline.error = none ∧
      ∃ (statements : List Statement) (places : List Nat),
        Program.read sampleProgram.toList = .ok statements ∧
        List.Forall₂ (EndsAt "a.py" sampleProgram.toList statements)
          (((Analyzer.start {}).examine outline).1.filter (·.autoFix?.isSome)) places ∧
        places.Pairwise (· < ·) ∧
        applyAll (String.ofList sampleProgram.toList)
          (Diagnostic.fixableEdits ((Analyzer.start {}).examine outline).1) =
            .ok (String.ofList
              (insertAll (" = " ++ "Modifier").toList places sampleProgram.toList)) := by
  have returns : ReturnsFeed sampleProgram.toList := by decide +kernel
  have computed : ∃ statements ∈ (Program.read sampleProgram.toList).toOption,
      ∀ argument ∈ Program.argumentsOfAll statements, File.isPlain argument = true := by
    decide +kernel
  obtain ⟨statements, found, plain⟩ := computed
  obtain ⟨outline, read, whole⟩ := exists_of_isPlain (Outcome.eq_ok_of_mem_toOption found) plain
  exact ⟨returns, outline, read, whole, applyAll_findings returns read whole⟩

end

/-! ## A small program -/

/-- A program of one function with one modifier. -/
def sampleModifier : String := "@composable\ndef f(m: Modifier): pass\n"

/-- What is read of the program. -/
def sampleStatements : List Statement :=
  [.function ⟨"f", [.name "composable"],
    ⟨[], [⟨"m", some ⟨.name "Modifier", ⟨⟨2, 9⟩, ⟨2, 17⟩⟩⟩, ⟨⟨2, 6⟩, ⟨2, 17⟩⟩⟩], 0, []⟩,
    ⟨⟨2, 0⟩, ⟨2, 24⟩⟩⟩ [.simple]]

set_option maxRecDepth 10000 in
theorem read_sampleModifier :
    Program.read sampleModifier.toList = .ok sampleStatements := by
  cbv

end FileOutline

end SignatureLint

import Mathlib
import SignatureLint.Proofs.Analysis.Files
import SignatureLint.Proofs.Edit.Files
import SignatureLint.Proofs.Fixing.Endings
import SignatureLint.Proofs.Pathname

/-!
# Mending files in any style

The same text can stand in files whose lines end in different ways, with a mark in front or
without one.  What is found in such files is the same, and mending them leaves the same text in
the same style, unless lines end in carriage returns alone.
-/

namespace SignatureLint

open Edit

/-! ## Styles -/

/-- A text as the octets of a file: how its lines end, and whether a mark stands in front. -/
def styled (newline : Newline) (marked : Bool) (text : List Char) : List UInt8 :=
  (if marked then Utf8.byteOrderMark else []) ++ Utf8.encode (newline.turn text)

variable {newline : Newline} {marked : Bool} {text : List Char}

theorem head?_turn (bare : text.head? ≠ some '\uFEFF') :
    (newline.turn text).head? ≠ some '\uFEFF' := by
  cases text with
  | nil => exact bare
  | cons c rest =>
      by_cases feed : c = '\n'
      · rw [feed, Newline.turn_feed]
        cases newline <;> exact fun same => absurd (Option.some.inj same) (by decide)
      · rwa [Newline.turn_cons feed]

theorem withoutMark_styled (bare : text.head? ≠ some '\uFEFF') :
    Utf8.withoutMark (styled newline marked text) = Utf8.encode (newline.turn text) := by
  cases marked with
  | true => exact Utf8.withoutMark_append _
  | false => exact Utf8.withoutMark_encode (head?_turn bare)

theorem splitMark_styled (bare : text.head? ≠ some '\uFEFF') :
    Utf8.splitMark (styled newline marked text) =
      (if marked then Utf8.byteOrderMark else [], Utf8.encode (newline.turn text)) := by
  cases marked with
  | true => exact Utf8.splitMark_append _
  | false => exact Utf8.splitMark_encode (head?_turn bare)

namespace Edit

theorem applyToFile_styled (bare : text.head? ≠ some '\uFEFF') (edits : List Edit) :
    applyToFile (styled newline marked text) edits =
      (applyAll (String.ofList (newline.turn text)) edits).mapError .edit >>= fun edited =>
        .ok ((if marked then Utf8.byteOrderMark else []) ++ Utf8.encode edited.toList) := by
  rw [applyToFile, splitMark_styled bare]
  dsimp only
  rw [Utf8.decode_encode]
  rfl

end Edit

namespace FileOutline

theorem path_of_mem_fixableEdits [Wordings] {path : String} {config : Config}
    {outline : FileOutline}
    (read : FileOutline.ofSource path text config = .ok outline) (whole : outline.error = none) :
    ∀ edit ∈ Diagnostic.fixableEdits (outline.findings config), edit.span.path = path := by
  obtain ⟨statements, parts, -, located, -⟩ := exists_parts_fixable read whole
  intro edit found
  rw [fixableEdits_findings] at found
  obtain ⟨parameter, here, rfl⟩ := List.mem_map.mp found
  obtain ⟨part, -, slot, -, describes, -⟩ := Related.exists_of_mem located here
  obtain ⟨type, -, rfl⟩ := Outline.File.describes_iff.mp describes
  rfl

end FileOutline

namespace FileTree

variable {tree : FileTree} {path : Pathname} {config : Config} {outline : FileOutline}

theorem sourceText_of_styled (here : tree.read path = .ok (styled newline marked text))
    (feeds : '\r' ∉ text) (bare : text.head? ≠ some '\uFEFF') :
    tree.sourceText path = .ok text := by
  rw [sourceText, here]
  simp only [Except.mapError, bind, Except.bind, withoutMark_styled bare, Utf8.decode_encode,
    Newline.normalizeNewlines_turn feeds]
  rfl

theorem fixFile_of_styled {name : String}
    (here : tree.read (Pathname.ofString name) = .ok (styled newline marked text))
    (bare : text.head? ≠ some '\uFEFF') {edits : List Edit} {edited : List Char}
    (applied : applyAll (String.ofList (newline.turn text)) edits =
      .ok (String.ofList (newline.turn edited))) :
    ∃ mended, tree.fixFile name edits = .ok mended ∧
      mended.read (Pathname.ofString name) = .ok (styled newline marked edited) := by
  obtain ⟨mended, written, there⟩ := exists_write here (styled newline marked edited)
  refine ⟨mended, ?_, there⟩
  rw [fixFile, here]
  simp only [Except.mapError, bind, Except.bind, applyToFile_styled bare, applied,
    String.toList_ofList]
  rw [← styled, written]

theorem fixFile_of_conflict {name : String}
    (here : tree.read (Pathname.ofString name) = .ok (styled newline marked text))
    (bare : text.head? ≠ some '\uFEFF') {edits : List Edit} {fault : EditError}
    (refused : applyAll (String.ofList (newline.turn text)) edits = .error fault) :
    tree.fixFile name edits = .error (.edit fault) := by
  rw [fixFile, here]
  simp only [Except.mapError, bind, Except.bind, applyToFile_styled bare, refused]

/-- The same is found in a file whatever its style, and mending the file leaves one text in the
style that the file had.  When lines end in carriage returns alone, that is so only if all edits are
on the first line; otherwise the edits are refused, and the file stays as it is. -/
theorem fix_of_styled [Wordings] {name : String} {text : List Char} {outline : FileOutline}
    (feeds : '\r' ∉ text) (bare : text.head? ≠ some '\uFEFF')
    (read : FileOutline.ofSource (Pathname.ofString name).display text {} = .ok outline)
    (whole : outline.error = none) :
    ∃ (result : AnalysisResult) (edited : List Char),
      ∀ (newline : Newline) (marked : Bool) (tree : FileTree),
        tree.read (Pathname.ofString name) = .ok (styled newline marked text) →
        tree.analyze {} [Pathname.ofString name] = .ok result ∧
        ((newline = .cr → ∀ edit ∈ Diagnostic.fixableEdits result.diagnostics,
            edit.span.startLine = 1) →
          ∃ mended applied, tree.fix result.diagnostics = (mended, .ok applied) ∧
            mended.read (Pathname.ofString name) = .ok (styled newline marked edited)) ∧
        (newline = .cr → (∃ edit ∈ Diagnostic.fixableEdits result.diagnostics,
            edit.span.startLine ≠ 1) →
          ∃ line, 1 < line ∧ tree.fix result.diagnostics =
            (tree, .error (.edit (.conflict (.lineOutside line))))) := by
  obtain ⟨edited, applies⟩ := FileOutline.exists_applyAll_turn (by decide) feeds read whole
  refine ⟨{ diagnostics := outline.findings {}, filesScanned := 1 }, edited, ?_⟩
  intro newline marked tree here
  have paths := FileOutline.path_of_mem_fixableEdits read whole
  have here' := here
  rw [← Pathname.ofString_display name] at here'
  refine ⟨analyze_of_sourceText here (sourceText_of_styled here feeds bare) read whole, ?_, ?_⟩
  · intro keeps
    have applied := applies newline keeps
    dsimp only
    -- without edits no file is opened at all, so that case does not come out of the other one
    by_cases none : Diagnostic.fixableEdits (outline.findings {}) = []
    · rw [none, applyAll_nil] at applied
      have same : newline.turn text = newline.turn edited :=
        String.ofList_injective (Except.ok.inj applied)
      rw [styled, same, ← styled] at here
      refine ⟨tree, [], ?_, here⟩
      rw [fix, none]
      rfl
    · obtain ⟨mended, written, there⟩ := fixFile_of_styled here' bare applied
      rw [Pathname.ofString_display] at there
      exact ⟨mended, _, by rw [fix_of_path none paths, written], there⟩
  · rintro rfl later
    obtain ⟨line, below, refused⟩ := FileOutline.exists_conflict_turn_cr feeds read whole later
    have some : Diagnostic.fixableEdits (outline.findings {}) ≠ [] := by
      obtain ⟨edit, found, -⟩ := later
      exact List.ne_nil_of_mem found
    refine ⟨line, below, ?_⟩
    rw [fix_of_path some paths, fixFile_of_conflict here' bare refused]

open FileOutline (sampleModifier)

def styledTree (newline : Newline) (marked : Bool) : FileTree where
  nodes := [(["a.py"], .file (styled newline marked sampleModifier.toList))]

/-- What is declared in the program. -/
def sampleOutline : FileOutline where
  path := "a.py"
  declarations :=
    [{ name := "f", qualifiedName := "f", scope := none
       markers := ⟨["composable"], by decide⟩
       bindings := {}
       span := ⟨"a.py", 2, 0, 2, 24⟩
       parameters :=
        [{ name := "m"
           type := some
            { text := "Modifier", rawName := "Modifier", span := some ⟨"a.py", 2, 9, 2, 17⟩,
              coreText := "Modifier" }
           hasDefault := false, acceptsDefault := true
           span := ⟨"a.py", 2, 6, 2, 17⟩
           text := "m: Modifier"
           lastLexeme := ⟨"Modifier", ⟨"a.py", 2, 9, 2, 17⟩⟩ }] }]

theorem ofSource_sampleModifier [Wordings] :
    FileOutline.ofSource (Pathname.ofString "a.py").display sampleModifier.toList {} =
      .ok sampleOutline := by
  rw [FileOutline.ofSource, FileOutline.read_sampleModifier]
  cbv

theorem read_styledTree (newline : Newline) (marked : Bool) :
    (styledTree newline marked).read (Pathname.ofString "a.py") =
      .ok (styled newline marked sampleModifier.toList) := by
  refine read_eq_ok_iff.mpr ⟨["a.py"], ?_, rfl⟩
  have names : (Pathname.ofString "a.py").names = ["a.py"] := by decide
  have plain : (Pathname.ofString "a.py").hasNull = false := by decide
  have start : (styledTree newline marked).origin (Pathname.ofString "a.py") = [] := rfl
  rw [locate, plain, names, start, walk]
  simp [node?, walk, Except.mapError, styledTree]

attribute [local instance] Wordings.short

/-- The program is mended in a file with a mark and with lines that end in two characters. -/
theorem fix_of_styled_sampleModifier :
    '\r' ∉ sampleModifier.toList ∧ sampleModifier.toList.head? ≠ some '\uFEFF' ∧
    FileOutline.ofSource (Pathname.ofString "a.py").display sampleModifier.toList {} =
      .ok sampleOutline ∧ sampleOutline.error = none ∧
    (styledTree .crlf true).read (Pathname.ofString "a.py") =
      .ok (styled .crlf true sampleModifier.toList) ∧
    ∃ result edited mended applied,
      (styledTree .crlf true).analyze {} [Pathname.ofString "a.py"] = .ok result ∧
      (styledTree .crlf true).fix result.diagnostics = (mended, .ok applied) ∧
      mended.read (Pathname.ofString "a.py") = .ok (styled .crlf true edited) := by
  have feeds : '\r' ∉ sampleModifier.toList := by decide
  have bare : sampleModifier.toList.head? ≠ some '\uFEFF' := by decide
  have here := read_styledTree .crlf true
  obtain ⟨result, edited, each⟩ := fix_of_styled feeds bare ofSource_sampleModifier rfl
  obtain ⟨analyzed, mends, -⟩ := each .crlf true (styledTree .crlf true) here
  obtain ⟨mended, applied, fixed, there⟩ := mends nofun
  exact ⟨feeds, bare, ofSource_sampleModifier, rfl, here, result, edited, mended, applied, analyzed,
    fixed, there⟩

/-- In a file with lines that end in carriage returns alone the program is not mended. -/
theorem fix_sampleModifier_cr :
    '\r' ∉ sampleModifier.toList ∧ sampleModifier.toList.head? ≠ some '\uFEFF' ∧
    FileOutline.ofSource (Pathname.ofString "a.py").display sampleModifier.toList {} =
      .ok sampleOutline ∧ sampleOutline.error = none ∧
    (styledTree .cr false).read (Pathname.ofString "a.py") =
      .ok (styled .cr false sampleModifier.toList) ∧
    ∃ result, (styledTree .cr false).analyze {} [Pathname.ofString "a.py"] = .ok result ∧
      (styledTree .cr false).fix result.diagnostics =
        (styledTree .cr false, .error (.edit (.conflict (.lineOutside 2)))) := by
  have feeds : '\r' ∉ sampleModifier.toList := by decide
  have bare : sampleModifier.toList.head? ≠ some '\uFEFF' := by decide
  have here := read_styledTree .cr false
  have analyzed := analyze_of_sourceText here (sourceText_of_styled here feeds bare)
    ofSource_sampleModifier rfl
  refine ⟨feeds, bare, ofSource_sampleModifier, rfl, here, _, analyzed, ?_⟩
  have found : Diagnostic.fixableEdits (sampleOutline.findings {}) ≠ [] ∧
      (∀ edit ∈ Diagnostic.fixableEdits (sampleOutline.findings {}), edit.span.path = "a.py") ∧
      applyAll (String.ofList (Newline.cr.turn sampleModifier.toList))
        (Diagnostic.fixableEdits (sampleOutline.findings {})) =
          .error (.conflict (.lineOutside 2)) := by
    decide +kernel
  obtain ⟨some, paths, refused⟩ := found
  rw [fix_of_path some paths, fixFile_of_conflict here bare refused]

end FileTree

end SignatureLint

import Mathlib
import SignatureLint.Analysis.Files
import SignatureLint.Proofs.Analysis.Violations
import SignatureLint.Proofs.Outline.Faultless

/-!
# Whole analyses

An analysis of path names puts together what each file adds: the violations in it, or one
complaint if it cannot be read or is no program.  Two things keep it from any result at all:
a path name whose place cannot be told, and an annotation that cannot be described, in
whatever file it stands.
-/

namespace SignatureLint

namespace FileTree

/-! ## One file -/

inductive Adds [Wordings] (tree : FileTree) (config : Config) (path : Pathname) :
    AnalysisResult → Prop
  | unreadable {error : TextError} (fails : tree.sourceText path = .error error) :
      Adds tree config path
        { errors := [path.display ++ ": " ++ error.message], filesScanned := 1 }
  | noProgram {text : List Char} {error : SyntaxError} (source : tree.sourceText path = .ok text)
      (fails : Program.read text = .error error) :
      Adds tree config path
        { errors := [path.display ++ ": " ++ Wordings.program path.display text]
          filesScanned := 1 }
  | program {text : List Char} {statements : List Statement} {outline : FileOutline}
      (source : tree.sourceText path = .ok text) (read : Program.read text = .ok statements)
      (declared : FileOutline.ofSource path.display text config = .ok outline) :
      Adds tree config path { diagnostics := outline.violations config, filesScanned := 1 }

/-- If a file holds a program, nothing that the annotations of its parameters come down to is
faulty. -/
def Describable (tree : FileTree) (path : Pathname) : Prop :=
  ∀ text statements, tree.sourceText path = .ok text → Program.read text = .ok statements →
    ∀ argument ∈ Program.argumentsOfAll statements, argument.Faultless

variable {tree : FileTree} {config : Config} {path : Pathname} {text : List Char}

theorem ofText_of_error [Wordings] {error : SyntaxError}
    (fails : Program.read text = .error error) :
    AnalysisResult.ofText config path text =
      .ok
        { errors := [path.display ++ ": " ++ Wordings.program path.display text]
          filesScanned := 1 } := by
  let outline : FileOutline :=
    { path := path.display, declarations := []
      error := some (Wordings.program path.display text) }
  have failure : outline.failure? = some (Wordings.program path.display text) := by
    refine Option.filter_eq_some_iff.mpr ⟨rfl, ?_⟩
    rw [Bool.not_eq_true', ← Bool.not_eq_true, String.isEmpty_iff]
    exact Wordings.program_ne_empty _ _
  rw [AnalysisResult.ofText, FileOutline.ofSource_of_error fails]
  dsimp only [bind, Except.bind]
  rw [failure]
  rfl

theorem ofText_of_outline [Wordings] {statements : List Statement} {outline : FileOutline}
    (read : Program.read text = .ok statements)
    (declared : FileOutline.ofSource path.display text config = .ok outline) :
    AnalysisResult.ofText config path text =
      .ok { diagnostics := outline.violations config, filesScanned := 1 } := by
  have clean : outline.failure? = none := by
    rw [FileOutline.failure?, FileOutline.error_of_read read declared]
    rfl
  have sink : ((Analyzer.after config #[]).examine outline).2.sink =
      (outline.violations config).toArray := by
    rw [Analyzer.examine_after]
    exact Array.empty_append
  rw [AnalysisResult.ofText, declared]
  simp only [bind, Except.bind, clean, ← Analyzer.after_empty, sink]
  rfl

theorem adds_of_analyzeFile [Wordings] {result : AnalysisResult}
    (h : tree.analyzeFile config path = .ok result) : tree.Adds config path result := by
  unfold analyzeFile at h
  cases source : tree.sourceText path with
  | error error =>
      rw [source] at h
      cases h
      exact .unreadable source
  | ok text =>
      rw [source] at h
      dsimp only at h
      cases read : Program.read text with
      | error error =>
          rw [ofText_of_error read] at h
          cases h
          exact .noProgram source read
      | ok statements =>
          obtain ⟨outline, declared, -⟩ := Outcome.exists_of_bind_eq_ok h
          rw [ofText_of_outline read declared] at h
          cases h
          exact .program source read declared

/-- A file comes to something if what it holds can be described. -/
theorem exists_analyzeFile_iff [Wordings] :
    (∃ result, tree.analyzeFile config path = .ok result) ↔ tree.Describable path := by
  unfold analyzeFile Describable
  cases source : tree.sourceText path with
  | error error => exact iff_of_true ⟨_, rfl⟩ nofun
  | ok text =>
      dsimp only
      cases read : Program.read text with
      | error error =>
          rw [ofText_of_error read]
          refine iff_of_true ⟨_, rfl⟩ fun text' statements same read' => ?_
          cases same
          rw [read] at read'
          cases read'
      | ok statements =>
          have outlined : (∃ result, AnalysisResult.ofText config path text = .ok result) ↔
              ∃ outline, FileOutline.ofSource path.display text config = .ok outline := by
            constructor
            · rintro ⟨result, h⟩
              obtain ⟨outline, declared, -⟩ := Outcome.exists_of_bind_eq_ok h
              exact ⟨outline, declared⟩
            · rintro ⟨outline, declared⟩
              exact ⟨_, ofText_of_outline read declared⟩
          rw [outlined, FileOutline.exists_ofSource_iff read]
          constructor
          · intro faultless text' statements' same read'
            cases same
            rw [read] at read'
            cases read'
            exact faultless
          · exact fun describable => describable text statements rfl read

/-! ## Several files -/

theorem exists_analyzeFiles_iff [Wordings] {paths : List Pathname} :
    (∃ result, tree.analyzeFiles config paths = .ok result) ↔
      ∀ path ∈ paths, tree.Describable path := by
  induction paths with
  | nil => exact iff_of_true ⟨{}, rfl⟩ nofun
  | cons path rest ih =>
      rw [List.forall_mem_cons, ← ih, ← @exists_analyzeFile_iff tree config path, analyzeFiles]
      exact Outcome.exists_both_ok_iff

theorem exists_parts_of_analyzeFiles [Wordings] {paths : List Pathname} {result : AnalysisResult}
    (h : tree.analyzeFiles config paths = .ok result) :
    ∃ parts, List.Forall₂ (fun path part => tree.analyzeFile config path = .ok part) paths parts ∧
      result = parts.foldr (· ++ ·) {} := by
  induction paths generalizing result with
  | nil =>
      cases h
      exact ⟨[], .nil, rfl⟩
  | cons path rest ih =>
      obtain ⟨first, here, h⟩ := Outcome.exists_of_bind_eq_ok h
      obtain ⟨others, there, h⟩ := Outcome.exists_of_bind_eq_ok h
      cases h
      obtain ⟨parts, each, rfl⟩ := ih there
      exact ⟨first :: parts, .cons here each, rfl⟩

theorem exists_adds_of_analyzeFiles [Wordings] {paths : List Pathname} {result : AnalysisResult}
    (h : tree.analyzeFiles config paths = .ok result) :
    ∃ added, List.Forall₂ (tree.Adds config) paths added ∧ result = added.foldr (· ++ ·) {} := by
  obtain ⟨parts, each, whole⟩ := exists_parts_of_analyzeFiles h
  exact ⟨parts, each.imp fun _ _ here => adds_of_analyzeFile here, whole⟩

/-! ## Path names -/

/-- Path names stand for the files that are collected if the place of each candidate can be
told. -/
theorem collectChecked_eq_ok_iff {paths files : List Pathname} :
    tree.collectChecked paths = .ok files ↔
      (∀ path ∈ paths.flatMap (Collect.candidates tree), tree.placeError? path = none) ∧
        files = tree.collect paths := by
  rw [collectChecked, ← List.findSome?_eq_none_iff]
  cases (paths.flatMap (Collect.candidates tree)).findSome? tree.placeError? with
  | some error => exact iff_of_false nofun fun h => nomatch h.1
  | none => exact ⟨fun h => ⟨rfl, (Except.ok.inj h).symm⟩, fun h => congrArg Except.ok h.2.symm⟩

theorem analyze_eq_ok_iff [Wordings] {paths : List Pathname} {result : AnalysisResult} :
    tree.analyze config paths = .ok result ↔
      (∀ path ∈ paths.flatMap (Collect.candidates tree), tree.placeError? path = none) ∧
        tree.analyzeFiles config (tree.collect paths) = .ok result := by
  rw [analyze]
  constructor
  · intro h
    obtain ⟨files, collected, h⟩ := Outcome.exists_of_bind_eq_ok h
    obtain ⟨told, rfl⟩ := collectChecked_eq_ok_iff.mp (Outcome.mapError_eq_ok_iff.mp collected)
    exact ⟨told, Outcome.mapError_eq_ok_iff.mp h⟩
  · rintro ⟨told, found⟩
    rw [collectChecked_eq_ok_iff.mpr ⟨told, rfl⟩]
    exact Outcome.mapError_eq_ok_iff.mpr found

theorem exists_analyze_iff [Wordings] {paths : List Pathname} :
    (∃ result, tree.analyze config paths = .ok result) ↔
      (∀ path ∈ paths.flatMap (Collect.candidates tree), tree.placeError? path = none) ∧
        ∀ path ∈ tree.collect paths, tree.Describable path := by
  rw [← @exists_analyzeFiles_iff tree config]
  simp only [analyze_eq_ok_iff, exists_and_left]

/--
An analysis returns a result exactly if the place of every candidate can be told and every
collected file can be described.  The result then counts the collected files, and has in their
order what each of them adds: its violations, or one complaint.
-/
theorem analyze_returns [Wordings] (tree : FileTree) (config : Config) (paths : List Pathname) :
    ((∃ result, tree.analyze config paths = .ok result) ↔
      (∀ path ∈ paths.flatMap (Collect.candidates tree), tree.placeError? path = none) ∧
        ∀ path ∈ tree.collect paths, tree.Describable path) ∧
    ∀ result, tree.analyze config paths = .ok result →
      ∃ added, List.Forall₂ (tree.Adds config) (tree.collect paths) added ∧
        result = added.foldr (· ++ ·) {} :=
  ⟨exists_analyze_iff, fun _ h => exists_adds_of_analyzeFiles (analyze_eq_ok_iff.mp h).2⟩

/-- A tree with a component in one file, and in another one a function of which the parameter has a
null character for its type. -/
def nullTree : FileTree where
  nodes :=
    [(["a.py"], .file (Utf8.encode "@composable\ndef f(m: Modifier): pass\n".toList)),
      (["b.py"], .file (Utf8.encode "def g(x: '\\0'): pass\n".toList))]

set_option maxRecDepth 10000 in
theorem read_nullTree :
    Program.read "def g(x: '\\0'): pass\n".toList =
      .ok [.function
        ⟨"g", [],
          ⟨[], [⟨"x", some ⟨.constant (.text (.clean "\x00") false), ⟨⟨1, 9⟩, ⟨1, 13⟩⟩⟩,
            ⟨⟨1, 6⟩, ⟨1, 13⟩⟩⟩], 0, []⟩,
          ⟨⟨1, 0⟩, ⟨1, 20⟩⟩⟩ [.simple]] := by
  cbv

attribute [local instance] Wordings.short

/-- The analysis of the whole tree returns nothing. -/
theorem not_exists_analyze_nullTree :
    ¬∃ result, nullTree.analyze {} [Pathname.ofString "."] = .ok result := by
  have collected : nullTree.collect [Pathname.ofString "."] =
      [Pathname.ofString "a.py", Pathname.ofString "b.py"] := by
    cbv
  have source : nullTree.sourceText (Pathname.ofString "b.py") =
      .ok "def g(x: '\\0'): pass\n".toList := by
    cbv
  rw [exists_analyze_iff, collected]
  rintro ⟨-, describable⟩
  have faultless := describable _ (List.mem_cons_of_mem _ List.mem_cons_self) _ _ source
    read_nullTree _ List.mem_cons_self
  exact faultless _ rfl _ .refl (.nullCharacter false (by decide))

end FileTree

end SignatureLint

import SignatureLint.Analysis

/-!
# What an examination finds

The rules work through a sink to which everything is reported.  What they return
does not depend on it: it is what the rules have to say about each parameter, by
declaration and then by rule, and the same is added to the sink.
-/

namespace SignatureLint

namespace Issue

/-- What the rule behind an issue has to say about a declaration. -/
def findings (issue : Issue) (config : Config) (declaration : Declaration) : List Diagnostic :=
  if declaration.isEligible config.componentMarkers then
    declaration.parameters.filterMap (issue.check config)
  else []

end Issue

namespace Declaration

/-- What the rules behind some issues have to say about a declaration. -/
def findings (declaration : Declaration) (config : Config) (issues : List Issue) :
    List Diagnostic :=
  issues.flatMap fun issue => issue.findings config declaration

end Declaration

namespace FileOutline

/-- What the enabled rules have to say about the declarations of a file. -/
def findings (outline : FileOutline) (config : Config) : List Diagnostic :=
  outline.declarations.flatMap fun declaration =>
    declaration.findings config config.enabledIssues

end FileOutline

namespace Reporting

theorem run_checkParameters (check : DeclaredParameter → Option Diagnostic)
    (parameters : List DeclaredParameter) (sink : Array Diagnostic) :
    (checkParameters check parameters).run sink =
      (parameters.filterMap check, sink ++ (parameters.filterMap check).toArray) := by
  induction parameters generalizing sink with
  | nil => exact congrArg (Prod.mk []) (Array.append_empty).symm
  | cons parameter rest ih =>
      cases found : check parameter with
      | none =>
          rw [checkParameters, List.filterMap_cons_none found]
          simp only [found]
          exact ih sink
      | some diagnostic =>
          have first : (checkParameters check (parameter :: rest)).run sink =
              (diagnostic :: ((checkParameters check rest).run (sink.push diagnostic)).1,
                ((checkParameters check rest).run (sink.push diagnostic)).2) := by
            simp only [checkParameters, found]
            rfl
          rw [first, ih, List.filterMap_cons_some found]
          simp

theorem run_runRule (config : Config) (issue : Issue) (declaration : Declaration)
    (sink : Array Diagnostic) :
    (runRule config issue declaration).run sink =
      (issue.findings config declaration,
        sink ++ (issue.findings config declaration).toArray) := by
  unfold runRule Issue.findings
  split
  · exact run_checkParameters _ _ sink
  · exact congrArg (Prod.mk []) (Array.append_empty).symm

theorem run_runRules (config : Config) (declaration : Declaration) (issues : List Issue)
    (sink : Array Diagnostic) :
    (runRules config declaration issues).run sink =
      (declaration.findings config issues,
        sink ++ (declaration.findings config issues).toArray) := by
  induction issues generalizing sink with
  | nil => exact congrArg (Prod.mk []) (Array.append_empty).symm
  | cons issue rest ih =>
      have first : (runRules config declaration (issue :: rest)).run sink =
          let one := (runRule config issue declaration).run sink
          let others := (runRules config declaration rest).run one.2
          (one.1 ++ others.1, others.2) := rfl
      rw [first, run_runRule]
      dsimp only
      rw [ih]
      simp [Declaration.findings]

theorem run_examine (config : Config) (issues : List Issue) (declarations : List Declaration)
    (sink : Array Diagnostic) :
    (examine config issues declarations).run sink =
      (declarations.flatMap fun declaration => declaration.findings config issues,
        sink ++
          (declarations.flatMap fun declaration =>
            declaration.findings config issues).toArray) := by
  induction declarations generalizing sink with
  | nil => exact congrArg (Prod.mk []) (Array.append_empty).symm
  | cons declaration rest ih =>
      have first : (examine config issues (declaration :: rest)).run sink =
          let one := (runRules config declaration issues).run sink
          let others := (examine config issues rest).run one.2
          (one.1 ++ others.1, others.2) := rfl
      rw [first, run_runRules]
      dsimp only
      rw [ih]
      simp

end Reporting

namespace Analyzer

/-- An analyzer that looks for what its configuration enables. -/
def Standard (config : Config) (analyzer : Analyzer) : Prop :=
  analyzer.config = config ∧ analyzer.issues = config.enabledIssues

theorem standard_start (config : Config) : Standard config (start config) :=
  ⟨rfl, rfl⟩

/-- A standard analyzer finds what there is to say about a file, whatever it found before, and
stays a standard one. -/
theorem Standard.examine {config : Config} {analyzer : Analyzer}
    (standard : Standard config analyzer) (outline : FileOutline) :
    (analyzer.examine outline).1 = outline.findings config ∧
      Standard config (analyzer.examine outline).2 ∧
      (analyzer.examine outline).2.sink =
        analyzer.sink ++ (outline.findings config).toArray := by
  obtain ⟨rfl, issues⟩ := standard
  simp only [Analyzer.examine, Reporting.run_examine, issues, FileOutline.findings, Standard,
    and_self]

theorem examine_start (config : Config) (outline : FileOutline) :
    ((start config).examine outline).1 = outline.findings config :=
  ((standard_start config).examine outline).1

end Analyzer

namespace AnalysisResult

theorem append_empty (result : AnalysisResult) : result ++ {} = result := by
  change AnalysisResult.mk _ _ _ = AnalysisResult.mk _ _ _
  congr 1
  · exact List.append_nil result.diagnostics
  · exact List.append_nil result.errors

theorem empty_append (result : AnalysisResult) : {} ++ result = result :=
  congrArg (AnalysisResult.mk result.diagnostics result.errors) (Nat.zero_add _)

theorem append_assoc (first second third : AnalysisResult) :
    first ++ second ++ third = first ++ (second ++ third) := by
  change AnalysisResult.mk _ _ _ = AnalysisResult.mk _ _ _
  congr 1
  · exact List.append_assoc first.diagnostics second.diagnostics third.diagnostics
  · exact List.append_assoc first.errors second.errors third.errors
  · exact Nat.add_assoc first.filesScanned second.filesScanned third.filesScanned

end AnalysisResult

namespace FileOutline

/-- What is found in one file of several; a file with an error is not examined. -/
def reported (config : Config) (outline : FileOutline) : List Diagnostic :=
  if outline.failure?.isSome then [] else outline.findings config

theorem diagnostics_analyzeAll (config : Config) (outlines : List FileOutline) :
    (analyzeAll config outlines).diagnostics = outlines.flatMap (reported config) := by
  have run (result : AnalysisResult) {analyzer : Analyzer} (standard : analyzer.Standard config) :
      (outlines.foldl (fun state outline => outline.addTo state)
          (result, analyzer)).1.diagnostics =
        result.diagnostics ++ outlines.flatMap (reported config) := by
    induction outlines generalizing result analyzer with
    | nil => exact (List.append_nil _).symm
    | cons outline rest ih =>
        obtain ⟨found, standard', -⟩ := standard.examine outline
        rw [List.foldl_cons, List.flatMap_cons, reported, addTo]
        cases failure : outline.failure? with
        | some error =>
            refine (ih _ standard).trans ?_
            exact congrArg (· ++ _) (List.append_nil result.diagnostics)
        | none =>
            refine (ih _ standard').trans ?_
            rw [← found]
            exact List.append_assoc result.diagnostics _ _
  exact run {} (Analyzer.standard_start config)

end FileOutline

end SignatureLint

import SignatureLint.Rule

/-!
# Analysis

Every rule that is not disabled runs over every declaration.
-/

namespace SignatureLint

def Config.enabledIssues (config : Config) : List Issue :=
  Issue.all.filter fun issue => !config.disables issue

namespace Reporting

/-- Run several rules over one declaration. -/
def runRules (config : Config) (declaration : Declaration) :
    List Issue → Reporting (List Diagnostic)
  | [] => return []
  | issue :: rest => do
      let found ← runRule config issue declaration
      return found ++ (← runRules config declaration rest)

/-- Run several rules over several declarations. -/
def examine (config : Config) (issues : List Issue) :
    List Declaration → Reporting (List Diagnostic)
  | [] => return []
  | declaration :: rest => do
      let found ← runRules config declaration issues
      return found ++ (← examine config issues rest)

end Reporting

/-- An examination that goes on from file to file, with everything reported so far. -/
structure Analyzer where
  config : Config
  issues : List Issue
  sink : Array Diagnostic := #[]

namespace Analyzer

def start (config : Config) : Analyzer :=
  { config, issues := config.enabledIssues }

def examine (analyzer : Analyzer) (outline : FileOutline) : List Diagnostic × Analyzer :=
  let (found, sink) :=
    (Reporting.examine analyzer.config analyzer.issues outline.declarations).run analyzer.sink
  (found, { analyzer with sink := sink })

def report (analyzer : Analyzer) (diagnostic : Diagnostic) : List Diagnostic × Analyzer :=
  let (found, sink) := (Reporting.emit diagnostic).run analyzer.sink
  ([found], { analyzer with sink := sink })

end Analyzer

/-- What was found in some files, and what kept others from being examined. -/
structure AnalysisResult where
  diagnostics : List Diagnostic := []
  errors : List String := []
  filesScanned : Nat := 0
  deriving DecidableEq, Repr, Inhabited

namespace AnalysisResult

/-- The results for some files and then for others. -/
def append (first second : AnalysisResult) : AnalysisResult where
  diagnostics := first.diagnostics ++ second.diagnostics
  errors := first.errors ++ second.errors
  filesScanned := first.filesScanned + second.filesScanned

instance : Append AnalysisResult := ⟨append⟩

end AnalysisResult

namespace FileOutline

/-- Why a file has no outline, unless there is nothing to say. -/
def failure? (outline : FileOutline) : Option String :=
  outline.error.filter (!·.isEmpty)

/-- Add one outline to a result, with an examination that goes on. -/
def addTo (outline : FileOutline) (state : AnalysisResult × Analyzer) :
    AnalysisResult × Analyzer :=
  let (result, analyzer) := state
  match outline.failure? with
  | some error =>
      (result ++ { errors := [outline.path ++ ": " ++ error], filesScanned := 1 }, analyzer)
  | none =>
      let (found, analyzer) := analyzer.examine outline
      (result ++ { diagnostics := found, filesScanned := 1 }, analyzer)

/-- Examine outlines one after the other. -/
def analyzeAll (config : Config) (outlines : List FileOutline) : AnalysisResult :=
  (outlines.foldl (fun state outline => outline.addTo state) ({}, Analyzer.start config)).1

end FileOutline

end SignatureLint

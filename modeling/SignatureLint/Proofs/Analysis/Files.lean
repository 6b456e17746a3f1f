import SignatureLint.Analysis.Files
import SignatureLint.Proofs.Analysis.Findings
import SignatureLint.Proofs.FileTree

/-!
# Analysing one file

A path name of a file is analysed alone, and what is found is what the rules have to say about the
declarations in the text of the file.
-/

namespace SignatureLint

namespace FileTree

variable {tree : FileTree} {path : Pathname} {text : List Char} {config : Config}
  {outline : FileOutline}

theorem analyze_of_sourceText [Wordings] {octets : List UInt8} (here : tree.read path = .ok octets)
    (source : tree.sourceText path = .ok text)
    (read : FileOutline.ofSource path.display text config = .ok outline)
    (whole : outline.error = none) :
    tree.analyze config [path] =
      .ok { diagnostics := outline.findings config, filesScanned := 1 } := by
  have failure : outline.failure? = none := by rw [FileOutline.failure?, whole]; rfl
  have sink := ((Analyzer.standard_start config).examine outline).2.2
  have one : AnalysisResult.ofText config path text =
      .ok { diagnostics := outline.findings config, filesScanned := 1 } := by
    rw [AnalysisResult.ofText, read]
    simp only [bind, Except.bind, failure, sink]
    simp [Analyzer.start, pure, Except.pure]
  have files : tree.analyzeFiles config [path] =
      .ok { diagnostics := outline.findings config, filesScanned := 1 } := by
    rw [analyzeFiles, analyzeFile, source]
    dsimp only
    rw [one, analyzeFiles]
    exact congrArg Except.ok (AnalysisResult.append_empty _)
  rw [analyze, collectChecked_of_read here]
  exact congrArg (Except.mapError AnalysisError.description) files

end FileTree

end SignatureLint

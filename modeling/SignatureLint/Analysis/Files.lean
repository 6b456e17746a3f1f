import SignatureLint.Analysis
import SignatureLint.Collect
import SignatureLint.Outline
import SignatureLint.Text.Lines

/-!
# Analysis of files

Files are read and examined one by one, each on its own.  A file that cannot be
read or that is no program is an entry among the errors and stops nothing.
-/

namespace SignatureLint

/-- Why a file holds no text. -/
inductive TextError where
  | unreadable (error : IoError)
  | encoding (error : Utf8.DecodeError)
  deriving DecidableEq, Repr

/-- The wording of a failure to read a text. -/
def TextError.message : TextError → String
  | unreadable error => error.message
  | encoding error => error.message

/-- Why an analysis came to no result. -/
inductive AnalysisError where
  | place (error : PlaceError)
  | description (error : AnnotationError)
  deriving DecidableEq, Repr

/-- The wording of the reason why an analysis came to no result. -/
def AnalysisError.message : AnalysisError → String
  | place error => error.message
  | description error => error.message

/-- Why a file has no outline at all. -/
inductive ScanError where
  | unreadable (error : IoError)
  | description (error : AnnotationError)
  deriving DecidableEq, Repr

/-- What is found in a text of source code. -/
def Analyzer.examineSource [Wordings] (config : Config) (path : String) (text : List Char) :
    Except AnnotationError (List Diagnostic) := do
  let outline ← FileOutline.ofSource path text config
  return ((Analyzer.start config).examine outline).1

namespace FileTree

/-- The text of a file of source code.  A mark in front is left out, and lines end in line feeds. -/
def sourceText (tree : FileTree) (path : Pathname) : Except TextError (List Char) := do
  let octets ← (tree.read path).mapError .unreadable
  let characters ← (Utf8.decode (Utf8.withoutMark octets)).mapError .encoding
  return Text.normalizeNewlines characters

/-- The text of a file of source code, in which ill-formed octets are replaced. -/
def looseSourceText (tree : FileTree) (path : Pathname) : Except IoError (List Char) := do
  let octets ← tree.read path
  return Text.normalizeNewlines (Utf8.decodeLenient (Utf8.withoutMark octets))

/-- The outline of a file of source code, in which ill-formed octets are replaced. -/
def scan [Wordings] (tree : FileTree) (config : Config) (path : Pathname) :
    Except ScanError FileOutline := do
  let text ← (tree.looseSourceText path).mapError .unreadable
  (FileOutline.ofSource path.display text config).mapError .description

end FileTree

namespace AnalysisResult

/-- The result for a file of which there is nothing but a complaint. -/
def failed (path : Pathname) (message : String) : AnalysisResult where
  errors := [path.display ++ ": " ++ message]
  filesScanned := 1

/-- The result for one file with a given text. -/
def ofText [Wordings] (config : Config) (path : Pathname) (text : List Char) :
    Except AnnotationError AnalysisResult := do
  let outline ← FileOutline.ofSource path.display text config
  match outline.failure? with
  | some message => return failed path message
  | none =>
      let analyzer := ((Analyzer.start config).examine outline).2
      return { diagnostics := analyzer.sink.toList, filesScanned := 1 }

end AnalysisResult

namespace FileTree

def analyzeFile [Wordings] (tree : FileTree) (config : Config) (path : Pathname) :
    Except AnnotationError AnalysisResult :=
  match tree.sourceText path with
  | .error error => .ok (AnalysisResult.failed path error.message)
  | .ok text => AnalysisResult.ofText config path text

/-- The results for several files, one after the other. -/
def analyzeFiles [Wordings] (tree : FileTree) (config : Config) :
    List Pathname → Except AnnotationError AnalysisResult
  | [] => .ok {}
  | path :: rest => do
      let first ← tree.analyzeFile config path
      return first ++ (← tree.analyzeFiles config rest)

/-- The result for everything that path names stand for. -/
def analyze [Wordings] (tree : FileTree) (config : Config) (paths : List Pathname) :
    Except AnalysisError AnalysisResult := do
  let files ← (tree.collectChecked paths).mapError .place
  (tree.analyzeFiles config files).mapError .description

end FileTree

end SignatureLint

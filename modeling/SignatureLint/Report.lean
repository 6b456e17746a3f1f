import SignatureLint.Analysis
import SignatureLint.Json
import SignatureLint.Text.Lines
import SignatureLint.Text.Octets
import SignatureLint.Text.Utf8

/-!
# Reports

What was found, as it is shown to people: with severities, without the issues
that are to be ignored, and with columns that count characters.
-/

namespace SignatureLint

/-- The lines of some files, without their line ends. -/
structure SourceLines where
  files : List (String × Array (List UInt8)) := []
  deriving Inhabited

namespace SourceLines

/-- The lines of a file that holds some octets.  A byte order mark is no part of the first line. -/
def ofOctets (octets : List UInt8) : Array (List UInt8) :=
  (Text.octetLines (Utf8.splitMark octets).2).toArray

/-- A line of a file by its number, which counts from one. -/
def line? (lines : SourceLines) (path : String) (number : Int) : Option (List UInt8) := do
  let file ← lines.files.lookup path
  if number < 1 then none else file[(number - 1).toNat]?

/-- The column in characters, from one, of a column in octets, from zero.  Where the line is not
known the octets are counted. -/
def charColumn (lines : SourceLines) (path : String) (number column : Int) : Int :=
  match lines.line? path number with
  | none => column + 1
  | some line => (Utf8.decodeLenient (Octets.before line column)).length + 1

end SourceLines

/-- One reported problem as it is shown. -/
structure ReportEntry where
  issue : Issue
  severity : Severity
  path : String
  line : Int
  column : Int
  endLine : Int
  endColumn : Int
  message : String
  fix : Option Edit
  deriving DecidableEq, Repr

/-- What was found in some files. -/
structure Report where
  filesScanned : Nat
  entries : List ReportEntry
  errors : List String
  deriving DecidableEq, Repr

namespace ReportEntry

def ofDiagnostic (config : Config) (lines : SourceLines) (diagnostic : Diagnostic) :
    ReportEntry :=
  let span := diagnostic.location
  { issue := diagnostic.issue
    severity := config.severityFor diagnostic.issue
    path := span.path
    line := span.startLine
    column := lines.charColumn span.path span.startLine span.startColumn
    endLine := span.endLine
    endColumn := lines.charColumn span.path span.endLine span.endColumn
    message := diagnostic.message
    fix := diagnostic.fix }

def location (entry : ReportEntry) : String :=
  s!"{entry.path}:{entry.line}:{entry.column}"

def fixJson (edit : Edit) : Json :=
  .record
    [("name", .string edit.name), ("original_text", .string edit.expected),
      ("replacement_text", .string edit.replacement), ("auto_fix", .boolean edit.autoFix),
      ("start_line", .integer edit.span.startLine), ("start_col", .integer edit.span.startColumn),
      ("end_line", .integer edit.span.endLine), ("end_col", .integer edit.span.endColumn)]

def toJson (entry : ReportEntry) : Json :=
  .record
    [("issue_id", .string entry.issue.id), ("severity", .string entry.severity.name),
      ("category", .string entry.issue.category), ("file_path", .string entry.path),
      ("line", .integer entry.line), ("column", .integer entry.column),
      ("end_line", .integer entry.endLine), ("end_column", .integer entry.endColumn),
      ("message", .string entry.message), ("fix", .optional fixJson entry.fix)]

end ReportEntry

namespace Report

/-- The report of a result.  Ignored issues are left out. -/
def build (config : Config) (lines : SourceLines) (result : AnalysisResult) : Report where
  filesScanned := result.filesScanned
  entries :=
    (result.diagnostics.map (ReportEntry.ofDiagnostic config lines)).filter
      (·.severity != .ignore)
  errors := result.errors

def toJson (report : Report) : Json :=
  .record
    [("files_scanned", .integer report.filesScanned),
      ("diagnostics", .array (report.entries.map ReportEntry.toJson)),
      ("errors", .array (report.errors.map Json.string))]

def hasError (report : Report) : Bool :=
  report.entries.any (·.severity == .error)

end Report

end SignatureLint

import SignatureLint.Command.Arguments
import SignatureLint.Command.Run
import SignatureLint.Report.Files

/-!
# Checking

Files and a manifest are examined, files are mended if that is asked for, and the
result is printed as a table or as JSON.
-/

namespace SignatureLint

namespace CheckOptions

/-- A configuration with what the options say in the place of its own. -/
def apply (options : CheckOptions) (config : Config) : Config :=
  { config with
    disabledIssues := config.disabledIssues.union (NameSet.ofList options.disabled)
    workers := (options.workers.map Workers.count).getD config.workers
    logDirectory := options.logDirectory.or config.logDirectory }

/-- The paths to examine: the current directory if there is nothing else to do. -/
def effectivePaths (options : CheckOptions) : List Pathname :=
  if options.paths.isEmpty && options.manifest.isNone then [Pathname.ofString "."]
  else options.paths

end CheckOptions

namespace Check

def examinePaths [Wordings] (config : Config) (paths : List Pathname) : Run AnalysisResult := do
  if paths.isEmpty then return {}
  let tree ← Run.files
  match paths.find? (!tree.contains ·) with
  | some missing => do
      Run.say ("[red]Path does not exist:[/red] " ++ missing.display)
      Run.exit 2
  | none => Run.orFail .analysis (tree.analyze config paths)

def examineManifest [Wordings] (config : Config) : Option Pathname → Run AnalysisResult
  | none => return {}
  | some path => do
      let tree ← Run.files
      let outlines ← Run.orReport "[red]Error:[/red]" .manifest (tree.manifest path)
      return FileOutline.analyzeAll config outlines

/-- A file that may be mended. -/
def isMendable (path : String) : Bool :=
  Collect.isSourceName path

/-- A diagnostic that the edits to some files have settled. -/
def isSettled (mended : List String) (diagnostic : Diagnostic) : Bool :=
  isMendable diagnostic.location.path &&
    diagnostic.autoFix?.any fun edit => mended.contains edit.span.path

/-- Mend what can be mended, and leave it out of the result. -/
def mend [Wordings] (quiet : Bool) (result : AnalysisResult) (event : Nat) :
    Run AnalysisResult := do
  let candidates := result.diagnostics.filter fun diagnostic => isMendable diagnostic.location.path
  let (tree, applied) := (← Run.files).fix candidates
  modify fun state => { state with tree := tree }
  let applied ← Run.orReport "[red]Fix failed:[/red]" .fix applied
  let (settled, remaining) := result.diagnostics.partition (isSettled (applied.map (·.1)))
  Run.note event "fixed" (.integer settled.length)
  if !quiet then Run.say s!"Applied {settled.length} fixes in {applied.length} files."
  return { result with diagnostics := remaining }

/-- Everything up to the report. -/
def examine [Wordings] (options : CheckOptions) (config : Config) (event : Nat) : Run Report := do
  let found ← examinePaths config options.effectivePaths
  let described ← examineManifest config options.manifest
  let result := found ++ described
  let lines := (← Run.files).sourceLines result.diagnostics
  let result ← if options.fix then mend options.json result event else pure result
  let report := Report.build config lines result
  Run.note event "files_scanned" (.integer report.filesScanned)
  Run.note event "diagnostics" (.integer report.entries.length)
  return report

/-! ## Printing -/

/-- The texts of a column, which are markup. -/
def column (header : String) (maximum : Option Nat) (entries : List String) :
    Run Console.Column := do
  let entries ← Run.orFail .markup (entries.mapM Console.render)
  return { header := header.toList, maximum, entries }

def table (entries : List ReportEntry) : Run Console.Table := do
  let location ← column "Location" none (entries.map ReportEntry.location)
  let severity : Console.Column :=
    { header := "Severity".toList
      maximum := none
      entries := entries.map fun entry => entry.severity.name.toList }
  let issue ← column "Issue" none (entries.map (·.issue.id))
  let message ← column "Message" (some 80) (entries.map (·.message))
  let columns := [location, severity, issue, message]
  return { title := "Diagnostics".toList, columns, ruled := true }

def printReport (report : Report) : Run Unit := do
  if report.entries.isEmpty then Run.say "[green]No issues found.[/green]"
  else Run.printLines (← table report.entries).lines
  for error in report.errors do
    Run.say ("[yellow]Skipped:[/yellow] " ++ error)
  Run.say <| s!"\nFiles scanned: [bold]{report.filesScanned}[/bold] | " ++
    s!"Diagnostics: [bold]{report.entries.length}[/bold]"

def run [Wordings] (options : CheckOptions) : Run Unit := do
  let loaded := (← Run.files).configOrDefault options.config
  let config ← Run.orReport "[red]Configuration error:[/red]" .project loaded
  let config := options.apply config
  let log := config.logDirectory.map RunLog.mk
  let report ← Run.logged log (.clean "check") (examine options config)
  if options.json then Run.print (report.toJson.lines ++ "\n") else printReport report
  if report.hasError then Run.exit 1

end Check

end SignatureLint

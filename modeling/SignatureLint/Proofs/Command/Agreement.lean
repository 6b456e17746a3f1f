import SignatureLint.Command
import SignatureLint.Proofs.Command.Checking
import SignatureLint.Proofs.Fixing.Styles
import SignatureLint.Proofs.Report

/-!
# What a check leaves behind

Of a check that comes to a report it is known what was examined, which edits were written and what
was reported.  The report, the output, the files, the log and the exit code agree about this: the
report has the diagnostics whose edits were not written and that are not to be ignored, only files
in which an edit was written have changed, and the exit code tells of an error in the report.
-/

namespace SignatureLint

theorem Report.hasError_iff {report : Report} :
    report.hasError = true ↔ ∃ entry ∈ report.entries, entry.severity = .error := by
  rw [hasError, List.any_eq_true]
  simp only [beq_iff_eq]

def Stop.exitCode {α : Type} : Except Stop α → Nat
  | .ok _ => 0
  | .error (.exit code) => code
  | .error (.failure _) => 1

/-- The error that ended a run, if there was one. -/
def Stop.failure? {α : Type} : Except Stop α → Option Failure
  | .error (.failure error) => some error
  | _ => none

theorem Command.execute_check [Wordings] {arguments : List String} {options : CheckOptions}
    {tree : FileTree} {clock : Clock} {result : Except Stop Unit} {last : Surroundings}
    (asked : ofArguments arguments = some (.check options))
    (ends : Check.run options { tree := tree, clock := clock } = (result, last)) :
    execute arguments tree clock =
      { exitCode := Stop.exitCode result, output := last.output, tree := last.tree
        failure := Stop.failure? result } := by
  have ran : ExceptT.run (run (.check options)) { tree := tree, clock := clock } = (result, last) :=
    ends
  simp only [execute, asked, ran]
  cases result with
  | ok value => rfl
  | error stop => cases stop <;> rfl

namespace Check

open Run (Thorough Prints)

variable {options : CheckOptions} {report : Report} {state after last : Surroundings}

/-! ## Printing -/

/-- The text of a report as it is asked for: as JSON, which is read as an object that shows the
report, or as it is printed for people. -/
inductive Printed (options : CheckOptions) (report : Report) : String → Prop where
  | json {fields : List (LooseText × Json)} (asked : options.json = true)
      (reads : Json.IsReadAs (report.toJson.lines ++ "\n") (.object fields))
      (shows : report.IsShownBy fields) : Printed options report (report.toJson.lines ++ "\n")
  | lines {lines : List Console.Line} (asked : options.json = false)
      (prints : Prints (printReport report) lines) : Printed options report (Console.ofLines lines)

/-- Print a report as it is asked for. -/
def present (options : CheckOptions) (report : Report) : Run Unit :=
  if options.json then Run.print (report.toJson.lines ++ "\n") else printReport report

/-- Tell of an error in the report. -/
def close (report : Report) : Run Unit :=
  if report.hasError then Run.exit 1 else pure ()

theorem run_eq [Wordings] (options : CheckOptions) :
    run options = (do
      let tree ← Run.files
      let loaded ← Run.orReport "[red]Configuration error:[/red]" .project
        (tree.configOrDefault options.config)
      let log := (options.apply loaded).logDirectory.map RunLog.mk
      let report ← Run.logged log (.clean "check") (examine options (options.apply loaded))
      present options report
      close report) := by
  rw [run]
  obtain ⟨paths, manifest, json⟩ := options
  cases json <;> rfl

theorem column_thorough (header : String) (maximum : Option Nat) (texts : List String) :
    Thorough (column header maximum texts) :=
  Run.orFail_thorough.bind fun _ => Run.thorough_pure _

theorem printReport_thorough (report : Report) : Thorough (printReport report) := by
  rw [printReport_eq]
  refine Thorough.bind ?_ fun _ => ?_
  · refine .ite (fun _ => Run.say_thorough _) fun _ => ?_
    refine Thorough.bind ?_ fun _ => Run.modify_thorough _
    exact (column_thorough _ _ _).bind fun _ => (column_thorough _ _ _).bind fun _ =>
      (column_thorough _ _ _).bind fun _ => Run.thorough_pure _
  · exact (Run.each_thorough (fun _ => Run.say_thorough _) _).bind fun _ => Run.say_thorough _

theorem exists_prints_of_printReport (h : printReport report state = (.ok (), after)) :
    ∃ lines, Prints (printReport report) lines := by
  have readable : ∀ text ∈ report.texts,
      Console.render text = .ok ((Console.render text).toOption.getD []) := by
    intro text found
    cases shown : Console.render text with
    | ok shown => rfl
    | error error =>
        obtain ⟨stop, after', stops⟩ := printReport_stops
          ⟨text, found, fun shown' readable => nomatch shown.symm.trans readable⟩ state
        rw [h] at stops
        cases stops
  obtain ⟨lines, prints, -⟩ := printReport_prints readable
  exact ⟨lines, prints⟩

theorem present_thorough (options : CheckOptions) (report : Report) :
    Thorough (present options report) :=
  .ite (fun _ => Run.modify_thorough _) fun _ => printReport_thorough report

theorem of_present_eq_ok (h : present options report state = (.ok (), after)) :
    ∃ text, Printed options report text ∧
      after = { state with output := state.output ++ text } := by
  unfold present at h
  by_cases asked : options.json = true
  · rw [if_pos asked] at h
    cases h
    obtain ⟨fields, same, shows⟩ := report.exists_isShownBy
    refine ⟨_, .json asked ?_ shows, rfl⟩
    rw [← same]
    exact report.isReadAs_lines
  · rw [if_neg asked] at h
    obtain ⟨lines, prints⟩ := exists_prints_of_printReport h
    rw [prints] at h
    cases h
    exact ⟨_, .lines (Bool.eq_false_iff.mpr asked) prints, rfl⟩

/-! ## Whole checks -/

def Course.event (course : Course) (options : CheckOptions) (clock : Clock) : RunEvent :=
  RunEvent.finished clock (.clean "check") (course.data options RunEvent.started) none

def Course.log (course : Course) : Option RunLog :=
  course.config.logDirectory.map RunLog.mk

/-- How a check comes to its report: with the configuration that is loaded and what the options say
in its place, in the files with the directory of the log. -/
structure Course.Follows [Wordings] (course : Course) (options : CheckOptions)
    (tree : FileTree) : Prop where
  configured : ∃ loaded, tree.configOrDefault options.config = .ok loaded ∧
    course.config = options.apply loaded
  opens : tree.Opens course.log course.opened
  examines : course.Examines options

/-- A check that neither fails nor exits as it does for errors that are reported has come to a
report.  It is printed and logged, and an error in it is told. -/
theorem exists_course_of_run [Wordings] {result : Except Stop Unit}
    (h : run options state = (result, last))
    (orderly : ∀ stop, result = .error stop → ¬stop.IsAbrupt) :
    ∃ course : Course, course.Follows options state.tree ∧
      course.mended.Logs state.clock (course.event options state.clock) course.log last.tree ∧
      (∃ text, Printed options course.report text ∧
        last.output = state.output ++ announced options (course.written options) ++ text) ∧
      result = if course.report.hasError then .error (.exit 1) else .ok () := by
  rw [run_eq, Run.bind_of_ok (Run.files_eq state)] at h
  -- the three steps of a run, each of which returns or ends the run with a code
  obtain ⟨loaded, before, first, rest⟩ := Run.orReport_thorough.exists_of_bind h orderly
  obtain ⟨configured, same⟩ := Run.orReport_eq_ok_iff.mp first
  obtain ⟨report, examined, second, rest⟩ :=
    (Run.logged_thorough (fun _ => examine_thorough _ _ _) _).exists_of_bind rest orderly
  obtain ⟨_, printed, third, ends⟩ := (present_thorough _ _).exists_of_bind rest orderly
  rw [same] at second
  obtain ⟨opened, begun, after, opens, started, ran, logs, output⟩ :=
    Run.exists_of_logged_eq_ok second
  obtain ⟨course, merged, files, rfl, examines, rfl⟩ := of_examine_eq_ok ran
  obtain ⟨text, shown, rfl⟩ := of_present_eq_ok third
  have log : course.log = (options.apply loaded).logDirectory.map RunLog.mk := by
    rw [Course.log, merged]
  rw [← log] at opens started logs
  have closes : last = { examined with output := examined.output ++ text } ∧
      result = if course.report.hasError then .error (.exit 1) else .ok () := by
    unfold close at ends
    split at ends <;> cases ends
    · exact ⟨rfl, (if_pos ‹_›).symm⟩
    · exact ⟨rfl, (if_neg ‹_›).symm⟩
  obtain ⟨rfl, rfl⟩ := closes
  refine ⟨course, ⟨⟨loaded, configured, merged⟩, ?_, examines⟩, ?_, ⟨text, shown, ?_⟩, rfl⟩
  · rw [files]
    exact opens
  · refine logs.congr fun some => ?_
    rw [started some, Run.data_modify]
    rfl
  · exact congrArg (· ++ text) output

/-! ## Files -/

section

variable {tree opened logged : FileTree} {log : Option RunLog}

theorem furnishes_of_opens (opens : tree.Opens log opened) : tree.Furnishes opened := by
  cases opens with
  | unlogged => exact .refl tree
  | log opens => exact FileTree.furnishes_of_openLog opens

theorem node?_of_logs {clock : Clock} {event : RunEvent} (logs : tree.Logs clock event log logged)
    (unlinked : tree.Unlinked) {place : Place}
    (other : ∀ directory within, log = some ⟨directory⟩ →
      tree.locate true directory = .ok within → place ≠ within ++ [RunLog.fileName clock.today]) :
    logged.node? place = tree.node? place := by
  cases logs with
  | unlogged => rfl
  | log writes =>
      obtain ⟨within, found, kept⟩ := unlinked.exists_of_logEvent writes
      exact kept place (other _ within rfl found)

end

namespace Course

variable {course : Course} {tree final : FileTree}

def IsLogFile (course : Course) (day : Date) (place : Place) : Prop :=
  ∃ directory within, course.log = some ⟨directory⟩ ∧
    course.opened.locate true directory = .ok within ∧ place = within ++ [RunLog.fileName day]

/-- The place of a source file with a diagnostic that has an edit that is applied without asking. -/
def HasFix (course : Course) (place : Place) : Prop :=
  place.getLast?.any Collect.isSourceName = true ∧
    ∃ diagnostic ∈ course.diagnostics, isMendable diagnostic.location.path = true ∧
      diagnostic.autoFix?.isSome = true ∧
      course.opened.locate true (Pathname.ofString diagnostic.location.path) = .ok place

theorem Examines.inside [Wordings] (examines : course.Examines options) :
    Local course.diagnostics :=
  local_of_found examines.found examines.described

theorem Examines.hasFix [Wordings] (examines : course.Examines options)
    (unlinked : course.opened.Unlinked)
    {name : String} (named : name ∈ (course.written options).map (·.1)) {place : Place}
    (found : course.opened.locate true (Pathname.ofString name) = .ok place) :
    options.fix = true ∧ course.HasFix place := by
  unfold written editsOf at named
  split at named
  · rename_i fix
    obtain ⟨edit, member, rfl⟩ := Edit.mem_map_groups_iff.mp named
    obtain ⟨diagnostic, candidate, here⟩ := List.mem_filterMap.mp member
    obtain ⟨among, mendable⟩ := List.mem_filter.mp candidate
    rw [examines.inside diagnostic among edit here] at found
    exact ⟨fix, unlinked.isSourceName_of_locate mendable found, diagnostic, among, mendable,
      Option.isSome_of_mem here, found⟩
  · cases named

theorem Follows.files [Wordings] (follows : course.Follows options tree) (unlinked : tree.Unlinked)
    {clock : Clock} {event : RunEvent} (logs : course.mended.Logs clock event course.log final)
    {place : Place} (other : ¬course.IsLogFile clock.today place) :
    (∀ octets, final.node? place = some (.file octets) ↔ tree.node? place = some (.file octets)) ∨
      options.fix = true ∧ course.HasFix place := by
  have furnishes := furnishes_of_opens follows.opens
  have unlinked' := furnishes.unlinked unlinked
  have mends := FileTree.mendsNamed_of_mendAll follows.examines.mends.all
  have kept : final.node? place = course.mended.node? place := by
    refine node?_of_logs logs (mends.unlinked unlinked') fun directory within some found same => ?_
    rw [mends.locate_eq] at found
    exact other ⟨directory, within, some, found, same⟩
  by_cases named : ∃ name ∈ (course.written options).map (·.1),
      course.opened.locate true (Pathname.ofString name) = .ok place
  · obtain ⟨name, named, found⟩ := named
    exact .inr (follows.examines.hasFix unlinked' named found)
  · refine .inl fun octets => ?_
    rw [kept, mends.untouched place fun name member found => named ⟨name, member, found⟩]
    exact furnishes.file_iff

/-! ## What is told -/

theorem Examines.fixedIn_eq [Wordings] (examines : course.Examines options) :
    fixedIn (course.written options) =
      (course.diagnostics.filter (Settled (course.written options) ·)).length := by
  by_cases fix : options.fix = true
  · have all : course.written options =
        Edit.groups (Diagnostic.fixableEdits (candidates course.diagnostics)) := if_pos fix
    have same : course.diagnostics.filter (Settled (course.written options) ·) =
        course.diagnostics.filter (isSettled ((course.written options).map (·.1))) := by
      refine List.filter_congr fun diagnostic found => ?_
      rw [Bool.eq_iff_iff, decide_eq_true_iff, all, isSettled_iff found, ← all]
      exact (settled_iff examines.inside found).trans (and_iff_right fix)
    rw [same, all, length_filter_isSettled]
  · have none : course.written options = [] := if_neg fix
    rw [none, List.filter_eq_nil_iff.mpr fun diagnostic _ => ?_]
    · rfl
    · rw [decide_eq_true_iff]
      rintro ⟨edit, -, group, here, -⟩
      cases here

/-- What a check leaves behind agrees with what happened in it. -/
structure Tells (course : Course) (options : CheckOptions) (tree : FileTree) (clock : Clock)
    (outcome : Outcome) : Prop where
  /-- The edits that are written are those that may be applied without asking in files that may be
  mended. -/
  settled : ∀ diagnostic ∈ course.diagnostics,
    Settled (course.written options) diagnostic ↔
      options.fix = true ∧ isMendable diagnostic.location.path = true ∧
        diagnostic.autoFix?.isSome = true
  /-- The number that is announced and logged is the sum of the numbers that are told for the files,
  and the number of diagnostics that are not reported for that reason. -/
  fixed : fixedIn (course.written options) =
    (course.diagnostics.filter (Settled (course.written options) ·)).length
  counts : options.fix = true → ∃ applied,
    course.opened.fix (candidates course.diagnostics) = (course.mended, .ok applied) ∧
      fixedIn (course.written options) = (applied.map (·.2)).sum
  output : ∃ text, Printed options course.report text ∧
    outcome.output = announced options (course.written options) ++ text
  logged : course.mended.Logs clock (course.event options clock) course.log outcome.tree
  files : ∀ place, ¬course.IsLogFile clock.today place →
    (∀ octets, outcome.tree.node? place = some (.file octets) ↔
        tree.node? place = some (.file octets)) ∨
      options.fix = true ∧ course.HasFix place
  exitCode : outcome.exitCode =
    if ∃ entry ∈ course.report.entries, entry.severity = .error then 1 else 0

end Course

/-- A check in files without links that comes to a report has examined the paths and the manifest
and written edits if it was asked to.  Its report has, in this order and at the places where they
were found, the diagnostics of the paths and of the manifest whose edits were not written and that
are not to be ignored.  What it has printed, the files, the log and the exit code agree with that.
-/
theorem exists_course [Wordings] {arguments : List String} {tree : FileTree} {clock : Clock}
    (asked : Command.ofArguments arguments = some (.check options)) (unlinked : tree.Unlinked)
    (returns : (Command.execute arguments tree clock).failure = none)
    (reports : (Command.execute arguments tree clock).exitCode ≠ 2) :
    ∃ course : Course, course.Follows options tree ∧
      course.Tells options tree clock (Command.execute arguments tree clock) := by
  cases ran : run options { tree := tree, clock := clock } with
  | mk result last =>
      rw [Command.execute_check asked ran] at returns reports ⊢
      have orderly : ∀ stop, result = .error stop → ¬stop.IsAbrupt := by
        rintro (code | error) rfl
        · exact reports
        · cases returns
      obtain ⟨course, follows, logs, ⟨text, printed, output⟩, rfl⟩ :=
        exists_course_of_run ran orderly
      refine ⟨course, follows, ?_⟩
      exact
        { settled := fun _ found => settled_iff follows.examines.inside found
          fixed := follows.examines.fixedIn_eq
          counts := fun fix => ⟨_, follows.examines.mends.counted fix, by rw [List.map_map]; rfl⟩
          output := ⟨text, printed, output.trans (by rw [String.empty_append])⟩
          logged := logs
          files := fun _ other => follows.files unlinked logs other
          exitCode := by
            simp only [← Report.hasError_iff]
            cases course.report.hasError <;> rfl }

/-! ## A sample -/

/-- A check without a log that comes to a report prints the report as JSON and tells of an error in
it. -/
theorem run_of_examine [Wordings] {loaded : Config} (json : options.json = true)
    (configured : state.tree.configOrDefault options.config = .ok loaded)
    (unlogged : (options.apply loaded).logDirectory = none)
    (examined : examine options (options.apply loaded) state.events.length
      { state with events := state.events ++ [[]] } = (.ok report, after)) :
    run options state =
      (if report.hasError then .error (.exit 1) else .ok (),
        { after with output := after.output ++ (report.toJson.lines ++ "\n") }) := by
  rw [run_eq, Run.bind_of_ok (Run.files_eq _),
    Run.bind_of_ok (Run.orReport_eq_ok_iff.mpr ⟨configured, rfl⟩), unlogged, Option.map_none,
    Run.logged, bind_assoc, Run.bind_of_ok (Run.beginEvent_eq _ _), Run.bind_of_ok examined,
    present, if_pos json, Run.bind_of_ok (show Run.print _ after = (.ok (), _) from rfl), close]
  cases report.hasError <;> rfl

open FileOutline (sampleModifier)
open FileTree (styledTree sampleOutline)

/-- A check that mends a file and prints its report as JSON. -/
def sampleOptions : CheckOptions where
  paths := [Pathname.ofString "a.py"]
  json := true
  fix := true

/-- The arguments that ask for this check. -/
def sampleArguments : List String :=
  ["check", "--fix", "--json", "a.py"]

/-- A function that has a modifier without a default, in a file. -/
def sampleTree : FileTree :=
  styledTree .lf false

theorem unlinked_sampleTree : sampleTree.Unlinked := by
  intro place target link
  unfold FileTree.node? sampleTree styledTree at link
  split at link
  · cases link
  · rw [List.lookup_cons] at link
    split at link <;> cases link

theorem config_sampleTree : sampleTree.configOrDefault none = .ok {} := by
  have walked : sampleTree.walk true FileTree.maxLinks [] ["pyproject.toml"] =
      .ok ["pyproject.toml"] :=
    FileTree.walk_to_empty rfl (by decide) rfl
  have located : sampleTree.locate true FileTree.projectFile = .ok ["pyproject.toml"] :=
    FileTree.locate_eq_ok_iff.mpr ⟨by decide, walked⟩
  have absent : sampleTree.isFile FileTree.projectFile = false := by
    rw [FileTree.isFile, FileTree.find?, located]
    rfl
  rw [FileTree.configOrDefault, absent]
  rfl

theorem exists_fix_sampleTree : ∃ mended applied,
    sampleTree.fix (candidates (sampleOutline.findings {})) = (mended, .ok applied) := by
  have bare : sampleModifier.toList.head? ≠ some '\uFEFF' := by decide
  have here := FileTree.read_styledTree .lf false
  have computed : Diagnostic.fixableEdits (candidates (sampleOutline.findings {})) ≠ [] ∧
      (∀ edit ∈ Diagnostic.fixableEdits (candidates (sampleOutline.findings {})),
        edit.span.path = "a.py") ∧
      (Edit.applyAll (String.ofList (Newline.lf.turn sampleModifier.toList))
        (Diagnostic.fixableEdits (candidates (sampleOutline.findings {})))).toOption =
          some "@composable\ndef f(m: Modifier = Modifier): pass\n" := by
    decide +kernel
  obtain ⟨some, paths, edited⟩ := computed
  have applied := Outcome.eq_ok_of_mem_toOption edited
  obtain ⟨mended, written, -⟩ := FileTree.exists_write here (Utf8.encode
    "@composable\ndef f(m: Modifier = Modifier): pass\n".toList)
  have fixes : sampleTree.fixFile "a.py"
      (Diagnostic.fixableEdits (candidates (sampleOutline.findings {}))) = .ok mended := by
    rw [FileTree.fixFile, sampleTree, here]
    simp only [Except.mapError, bind, Except.bind, Edit.applyToFile_styled bare, applied]
    rw [if_neg (by decide), List.nil_append, written]
  exact ⟨mended, _, by rw [FileTree.fix_of_path some paths, fixes]⟩

/-- The surroundings of the sample once its event has begun. -/
def sampleStart : Surroundings where
  tree := sampleTree
  clock := default
  events := [[]]

theorem exists_examine_sampleTree [Wordings] : ∃ report after,
    examine sampleOptions {} 0 sampleStart = (.ok report, after) := by
  have here := FileTree.read_styledTree .lf false
  have feeds : '\r' ∉ sampleModifier.toList := by decide
  have bare : sampleModifier.toList.head? ≠ some '\uFEFF' := by decide
  have analyzed : sampleTree.analyze {} sampleOptions.effectivePaths = _ :=
    FileTree.analyze_of_sourceText here (FileTree.sourceText_of_styled here feeds bare)
      FileTree.ofSource_sampleModifier rfl
  have present : ∀ path ∈ sampleOptions.effectivePaths, sampleTree.contains path = true := by
    refine List.forall_mem_singleton.mpr ?_
    obtain ⟨place, found, node⟩ := FileTree.read_eq_ok_iff.mp here
    rw [FileTree.contains, FileTree.find?, sampleTree, found]
    dsimp only
    rw [node]
    rfl
  obtain ⟨mended, applied, fixes⟩ := exists_fix_sampleTree
  obtain ⟨kept, after, mends⟩ := @exists_mend_of_fix 0 sampleStart _ true
    { diagnostics := sampleOutline.findings {}, filesScanned := 1 } _ _ fixes
  exact exists_examine rfl present analyzed mends

attribute [local instance] Wordings.short

/-- The check of the sample leaves behind what agrees with its report. -/
theorem exists_course_sampleTree :
    Command.ofArguments sampleArguments = some (.check sampleOptions) ∧ sampleTree.Unlinked ∧
      (Command.execute sampleArguments sampleTree default).failure = none ∧
      (Command.execute sampleArguments sampleTree default).exitCode ≠ 2 ∧
      ∃ course : Course, course.Follows sampleOptions sampleTree ∧
        course.Tells sampleOptions sampleTree default
          (Command.execute sampleArguments sampleTree default) := by
  have asked : Command.ofArguments sampleArguments = some (.check sampleOptions) := by decide
  obtain ⟨report, after, examined⟩ := exists_examine_sampleTree
  have merged : sampleOptions.apply {} = {} := rfl
  rw [← merged] at examined
  have ran := @run_of_examine sampleOptions report { tree := sampleTree, clock := default } after _
    {} rfl config_sampleTree rfl examined
  have returns : (Command.execute sampleArguments sampleTree default).failure = none := by
    rw [Command.execute_check asked ran]
    cases report.hasError <;> rfl
  have reports : (Command.execute sampleArguments sampleTree default).exitCode ≠ 2 := by
    rw [Command.execute_check asked ran]
    dsimp only
    cases report.hasError <;> decide
  exact ⟨asked, unlinked_sampleTree, returns, reports,
    exists_course asked unlinked_sampleTree returns reports⟩

end Check

end SignatureLint

import Mathlib
import SignatureLint.Command.Check
import SignatureLint.Proofs.Command.Run
import SignatureLint.Proofs.Console.Emoji
import SignatureLint.Proofs.Console.Table

/-!
# Printed reports

A report is printed with the texts of its entries and its errors read as markup.  What markup shows
of them is seen on the lines, with all words that are not wider than their column.
-/

namespace SignatureLint

open Console (Line Unmarked render toOption_render shown_of_plain plains_count shown_count)
open Text (ink)

/-! ## Texts of a report -/

/-- The texts of an entry that are read as markup and are not the same for all entries of an
issue. -/
def ReportEntry.texts (entry : ReportEntry) : List String :=
  [entry.location, entry.message]

theorem ReportEntry.unmarked_location {entry : ReportEntry}
    (unmarked : Unmarked (entry.path.toList ++ [':']))
    (other : (toString entry.line).toList ∉ Console.emojiNumbers) :
    Unmarked entry.location.toList := by
  have whole : entry.location.toList = entry.path.toList ++
      ':' :: ((toString entry.line).toList ++ ':' :: (toString entry.column).toList) := by
    rw [location]
    simp only [String.toList_append, List.append_assoc]
    rfl
  rw [whole]
  exact Console.unmarked_place unmarked (fun _ => Console.isNumeral_of_mem_toString) other
    fun _ => Console.isNumeral_of_mem_toString

/-- What is to be seen of an entry, given what is shown of texts. -/
def ReportEntry.cells (shown : String → List Char) (entry : ReportEntry) : List (List Char) :=
  [shown entry.location, entry.severity.name.toList, entry.issue.id.toList, shown entry.message]

namespace Report

/-- The texts of a report that are read as markup. -/
def texts (report : Report) : List String :=
  report.entries.flatMap ReportEntry.texts ++ report.errors

/-- The table of a report, given what is shown of texts. -/
def table (shown : String → List Char) (report : Report) : Console.Table where
  title := "Diagnostics".toList
  columns :=
    [{ header := "Location".toList
       maximum := none
       entries := report.entries.map fun entry => shown entry.location },
     { header := "Severity".toList
       maximum := none
       entries := report.entries.map fun entry => entry.severity.name.toList },
     { header := "Issue".toList
       maximum := none
       entries := report.entries.map fun entry => entry.issue.id.toList },
     { header := "Message".toList
       maximum := some 80
       entries := report.entries.map fun entry => shown entry.message }]
  ruled := true

/-- A report of which every cell can be broken into lines of its column. -/
def Breakable (shown : String → List Char) (report : Report) : Prop :=
  ∀ entry ∈ report.entries,
    List.Forall₂ (fun width text => Console.Breakable (width - 2) text)
      (report.table shown).widths (entry.cells shown)

/-- Lines on which a report is seen: its entries in a table or the news that there are none, its
errors, and the numbers of files and entries. -/
def Seen (shown : String → List Char) (report : Report) (lines : List Line) : Prop :=
  ∃ (body : List Line) (skipped : List (List Line)) (summary : List Line),
    lines = body ++ (skipped.flatten ++ summary) ∧
      (report.entries = [] → ink body.flatten = ink "No issues found.".toList) ∧
      (report.entries ≠ [] → Console.Table.RowsSeen (report.table shown).widths
        (report.entries.map (ReportEntry.cells shown)) body) ∧
      List.Forall₂ (fun error block => ink block.flatten = ink ("Skipped: ".toList ++ shown error))
        report.errors skipped ∧
      ink summary.flatten = ink
        s!"Files scanned: {report.filesScanned} | Diagnostics: {report.entries.length}".toList

theorem Seen.ink_eq {shown : String → List Char} {report : Report} {lines : List Line}
    (seen : report.Seen shown lines) (none : report.entries = []) :
    ink lines.flatten = ink "No issues found.".toList ++
      (report.errors.flatMap (fun error => ink ("Skipped: ".toList ++ shown error)) ++ ink
      s!"Files scanned: {report.filesScanned} | Diagnostics: {report.entries.length}".toList) := by
  obtain ⟨body, skipped, summary, rfl, empty, -, errors, last⟩ := seen
  have blocks : ink skipped.flatten.flatten =
      report.errors.flatMap fun error => ink ("Skipped: ".toList ++ shown error) := by
    clear empty last
    generalize report.errors = list at errors
    induction errors with
    | nil => rfl
    | cons here _ ih =>
        rw [List.flatten_cons, List.flatten_append, Text.ink_append, here, ih, List.flatMap_cons]
  rw [List.flatten_append, List.flatten_append, Text.ink_append, Text.ink_append, empty none,
    blocks, last]

theorem breakable_of_narrow {shown : String → List Char} {report : Report}
    (narrow : ∀ entry ∈ report.entries, ∀ text ∈ entry.cells shown,
      (Text.pieces (· == '\n') text).all Console.isNarrow = true) :
    report.Breakable shown := by
  intro entry found
  rw [List.forall₂_iff_zip]
  refine ⟨Console.Table.length_widths _, fun pair line inside => ?_⟩
  have each := List.all_eq_true.mp (narrow entry found _ (List.of_mem_zip pair).2)
  exact Console.orderly_of_isNarrow (each line inside) _

end Report

namespace Check

open Run (Prints Stops each)

def printEntries (entries : List ReportEntry) : Run Unit :=
  if entries.isEmpty then Run.say "[green]No issues found.[/green]"
  else do Run.printLines (← table entries).lines

def printSummary (report : Report) : Run Unit :=
  Run.say <| s!"\nFiles scanned: [bold]{report.filesScanned}[/bold] | " ++
    s!"Diagnostics: [bold]{report.entries.length}[/bold]"

theorem printReport_eq (report : Report) :
    printReport report = (do
      printEntries report.entries
      each report.errors fun error => Run.say ("[yellow]Skipped:[/yellow] " ++ error)
      printSummary report) := by
  rw [printReport, printEntries]
  dsimp only
  split
  · rfl
  · rw [bind_assoc]
    rfl

/-! ## Texts with tags -/

theorem render_noIssues :
    render "[green]No issues found.[/green]" = .ok "No issues found.".toList := by
  refine Outcome.eq_ok_of_mem_toOption ?_
  have plain : Console.shown "No issues found.".toList = "No issues found.".toList :=
    shown_of_plain (by decide) (by decide)
  have named : Console.TagName "green".toList := ⟨by decide, by decide⟩
  have whole : "[green]No issues found.[/green]".toList =
      Console.tagged "green".toList "No issues found.".toList [] := rfl
  rw [toOption_render, whole, Console.shown?_tagged named (by decide), Console.shown?_nil, plain]
  have empty : Console.shown [].reverse = [] := Console.shown_nil
  rw [empty]
  rfl

theorem toOption_render_skipped (error : String) :
    (render ("[yellow]Skipped:[/yellow] " ++ error)).toOption =
      (render error).toOption.map fun text => "Skipped:".toList ++ ' ' :: text := by
  have plain : Console.shown "Skipped:".toList = "Skipped:".toList :=
    shown_of_plain (by decide) (by decide)
  have named : Console.TagName "yellow".toList := ⟨by decide, by decide⟩
  have whole : ("[yellow]Skipped:[/yellow] " ++ error).toList =
      Console.tagged "yellow".toList "Skipped:".toList (' ' :: error.toList) := by
    rw [String.toList_append]
    rfl
  rw [toOption_render, toOption_render, whole, Console.shown?_heading named (by decide), plain]

theorem render_summary (files entries : Nat) :
    render
        (s!"\nFiles scanned: [bold]{files}[/bold] | " ++ s!"Diagnostics: [bold]{entries}[/bold]") =
      .ok ('\n' :: s!"Files scanned: {files} | Diagnostics: {entries}".toList) := by
  refine Outcome.eq_ok_of_mem_toOption ?_
  have named : Console.TagName "bold".toList := ⟨by decide, by decide⟩
  have whole : (s!"\nFiles scanned: [bold]{files}[/bold] | " ++
      s!"Diagnostics: [bold]{entries}[/bold]").toList =
        "\nFiles scanned: ".toList ++ Console.tagged "bold".toList (toString files).toList
          (" | Diagnostics: ".toList ++
            Console.tagged "bold".toList (toString entries).toList []) := by
    simp only [String.toList_append, List.append_assoc]
    rfl
  rw [toOption_render, whole, Console.shown?_append_tagged named (by decide) (plains_count files),
    Console.shown?_append_tagged named (by decide) (plains_count entries), Console.shown?_nil,
    shown_count, shown_count, shown_of_plain (by decide) (by decide),
    shown_of_plain (by decide) (by decide)]
  simp only [Option.map_some, List.append_nil, String.toList_append, List.append_assoc]
  rfl

/-! ## Entries -/

section

variable {shown : String → List Char} {report : Report} {state : Surroundings}

theorem column_eq {header : String} {maximum : Option Nat} {texts : List String}
    (readable : ∀ text ∈ texts, render text = .ok (shown text)) :
    column header maximum texts state =
      (.ok { header := header.toList, maximum, entries := texts.map shown }, state) := by
  rw [column, Outcome.mapM_eq_ok_map readable]
  rfl

theorem column_stops {header : String} {maximum : Option Nat} {texts : List String}
    (unreadable : ∃ text ∈ texts, ∀ shown, render text ≠ .ok shown) :
    Stops (column header maximum texts) := by
  rw [column]
  cases h : texts.mapM render with
  | error error => exact (Run.orFail_stops _ error).bind _
  | ok results =>
      obtain ⟨text, found, unreadable⟩ := unreadable
      obtain ⟨shown, readable⟩ := Outcome.exists_mapM_ok_iff.mp ⟨results, h⟩ text found
      exact absurd readable (unreadable shown)

theorem render_id (issue : Issue) : render issue.id = .ok issue.id.toList := by
  refine Console.render_of_unmarked ?_
  cases issue <;> exact Console.unmarked_of_plain (by decide) (by decide)

theorem table_eq (readable : ∀ entry ∈ report.entries, ∀ text ∈ entry.texts,
      render text = .ok (shown text)) :
    table report.entries state = (.ok (report.table shown), state) := by
  have locations : ∀ text ∈ report.entries.map ReportEntry.location,
      render text = .ok (shown text) := by
    rintro _ found
    obtain ⟨entry, member, rfl⟩ := List.mem_map.mp found
    exact readable entry member _ List.mem_cons_self
  have ids : ∀ text ∈ report.entries.map (·.issue.id), render text = .ok text.toList := by
    rintro _ found
    obtain ⟨entry, -, rfl⟩ := List.mem_map.mp found
    exact render_id entry.issue
  have messages : ∀ text ∈ report.entries.map (·.message), render text = .ok (shown text) := by
    rintro _ found
    obtain ⟨entry, member, rfl⟩ := List.mem_map.mp found
    exact readable entry member _ (List.mem_cons_of_mem _ List.mem_cons_self)
  rw [table, Run.bind_of_ok (column_eq locations)]
  dsimp only
  rw [Run.bind_of_ok (column_eq ids), Run.bind_of_ok (column_eq messages), List.map_map,
    List.map_map, List.map_map]
  rfl

theorem table_stops {entries : List ReportEntry} (unreadable : ∃ entry ∈ entries,
      ∃ text ∈ entry.texts, ∀ shown, render text ≠ .ok shown) : Stops (table entries) := by
  obtain ⟨entry, member, text, found, unreadable⟩ := unreadable
  have stops {textOf : ReportEntry → String} (here : text = textOf entry) {header : String}
      {maximum : Option Nat} : Stops (column header maximum (entries.map textOf)) :=
    column_stops ⟨_, List.mem_map_of_mem member, here ▸ unreadable⟩
  rw [table]
  rcases List.mem_cons.mp found with location | found
  · exact (stops location).bind _
  · exact Run.stops_bind _ fun _ => Run.stops_bind _ fun _ =>
      (stops (List.mem_singleton.mp found)).bind _

theorem rows_table : (report.table shown).rows = report.entries.map (ReportEntry.cells shown) :=
  Console.Table.rows_eq
    [fun entry : ReportEntry => shown entry.location, fun entry => entry.severity.name.toList,
      fun entry => entry.issue.id.toList, fun entry => shown entry.message]
    (List.cons_ne_nil _ _) rfl

/-! ## Parts of a report -/

theorem printEntries_prints (readable : ∀ entry ∈ report.entries, ∀ text ∈ entry.texts,
      render text = .ok (shown text)) :
    ∃ body, Prints (printEntries report.entries) body ∧
      (report.entries = [] → ink body.flatten = ink "No issues found.".toList) ∧
      (report.entries ≠ [] → report.Breakable shown →
        Console.Table.RowsSeen (report.table shown).widths
          (report.entries.map (ReportEntry.cells shown)) body) := by
  rw [printEntries]
  by_cases none : report.entries = []
  · rw [none]
    exact ⟨_, Run.say_prints render_noIssues, fun _ => Console.ink_wrap_fold (by decide) _,
      fun some => absurd rfl some⟩
  · rw [if_neg (by simpa using none)]
    refine ⟨(report.table shown).lines, fun state => ?_, fun empty => absurd empty none,
      fun _ breakable => ?_⟩
    · rw [Run.bind_of_ok (table_eq readable)]
      exact Run.printLines_prints _ state
    · rw [← rows_table]
      refine Console.Table.lines_seen fun row found => ?_
      rw [rows_table] at found
      obtain ⟨entry, member, rfl⟩ := List.mem_map.mp found
      exact breakable entry member

theorem say_skipped_prints {error : String} (readable : render error = .ok (shown error)) :
    Prints (Run.say ("[yellow]Skipped:[/yellow] " ++ error))
      (Console.wrap .fold Console.consoleWidth ("Skipped: ".toList ++ shown error)) := by
  refine Run.say_prints (Outcome.eq_ok_of_mem_toOption ?_)
  rw [toOption_render_skipped, readable]
  rfl

theorem say_skipped_stops {error : String} (unreadable : ∀ shown, render error ≠ .ok shown) :
    Stops (Run.say ("[yellow]Skipped:[/yellow] " ++ error)) := by
  refine Run.say_stops fun text readable => ?_
  have none : (render error).toOption = none := by
    cases h : render error with
    | error fault => rfl
    | ok shown => exact absurd h (unreadable shown)
  have shows := toOption_render_skipped error
  rw [readable, none] at shows
  cases shows

/-! ## Whole reports -/

theorem printReport_prints (readable : ∀ text ∈ report.texts, render text = .ok (shown text)) :
    ∃ lines, Prints (printReport report) lines ∧
      (report.Breakable shown → report.Seen shown lines) := by
  obtain ⟨entries, errors⟩ := List.forall_mem_append.mp readable
  have each : ∀ entry ∈ report.entries, ∀ text ∈ entry.texts, render text = .ok (shown text) :=
    fun entry found text inside => entries text (List.mem_flatMap_of_mem found inside)
  obtain ⟨body, prints, empty, rows⟩ := printEntries_prints each
  have skipped := Run.each_prints fun error found => say_skipped_prints (errors error found)
  have summary : Prints (printSummary report) _ := Run.say_prints (render_summary _ _)
  rw [printReport_eq]
  refine ⟨_, prints.bind (skipped.bind summary), fun breakable => ⟨body, _, _,
    by rw [List.flatMap_def], empty, fun some => rows some breakable, ?_, ?_⟩⟩
  · rw [List.forall₂_map_right_iff, List.forall₂_same]
    exact fun error _ => Console.ink_wrap_fold (by decide) _
  · exact Console.ink_wrap_fold (by decide) _

theorem printReport_stops (unreadable : ∃ text ∈ report.texts, ∀ shown, render text ≠ .ok shown) :
    Stops (printReport report) := by
  obtain ⟨text, found, unreadable⟩ := unreadable
  rw [printReport_eq]
  rcases List.mem_append.mp found with entry | error
  · obtain ⟨entry, member, inside⟩ := List.mem_flatMap.mp entry
    have some : ¬report.entries.isEmpty = true := by
      rw [List.isEmpty_iff]
      exact List.ne_nil_of_mem member
    rw [printEntries, if_neg some]
    exact ((table_stops ⟨entry, member, text, inside, unreadable⟩).bind _).bind _
  · exact Run.stops_bind _ fun _ =>
      (Run.each_stops ⟨text, error, say_skipped_stops unreadable⟩).bind _

end

/-- A report is printed to its end exactly if all its texts can be read as markup, and a text
without marks is read as it is.  Whenever the report is printed, all that its texts show is seen on
the lines, words that are wider than their column without their ends, provided that its cells can
be broken into the lines of their columns. -/
theorem printReport_shows (report : Report) (state : Surroundings) :
    ((∃ after, printReport report state = (.ok (), after)) ↔
        ∀ text ∈ report.texts, ∃ shown, render text = .ok shown) ∧
      (∀ text : String, Unmarked text.toList → render text = .ok text.toList) ∧
      ∀ shown : String → List Char, (∀ text ∈ report.texts, render text = .ok (shown text)) →
        ∃ lines, printReport report state =
            (.ok (), { state with output := state.output ++ Console.ofLines lines }) ∧
          (report.Breakable shown → report.Seen shown lines) := by
  refine ⟨⟨?_, ?_⟩, fun _ => Console.render_of_unmarked, fun shown readable => ?_⟩
  · rintro ⟨after, returns⟩ text found
    by_contra unreadable
    obtain ⟨stop, after', stops⟩ :=
      printReport_stops ⟨text, found, fun shown h => unreadable ⟨shown, h⟩⟩ state
    rw [stops] at returns
    cases returns
  · intro readable
    have shows : ∀ text ∈ report.texts, render text = .ok ((render text).toOption.getD []) := by
      intro text found
      obtain ⟨shown, h⟩ := readable text found
      rw [h]
      rfl
    obtain ⟨lines, prints, -⟩ := printReport_prints shows
    exact ⟨_, prints state⟩
  · obtain ⟨lines, prints, seen⟩ := printReport_prints readable
    exact ⟨lines, prints state, seen⟩

/-- A report of one entry and one error without marks. -/
def sampleReport : Report where
  filesScanned := 2
  entries :=
    [{ issue := .modifierWithoutDefault
       severity := .error
       path := "ui/card.py"
       line := 12
       column := 5
       endLine := 12
       endColumn := 23
       message := Issue.modifierWithoutDefault.explanation
       fix := none }]
  errors := ["ui/list.py: invalid syntax (list.py, line 3)"]

/-- The message of the sample has no marks, and its lines begin with words and have no wide
characters. -/
theorem plain_explanation :
    Unmarked Issue.modifierWithoutDefault.explanation.toList ∧
      (Text.pieces (· == '\n') Issue.modifierWithoutDefault.explanation.toList).all
        Console.isNarrow = true := by
  unfold Issue.explanation
  dsimp only
  rw [String.toList_append, String.toList_append, String.toList_ofList, String.toList_ofList,
    String.toList_ofList]
  exact ⟨Console.unmarked_of_plain (by decide +kernel) (by decide +kernel), by decide +kernel⟩

theorem unmarked_sampleReport : ∀ text ∈ sampleReport.texts, Unmarked text.toList := by
  refine List.forall_mem_cons.mpr ⟨?_, List.forall_mem_cons.mpr ⟨plain_explanation.1, ?_⟩⟩
  · exact ReportEntry.unmarked_location
      (Console.unmarked_of_plain (by decide) (by decide)) (by decide)
  · exact List.forall_mem_singleton.mpr
      (Console.unmarked_of_plain (by decide) (by decide))

theorem breakable_sampleReport : sampleReport.Breakable String.toList := by
  have short : ∀ text ∈ ["ui/card.py:12:5", "error", "ComposeModifierWithoutDefault"],
      (Text.pieces (· == '\n') text.toList).all Console.isNarrow = true := by
    decide +kernel
  refine Report.breakable_of_narrow (List.forall_mem_singleton.mpr fun text found => ?_)
  change text ∈ ["ui/card.py:12:5", "error", "ComposeModifierWithoutDefault"].map String.toList ++
    [Issue.modifierWithoutDefault.explanation.toList] at found
  rcases List.mem_append.mp found with found | found
  · obtain ⟨text, member, rfl⟩ := List.mem_map.mp found
    exact short text member
  · rw [List.mem_singleton.mp found]
    exact plain_explanation.2

/-- The sample is seen character by character. -/
theorem printReport_shows_sampleReport :
    ∃ lines, printReport sampleReport { tree := {}, clock := default } =
        (.ok (), { tree := {}, clock := default, output := Console.ofLines lines }) ∧
      sampleReport.Seen String.toList lines := by
  obtain ⟨-, unmarked, shows⟩ := printReport_shows sampleReport { tree := {}, clock := default }
  obtain ⟨lines, prints, seen⟩ :=
    shows String.toList fun text found => unmarked text (unmarked_sampleReport text found)
  refine ⟨lines, ?_, seen breakable_sampleReport⟩
  rw [prints, String.empty_append]

/-- A report of one error in a file whose name holds brackets. -/
def bracketedReport : Report where
  filesScanned := 1
  entries := []
  errors := ["a[b].py: 'utf-8' codec can't decode byte 0xff in position 0: invalid start byte"]

theorem render_bracketedReport : ∀ text ∈ bracketedReport.texts, render text =
    .ok "a.py: 'utf-8' codec can't decode byte 0xff in position 0: invalid start byte".toList := by
  refine List.forall_mem_singleton.mpr ?_
  cbv

/-- The report with brackets is not seen character by character. -/
theorem not_exists_seen_bracketedReport :
    ¬∃ lines, printReport bracketedReport { tree := {}, clock := default } =
        (.ok (), { tree := {}, clock := default, output := Console.ofLines lines }) ∧
      bracketedReport.Seen String.toList lines := by
  rintro ⟨lines, prints, seen⟩
  obtain ⟨lines', prints', seen'⟩ := printReport_prints render_bracketedReport
  have output : Console.ofLines lines = Console.ofLines lines' := by
    have same := congrArg (·.2.output) (prints.symm.trans (prints' _))
    rwa [String.empty_append] at same
  have same : ink lines.flatten = ink lines'.flatten := by
    rw [← Console.ink_ofLines, output, Console.ink_ofLines]
  have breakable (shown : String → List Char) : bracketedReport.Breakable shown :=
    fun entry found => absurd found List.not_mem_nil
  rw [seen.ink_eq rfl, (seen' (breakable _)).ink_eq rfl] at same
  revert same
  decide +kernel

end Check

end SignatureLint

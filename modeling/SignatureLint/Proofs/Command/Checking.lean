import SignatureLint.Proofs.Command.Printing
import SignatureLint.Proofs.Command.Returning
import SignatureLint.Proofs.Fixing.Written

/-!
# Checks that come to a report

A check that comes to a report looks for diagnostics in the paths and in the manifest, writes all
the edits that it may write if it is asked to, and reports what is left.  It comes to a report if it
does not stop with a failure or with the exit code for errors that are reported.
-/

namespace SignatureLint

open Run (Thorough)

namespace Check

/-! ## Edits that are written -/

/-- The diagnostics in files that may be mended. -/
def candidates (diagnostics : List Diagnostic) : List Diagnostic :=
  diagnostics.filter fun diagnostic => isMendable diagnostic.location.path

/-- The files that are rewritten and the edits that are written to each: those of all candidates,
if files are to be mended. -/
def editsOf (options : CheckOptions) (diagnostics : List Diagnostic) : List (String × List Edit) :=
  if options.fix then Edit.groups (Diagnostic.fixableEdits (candidates diagnostics)) else []

/-- The number of edits that are written to some files. -/
def fixedIn (written : List (String × List Edit)) : Nat :=
  (written.map (·.2.length)).sum

/-- A diagnostic whose edit is among those that are written. -/
def Settled (written : List (String × List Edit)) (diagnostic : Diagnostic) : Prop :=
  ∃ edit ∈ diagnostic.autoFix?, ∃ group ∈ written, edit ∈ group.2

instance (written : List (String × List Edit)) : DecidablePred (Settled written) :=
  fun diagnostic => inferInstanceAs (Decidable (∃ edit ∈ diagnostic.autoFix?,
    ∃ group ∈ written, edit ∈ group.2))

/-- What is printed once edits are written, unless only the report is to be printed. -/
def announced (options : CheckOptions) (written : List (String × List Edit)) : String :=
  if options.fix && !options.json then
    Console.ofLines (Console.wrap .fold Console.consoleWidth
      s!"Applied {fixedIn written} fixes in {written.length} files.".toList)
  else ""

/-- Diagnostics whose edits are about the files in which they are. -/
def Local (diagnostics : List Diagnostic) : Prop :=
  ∀ diagnostic ∈ diagnostics, ∀ edit, diagnostic.autoFix? = some edit →
    edit.span.path = diagnostic.location.path

section

variable {diagnostics : List Diagnostic} {diagnostic : Diagnostic} {options : CheckOptions}

theorem isSettled_iff (found : diagnostic ∈ diagnostics) :
    isSettled ((Edit.groups (Diagnostic.fixableEdits (candidates diagnostics))).map (·.1))
        diagnostic = true ↔
      isMendable diagnostic.location.path = true ∧ diagnostic.autoFix?.isSome = true := by
  rw [isSettled, Bool.and_eq_true]
  refine and_congr_right fun mendable => ?_
  cases fix : diagnostic.autoFix? with
  | none => rfl
  | some edit =>
      have candidate : diagnostic ∈ candidates diagnostics :=
        List.mem_filter.mpr ⟨found, mendable⟩
      have fixable : edit ∈ Diagnostic.fixableEdits (candidates diagnostics) :=
        List.mem_filterMap.mpr ⟨diagnostic, candidate, fix⟩
      rw [Option.any_some,
        List.contains_iff_mem.mpr (Edit.mem_map_groups_iff.mpr ⟨edit, fixable, rfl⟩)]
      rfl

theorem length_filter_isSettled (diagnostics : List Diagnostic) :
    (diagnostics.filter (isSettled
        ((Edit.groups (Diagnostic.fixableEdits (candidates diagnostics))).map (·.1)))).length =
      fixedIn (Edit.groups (Diagnostic.fixableEdits (candidates diagnostics))) := by
  have settled : diagnostics.filter (isSettled
      ((Edit.groups (Diagnostic.fixableEdits (candidates diagnostics))).map (·.1))) =
        (candidates diagnostics).filter (·.autoFix?.isSome) := by
    rw [candidates, List.filter_filter]
    refine List.filter_congr fun diagnostic found => Bool.eq_iff_iff.mpr ?_
    rw [Bool.and_eq_true, and_comm]
    exact isSettled_iff found
  rw [settled, ← Diagnostic.length_fixableEdits, fixedIn, Edit.sum_length_groups]

/-- The edit of a diagnostic is written if files are mended, the file of the diagnostic may be, and
there is an edit that is applied without asking. -/
theorem settled_iff (inside : Local diagnostics) (found : diagnostic ∈ diagnostics) :
    Settled (editsOf options diagnostics) diagnostic ↔
      options.fix = true ∧ isMendable diagnostic.location.path = true ∧
        diagnostic.autoFix?.isSome = true := by
  unfold Settled editsOf
  cases options.fix with
  | false =>
      refine iff_of_false ?_ nofun
      rintro ⟨edit, -, group, none, -⟩
      cases none
  | true =>
      simp only [if_pos, Edit.exists_mem_groups_iff, true_and]
      constructor
      · rintro ⟨edit, fix, member⟩
        obtain ⟨candidate, among, fix'⟩ := List.mem_filterMap.mp member
        obtain ⟨here, mendable⟩ := List.mem_filter.mp among
        rw [← inside candidate here edit fix', inside diagnostic found edit fix] at mendable
        exact ⟨mendable, Option.isSome_of_mem fix⟩
      · rintro ⟨mendable, some⟩
        obtain ⟨edit, fix⟩ := Option.isSome_iff_exists.mp some
        exact ⟨edit, fix, List.mem_filterMap.mpr
          ⟨diagnostic, List.mem_filter.mpr ⟨found, mendable⟩, fix⟩⟩

end

/-! ## Steps of a check -/

variable {options : CheckOptions} {config : Config} {event : Nat} {state after : Surroundings}

theorem examinePaths_thorough [Wordings] (config : Config) (paths : List Pathname) :
    Thorough (examinePaths config paths) := by
  rw [examinePaths]
  refine .ite (fun _ => Run.thorough_pure _) fun _ => Run.files_thorough.bind fun tree => ?_
  split
  · exact (Run.say_thorough _).bind fun _ => Run.exit_thorough
  · exact Run.orFail_thorough

/-- Paths are examined if they are there and can be analysed, and nothing happens. -/
theorem examinePaths_eq_ok_iff [Wordings] {paths : List Pathname} {found : AnalysisResult} :
    examinePaths config paths state = (.ok found, after) ↔
      state = after ∧ (∀ path ∈ paths, state.tree.contains path = true) ∧
        state.tree.analyze config paths = .ok found := by
  rw [examinePaths]
  split
  · rename_i none
    obtain rfl := List.isEmpty_iff.mp none
    constructor
    · rintro ⟨⟩
      exact ⟨rfl, nofun, rfl⟩
    · rintro ⟨rfl, -, ⟨⟩⟩
      rfl
  · rw [Run.bind_of_ok (Run.files_eq state)]
    cases missing : paths.find? (!state.tree.contains ·) with
    | some path =>
        constructor
        · intro h
          obtain ⟨_, _, -, ends⟩ := Run.exists_of_bind_eq_ok h
          cases ends
        · rintro ⟨-, present, -⟩
          have absent := List.find?_some missing
          rw [present path (List.mem_of_find?_eq_some missing)] at absent
          cases absent
    | none =>
        have present : ∀ path ∈ paths, state.tree.contains path = true := by
          simpa using List.find?_eq_none.mp missing
        refine Run.orFail_eq_ok_iff.trans ⟨?_, ?_⟩
        · rintro ⟨analyzed, rfl⟩
          exact ⟨rfl, present, analyzed⟩
        · rintro ⟨rfl, -, analyzed⟩
          exact ⟨analyzed, rfl⟩

/-- What is found in a manifest, if there is one. -/
inductive Describes (tree : FileTree) (config : Config) :
    Option Pathname → AnalysisResult → Prop where
  | none : Describes tree config none {}
  | some {path : Pathname} {outlines : List FileOutline}
      (read : tree.manifest path = .ok outlines) :
      Describes tree config (some path) (FileOutline.analyzeAll config outlines)

theorem examineManifest_thorough [Wordings] (config : Config) (manifest : Option Pathname) :
    Thorough (examineManifest config manifest) := by
  cases manifest with
  | none => exact Run.thorough_pure _
  | some path =>
      exact Run.files_thorough.bind fun _ => Run.orReport_thorough.bind fun _ => Run.thorough_pure _

theorem of_examineManifest_eq_ok [Wordings] {manifest : Option Pathname}
    {described : AnalysisResult}
    (h : examineManifest config manifest state = (.ok described, after)) :
    state = after ∧ Describes state.tree config manifest described := by
  cases manifest with
  | none =>
      cases h
      exact ⟨rfl, .none⟩
  | some path =>
      rw [examineManifest, Run.bind_of_ok (Run.files_eq state)] at h
      obtain ⟨outlines, _, read, ends⟩ := Run.exists_of_bind_eq_ok h
      obtain ⟨read, rfl⟩ := Run.orReport_eq_ok_iff.mp read
      cases ends
      exact ⟨rfl, .some read⟩

theorem local_of_found [Wordings] {tree : FileTree} {paths : List Pathname}
    {manifest : Option Pathname}
    {found described : AnalysisResult} (analyzed : tree.analyze config paths = .ok found)
    (describes : Describes tree config manifest described) :
    Local (found ++ described).diagnostics := by
  intro diagnostic member edit fix
  rcases List.mem_append.mp member with here | here
  · exact FileTree.path_of_mem_analyze analyzed here fix
  · cases describes with
    | none => cases here
    | some read =>
        exact FileOutline.path_of_mem_analyzeAll (FileTree.produced_of_manifest read) here fix

/-! ### Mending -/

/-- Say how many edits were written to how many files, unless only the report is to be printed. -/
def announce (quiet : Bool) (edits files : Nat) : Run Unit :=
  if quiet then pure () else Run.say s!"Applied {edits} fixes in {files} files."

theorem mend_eq [Wordings] (quiet : Bool) (result : AnalysisResult) (event : Nat) :
    mend quiet result event = (do
      let tree ← Run.files
      modify fun state => { state with tree := (tree.fix (candidates result.diagnostics)).1 }
      let applied ← Run.orReport "[red]Fix failed:[/red]" .fix
        (tree.fix (candidates result.diagnostics)).2
      let settled := result.diagnostics.filter (isSettled (applied.map (·.1)))
      Run.note event "fixed" (.integer settled.length)
      announce quiet settled.length applied.length
      return { result with
        diagnostics := result.diagnostics.filter (!isSettled (applied.map (·.1)) ·) }) := by
  rw [mend]
  simp only [List.partition_eq_filter_filter]
  cases quiet <;> rfl

theorem render_announcement (edits files : Nat) :
    Console.render s!"Applied {edits} fixes in {files} files." =
      .ok s!"Applied {edits} fixes in {files} files.".toList := by
  refine Console.render_of_unmarked (Console.unmarked_of_plain ?_ ?_)
  · simp only [String.toList_append, List.all_append, Console.plains_count]
    decide
  · simp only [String.toList_append, List.count_append,
      Console.count_of_numeral (Console.isNumeral_of_mem_count _)]
    decide

theorem announce_eq (quiet : Bool) (edits files : Nat) (state : Surroundings) :
    announce quiet edits files state =
      (.ok (), { state with output := state.output ++
        if quiet then "" else Console.ofLines (Console.wrap .fold Console.consoleWidth
          s!"Applied {edits} fixes in {files} files.".toList) }) := by
  cases quiet with
  | true =>
      change (Except.ok (), state) = (Except.ok (), { state with output := state.output ++ "" })
      rw [String.append_empty]
  | false => exact Run.say_prints (render_announcement edits files) state

theorem mend_thorough [Wordings] (quiet : Bool) (result : AnalysisResult) (event : Nat) :
    Thorough (mend quiet result event) := by
  rw [mend_eq]
  exact Run.files_thorough.bind fun _ => (Run.modify_thorough _).bind fun _ =>
    Run.orReport_thorough.bind fun _ => (Run.modify_thorough _).bind fun _ =>
      (Run.thorough_of_returns fun state => ⟨_, _, announce_eq _ _ _ state⟩).bind fun _ =>
        Run.thorough_pure _

/-- Once files are mended, the edits of all candidates are written, and their number is noted and
announced. -/
theorem of_mend_eq_ok [Wordings] {quiet : Bool} {result kept : AnalysisResult}
    {written : List (String × List Edit)}
    (all : written = Edit.groups (Diagnostic.fixableEdits (candidates result.diagnostics)))
    (h : mend quiet result event state = (.ok kept, after)) :
    ∃ mended, state.tree.fix (candidates result.diagnostics) =
        (mended, .ok (written.map fun group => (group.1, group.2.length))) ∧
      kept = { result with
        diagnostics := result.diagnostics.filter (!isSettled (written.map (·.1)) ·) } ∧
      after = { state with
        tree := mended
        output := state.output ++
          if quiet then "" else Console.ofLines (Console.wrap .fold Console.consoleWidth
            s!"Applied {fixedIn written} fixes in {written.length} files.".toList)
        events := state.events.modify event
          (RunEvent.put · "fixed" (.integer (fixedIn written))) } := by
  have settled : (result.diagnostics.filter (isSettled (written.map (·.1)))).length =
      fixedIn written := by
    rw [all, length_filter_isSettled]
  rw [mend_eq, Run.bind_of_ok (Run.files_eq state)] at h
  cases fixes : state.tree.fix (candidates result.diagnostics) with
  | mk mended outcome =>
      rw [fixes, Run.bind_of_ok (Run.modify_eq _ _)] at h
      obtain ⟨applied, _, reported, ends⟩ := Run.exists_of_bind_eq_ok h
      obtain ⟨rfl, rfl⟩ := Run.orReport_eq_ok_iff.mp reported
      have mends := fixes
      rw [FileTree.fix, Edit.byFile_eq_groups, ← all] at mends
      obtain ⟨-, rfl⟩ := FileTree.fixFiles_eq_ok_iff.mp mends
      -- what was written is counted again from the diagnostics that are settled, and the two agree
      have names : (written.map fun group => (group.1, group.2.length)).map (·.1) =
          written.map (·.1) := List.map_map
      dsimp only at ends
      rw [names, settled, List.length_map, Run.bind_of_ok (Run.note_eq _ _ _ _),
        Run.bind_of_ok (announce_eq _ _ _ _)] at ends
      cases ends
      exact ⟨_, rfl, rfl, rfl⟩

theorem exists_mend_of_fix [Wordings] (quiet : Bool) (result : AnalysisResult) {mended : FileTree}
    {applied : List (String × Nat)}
    (h : state.tree.fix (candidates result.diagnostics) = (mended, .ok applied)) :
    ∃ kept after, mend quiet result event state = (.ok kept, after) := by
  rw [mend_eq, Run.bind_of_ok (Run.files_eq state), h, Run.bind_of_ok (Run.modify_eq _ _),
    Run.bind_of_ok (Run.orReport_eq_ok_iff.mpr ⟨rfl, rfl⟩)]
  dsimp only
  rw [Run.bind_of_ok (Run.note_eq _ _ _ _), Run.bind_of_ok (announce_eq _ _ _ _)]
  exact ⟨_, _, rfl⟩

def mendIfAsked [Wordings] (options : CheckOptions) (result : AnalysisResult) (event : Nat) :
    Run AnalysisResult :=
  if options.fix then mend options.json result event else pure result

def noted (options : CheckOptions) (written : List (String × List Edit))
    (data : List (LooseText × Json)) : List (LooseText × Json) :=
  if options.fix then RunEvent.put data "fixed" (.integer (fixedIn written)) else data

/-- The files of a check before and after its edits are written, and the number of edits that is
told for each file. -/
structure Mends (options : CheckOptions) (diagnostics : List Diagnostic) (tree mended : FileTree) :
    Prop where
  all : tree.mendAll (editsOf options diagnostics) = .ok mended
  counted : options.fix = true → tree.fix (candidates diagnostics) =
    (mended, .ok ((editsOf options diagnostics).map fun group => (group.1, group.2.length)))

/-- Files that are mended are so because that is asked for, and only the diagnostics with other
edits or none are kept. -/
theorem of_mendIfAsked_eq_ok [Wordings] {result kept : AnalysisResult}
    (inside : Local result.diagnostics)
    (h : mendIfAsked options result event state = (.ok kept, after)) :
    ∃ mended, Mends options result.diagnostics state.tree mended ∧
      kept = { result with
        diagnostics := result.diagnostics.filter
          (¬Settled (editsOf options result.diagnostics) ·) } ∧
      after = { state with
        tree := mended
        output := state.output ++ announced options (editsOf options result.diagnostics)
        events := state.events.modify event
          (noted options (editsOf options result.diagnostics)) } := by
  unfold mendIfAsked at h
  by_cases fix : options.fix = true
  · have all : editsOf options result.diagnostics =
        Edit.groups (Diagnostic.fixableEdits (candidates result.diagnostics)) := if_pos fix
    rw [if_pos fix] at h
    obtain ⟨mended, fixes, rfl, rfl⟩ := of_mend_eq_ok all h
    have mends := fixes
    rw [FileTree.fix, Edit.byFile_eq_groups, ← all] at mends
    refine ⟨mended, ⟨(FileTree.fixFiles_eq_ok_iff.mp mends).1, fun _ => fixes⟩, ?_, ?_⟩
    · -- what is dropped is what was settled: the two agree on the diagnostics that were found
      congr 1
      refine List.filter_congr fun diagnostic found => ?_
      rw [Bool.eq_iff_iff, Bool.not_eq_true', ← Bool.not_eq_true, decide_eq_true_iff,
        settled_iff inside found, all, isSettled_iff found]
      simp only [fix, true_and]
    · have note : noted options (editsOf options result.diagnostics) =
          (RunEvent.put · "fixed" (.integer (fixedIn (editsOf options result.diagnostics)))) :=
        funext fun data => if_pos fix
      rw [announced, note, fix]
      cases options.json <;> rfl
  · have all : editsOf options result.diagnostics = [] := if_neg fix
    rw [if_neg fix] at h
    cases h
    refine ⟨state.tree, ⟨by rw [all]; rfl, fun fix' => absurd fix' fix⟩, ?_, ?_⟩
    · have every : result.diagnostics.filter (¬Settled (editsOf options result.diagnostics) ·) =
          result.diagnostics := by
        refine List.filter_eq_self.mpr fun diagnostic found => decide_eq_true ?_
        rw [settled_iff inside found]
        exact fun settled => fix settled.1
      rw [every]
    · have note : noted options (editsOf options result.diagnostics) = id :=
        funext fun data => if_neg fix
      rw [announced, note, List.modify_id, Bool.eq_false_iff.mpr fix]
      exact congrArg (Surroundings.mk _ _ · _) String.append_empty.symm

/-! ### Examinations -/

/-- Make the report, and note how much there is in it. -/
def conclude (config : Config) (lines : SourceLines) (event : Nat) (result : AnalysisResult) :
    Run Report := do
  let report := Report.build config lines result
  Run.note event "files_scanned" (.integer report.filesScanned)
  Run.note event "diagnostics" (.integer report.entries.length)
  return report

/-- What is noted once the report is made. -/
def concluded (report : Report) (data : List (LooseText × Json)) : List (LooseText × Json) :=
  RunEvent.put (RunEvent.put data "files_scanned" (.integer report.filesScanned)) "diagnostics"
    (.integer report.entries.length)

theorem conclude_eq (config : Config) (lines : SourceLines) (event : Nat) (result : AnalysisResult)
    (state : Surroundings) :
    conclude config lines event result state =
      (.ok (Report.build config lines result),
        { state with
          events := state.events.modify event
            (concluded (Report.build config lines result)) }) := by
  have both (report : Report) : concluded report =
      (RunEvent.put · "diagnostics" (.integer report.entries.length)) ∘
        (RunEvent.put · "files_scanned" (.integer report.filesScanned)) := rfl
  rw [both, ← List.modify_modify_eq]
  rfl

theorem examine_eq [Wordings] (options : CheckOptions) (config : Config) (event : Nat) :
    examine options config event = (do
      let found ← examinePaths config options.effectivePaths
      let described ← examineManifest config options.manifest
      let tree ← Run.files
      let kept ← mendIfAsked options (found ++ described) event
      conclude config (tree.sourceLines (found ++ described).diagnostics) event kept) := by
  rw [examine]
  obtain ⟨paths, manifest, json, fix⟩ := options
  cases fix <;> rfl

theorem examine_thorough [Wordings] (options : CheckOptions) (config : Config) (event : Nat) :
    Thorough (examine options config event) := by
  rw [examine_eq]
  refine (examinePaths_thorough _ _).bind fun found =>
    (examineManifest_thorough _ _).bind fun described => Run.files_thorough.bind fun tree => ?_
  refine Thorough.bind ?_ fun kept => ?_
  · exact .ite (fun _ => mend_thorough _ _ _) fun _ => Run.thorough_pure _
  · exact (Run.modify_thorough _).bind fun _ => (Run.modify_thorough _).bind fun _ =>
      Run.thorough_pure _

theorem entries_build (config : Config) (lines : SourceLines) (result : AnalysisResult)
    (kept : Diagnostic → Prop) [DecidablePred kept] :
    (Report.build config lines
        { result with diagnostics := result.diagnostics.filter (kept ·) }).entries =
      (result.diagnostics.filter fun diagnostic =>
        kept diagnostic ∧ config.severityFor diagnostic.issue ≠ .ignore).map
          (ReportEntry.ofDiagnostic config lines) := by
  rw [Report.build, List.filter_map, List.filter_filter]
  refine congrArg (List.map _) (List.filter_congr fun diagnostic _ => ?_)
  rw [Bool.decide_and, Bool.and_comm, Function.comp_apply, ReportEntry.ofDiagnostic, bne,
    decide_not]
  rfl

/-- A check, from the files that it examines to its report. -/
structure Course where
  config : Config
  /-- The files as they are examined. -/
  opened : FileTree
  /-- What is found in the paths. -/
  found : AnalysisResult
  /-- What is found in the manifest. -/
  described : AnalysisResult
  /-- The files once edits are written to some of them. -/
  mended : FileTree
  report : Report

namespace Course

/-- All diagnostics: those of the paths, and then those of the manifest. -/
def diagnostics (course : Course) : List Diagnostic :=
  course.found.diagnostics ++ course.described.diagnostics

def written (course : Course) (options : CheckOptions) : List (String × List Edit) :=
  editsOf options course.diagnostics

/-- The data of the event that is logged, given what was noted before. -/
def data (course : Course) (options : CheckOptions) (begun : List (LooseText × Json)) :
    List (LooseText × Json) :=
  concluded course.report (noted options (course.written options) begun)

/-- How the parts of a check come about.  The report has what is left of the diagnostics, at the
places where they were found. -/
structure Examines [Wordings] (course : Course) (options : CheckOptions) : Prop where
  present : ∀ path ∈ options.effectivePaths, course.opened.contains path = true
  found : course.opened.analyze course.config options.effectivePaths = .ok course.found
  described : Describes course.opened course.config options.manifest course.described
  mends : Mends options course.diagnostics course.opened course.mended
  entries : course.report.entries =
    (course.diagnostics.filter fun diagnostic =>
      ¬Settled (course.written options) diagnostic ∧
        course.config.severityFor diagnostic.issue ≠ .ignore).map
      (ReportEntry.ofDiagnostic course.config (course.opened.sourceLines course.diagnostics))
  errors : course.report.errors = course.found.errors ++ course.described.errors
  filesScanned : course.report.filesScanned =
    course.found.filesScanned + course.described.filesScanned

end Course

/-- An examination that comes to a report has gone through all of its parts. -/
theorem of_examine_eq_ok [Wordings] {report : Report}
    (h : examine options config event state = (.ok report, after)) :
    ∃ course : Course, course.config = config ∧ course.opened = state.tree ∧
      course.report = report ∧ course.Examines options ∧
      after = { state with
        tree := course.mended
        output := state.output ++ announced options (course.written options)
        events := state.events.modify event (course.data options) } := by
  rw [examine_eq] at h
  obtain ⟨found, _, first, later⟩ := Run.exists_of_bind_eq_ok h
  obtain ⟨rfl, present, analyzed⟩ := examinePaths_eq_ok_iff.mp first
  obtain ⟨described, _, second, rest⟩ := Run.exists_of_bind_eq_ok later
  obtain ⟨rfl, describes⟩ := of_examineManifest_eq_ok second
  rw [Run.bind_of_ok (Run.files_eq _)] at rest
  obtain ⟨kept, _, third, ends⟩ := Run.exists_of_bind_eq_ok rest
  obtain ⟨mended, mends, rfl, rfl⟩ :=
    of_mendIfAsked_eq_ok (local_of_found analyzed describes) third
  rw [conclude_eq, List.modify_modify_eq] at ends
  obtain ⟨⟨⟩, rfl⟩ := Prod.ext_iff.mp ends
  refine ⟨⟨config, state.tree, found, described, mended, _⟩, rfl, rfl, rfl, ?_, rfl⟩
  exact
    { present
      found := analyzed
      described := describes
      mends
      entries := entries_build _ _ _ (¬Settled (editsOf options (found ++ described).diagnostics) ·)
      errors := rfl
      filesScanned := rfl }

/-- An examination of paths alone comes to a report if the paths can be examined and the files
mended. -/
theorem exists_examine [Wordings] {found kept : AnalysisResult} (unlisted : options.manifest = none)
    (present : ∀ path ∈ options.effectivePaths, state.tree.contains path = true)
    (analyzed : state.tree.analyze config options.effectivePaths = .ok found)
    (mends : mendIfAsked options found event state = (.ok kept, after)) :
    ∃ report last, examine options config event state = (.ok report, last) := by
  have described : examineManifest config options.manifest state = (.ok {}, state) := by
    rw [unlisted]
    rfl
  rw [examine_eq, Run.bind_of_ok (examinePaths_eq_ok_iff.mpr ⟨rfl, present, analyzed⟩),
    Run.bind_of_ok described, Run.bind_of_ok (Run.files_eq _), AnalysisResult.append_empty,
    Run.bind_of_ok mends]
  exact ⟨_, _, conclude_eq _ _ _ _ _⟩

end Check

end SignatureLint

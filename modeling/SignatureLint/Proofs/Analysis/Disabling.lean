import SignatureLint.Proofs.Analysis.Violations
import SignatureLint.Report

/-!
# Disabling and ignoring issues

An issue can be kept from a report in two ways: its rule does not run, or what it finds is left out
at the end.  Both leave the same report, and everything else is found and shown as before.
-/

namespace SignatureLint

/-- An issue is listed if an identifier in the list is the same up to case. -/
def Issue.Listed (issue : Issue) (ids : NameSet) : Prop :=
  ∃ id ∈ ids.toList, Text.lower id = Text.lower issue.id

instance (issue : Issue) (ids : NameSet) : Decidable (issue.Listed ids) :=
  inferInstanceAs (Decidable (∃ _ ∈ _, _))

namespace Config

/-- A configuration under which more issues are not looked for. -/
def disabling (config : Config) (ids : NameSet) : Config :=
  { config with disabledIssues := config.disabledIssues ∪ ids }

/-- A configuration under which some issues are ignored. -/
def ignoring (config : Config) (ids : NameSet) : Config :=
  { config with
    severityOverrides := ids.toList.map (·, .ignore) ++ config.severityOverrides }

theorem severityFor_ignoring (config : Config) (ids : NameSet) (issue : Issue) :
    (config.ignoring ids).severityFor issue =
      if issue.Listed ids then .ignore else config.severityFor issue := by
  have first : (ids.toList.map fun id => (id, Severity.ignore)).find?
      (Issue.sameId ·.1 issue.id) =
        (ids.toList.find? (Issue.sameId · issue.id)).map (·, .ignore) := by
    rw [List.find?_map]
    rfl
  rw [severityFor, ignoring]
  dsimp only
  rw [List.find?_append, first]
  by_cases listed : issue.Listed ids
  · obtain ⟨id, here, same⟩ := listed
    have some : (ids.toList.find? (Issue.sameId · issue.id)).isSome :=
      List.find?_isSome.mpr ⟨id, here, beq_iff_eq.mpr same⟩
    obtain ⟨id', found⟩ := Option.isSome_iff_exists.mp some
    rw [if_pos ⟨id, here, same⟩, found]
    rfl
  · have other : ids.toList.find? (Issue.sameId · issue.id) = none :=
      List.find?_eq_none.mpr fun id here same => listed ⟨id, here, beq_iff_eq.mp same⟩
    rw [if_neg listed, other]
    rfl

end Config

/-! ## Fewer rules -/

theorem Issue.enabled_disabling {issue : Issue} {config : Config} {ids : NameSet} :
    issue.Enabled (config.disabling ids) ↔ issue.Enabled config ∧ ¬issue.Listed ids := by
  have both (id : String) : id ∈ (config.disabling ids).disabledIssues.toList ↔
      id ∈ config.disabledIssues.toList ∨ id ∈ ids.toList := NameSet.mem_union
  constructor
  · intro enabled
    refine ⟨fun id here => enabled id ((both id).mpr (.inl here)), ?_⟩
    rintro ⟨id, here, same⟩
    exact enabled id ((both id).mpr (.inr here)) same
  · rintro ⟨enabled, unlisted⟩ id here same
    rcases (both id).mp here with here | here
    · exact enabled id here same
    · exact unlisted ⟨id, here, same⟩

theorem Issue.issue_violation (issue : Issue) (config : Config) (parameter : DeclaredParameter)
    (type : TypeRef) : (issue.violation config parameter type).issue = issue := by
  cases issue <;> rfl

theorem filter_flatMap_of_parts {α β : Type} {parts : α → List β} {test : β → Bool}
    {select : α → Bool} (agree : ∀ x, ∀ y ∈ parts x, test y = select x) (xs : List α) :
    (xs.flatMap parts).filter test = (xs.filter select).flatMap parts := by
  induction xs with
  | nil => rfl
  | cons x rest ih =>
      rw [List.flatMap_cons, List.filter_append, ih, List.filter_congr (agree x)]
      cases selected : select x with
      | true =>
          rw [List.filter_cons_of_pos selected, List.flatMap_cons,
            List.filter_eq_self.mpr fun _ _ => rfl]
      | false =>
          rw [List.filter_cons_of_neg (by rw [selected]; exact Bool.false_ne_true),
            List.filter_eq_nil_iff.mpr fun _ _ => Bool.false_ne_true, List.nil_append]

theorem Declaration.violations_disabling (declaration : Declaration) (config : Config)
    (ids : NameSet) :
    declaration.violations (config.disabling ids) =
      (declaration.violations config).filter (¬·.issue.Listed ids) := by
  have enabled : (Issue.all.filter fun issue => decide (issue.Enabled (config.disabling ids))) =
      (Issue.all.filter fun issue => decide (issue.Enabled config)).filter
        fun issue => decide ¬issue.Listed ids := by
    rw [List.filter_filter]
    refine List.filter_congr fun issue _ => ?_
    rw [← Bool.decide_and, decide_eq_decide, Issue.enabled_disabling, and_comm]
  rw [violations, violations, enabled, filter_flatMap_of_parts]
  · -- The names that the rules go by are as they were.
    refine congrArg (List.flatMap · _) (funext fun issue => ?_)
    cases issue <;> rfl
  · intro issue diagnostic found
    obtain ⟨parameter, -, found⟩ := List.mem_flatMap.mp found
    obtain ⟨type, -, rfl⟩ := List.mem_map.mp found
    rw [issue.issue_violation]

theorem FileOutline.violations_disabling (outline : FileOutline) (config : Config)
    (ids : NameSet) :
    outline.violations (config.disabling ids) =
      (outline.violations config).filter (¬·.issue.Listed ids) := by
  rw [violations, violations, List.filter_flatMap]
  exact congrArg (List.flatMap · _) (funext fun declaration =>
    declaration.violations_disabling config ids)

/-! ## Fewer entries -/

/-- A report under a configuration that ignores the listed issues is the report of the other
diagnostics. -/
theorem Report.build_of_ignores {config config' : Config} {ids : NameSet}
    (ignores : ∀ issue : Issue, config'.severityFor issue =
      if issue.Listed ids then .ignore else config.severityFor issue)
    (lines : SourceLines) (result : AnalysisResult) :
    build config' lines result = build config lines
      { result with diagnostics := result.diagnostics.filter (¬·.issue.Listed ids) } := by
  rw [build, build]
  congr 1
  dsimp only
  induction result.diagnostics with
  | nil => rfl
  | cons diagnostic rest ih =>
      have severity := ignores diagnostic.issue
      by_cases listed : diagnostic.issue.Listed ids
      · rw [if_pos listed] at severity
        rw [List.filter_cons_of_neg (by simpa using listed), List.map_cons,
          List.filter_cons_of_neg, ih]
        simp [ReportEntry.ofDiagnostic, severity]
      · rw [if_neg listed] at severity
        have same : ReportEntry.ofDiagnostic config' lines diagnostic =
            ReportEntry.ofDiagnostic config lines diagnostic := by
          rw [ReportEntry.ofDiagnostic, ReportEntry.ofDiagnostic, severity]
        rw [List.filter_cons_of_pos (by simpa using listed), List.map_cons, List.map_cons, same,
          List.filter_cons, List.filter_cons, ih]

/-! ## The same report -/

namespace FileOutline

/-- When some issues are disabled, an analysis comes to the diagnostics of other issues, in the same
order, and to the same errors. -/
theorem analyzeAll_disabling (config : Config) (ids : NameSet) (outlines : List FileOutline) :
    analyzeAll (config.disabling ids) outlines =
      { diagnostics := (analyzeAll config outlines).diagnostics.filter (¬·.issue.Listed ids)
        errors := (analyzeAll config outlines).errors
        filesScanned := (analyzeAll config outlines).filesScanned } := by
  rw [analyzeAll_eq_verdict, analyzeAll_eq_verdict, verdict, verdict]
  congr 1
  rw [List.filter_flatMap]
  exact congrArg (List.flatMap · _) (funext fun outline =>
    outline.violations_disabling config ids)

/-- Disabling issues is leaving out their diagnostics, and a report that ignores these issues is the
report of an analysis in which they are disabled, however it comes that they are ignored.  There
is a configuration that ignores them. -/
theorem build_ignoring (config : Config) (ids : NameSet) (outlines : List FileOutline) :
    analyzeAll (config.disabling ids) outlines =
        { diagnostics := (analyzeAll config outlines).diagnostics.filter (¬·.issue.Listed ids)
          errors := (analyzeAll config outlines).errors
          filesScanned := (analyzeAll config outlines).filesScanned } ∧
      (∀ config' : Config,
        (∀ issue, config'.severityFor issue =
          if issue.Listed ids then .ignore else config.severityFor issue) →
        ∀ lines, Report.build config' lines (analyzeAll config outlines) =
          Report.build config lines (analyzeAll (config.disabling ids) outlines)) ∧
      ∀ issue, (config.ignoring ids).severityFor issue =
        if issue.Listed ids then .ignore else config.severityFor issue := by
  refine ⟨analyzeAll_disabling config ids outlines, fun config' ignores lines => ?_,
    config.severityFor_ignoring ids⟩
  rw [analyzeAll_disabling, Report.build_of_ignores ignores]

/-- A component with a modifier and with a list. -/
def mixedOutline : FileOutline where
  path := "a.py"
  declarations :=
    [{ name := "f", qualifiedName := "f", scope := none
       markers := .ofList ["composable"]
       bindings := {}
       span := ⟨"a.py", 2, 0, 2, 32⟩
       parameters := [("m", "Modifier", 6), ("xs", "list", 19)].map fun (name, type, start) =>
        { name
          type := some { text := type, rawName := type, coreText := type }
          hasDefault := false, acceptsDefault := true
          span := ⟨"a.py", 2, start, 2, start + name.length + type.length + 2⟩
          text := name ++ ": " ++ type
          lastLexeme := ⟨type, ⟨"a.py", 2, start + name.length + 2, 2,
            start + name.length + type.length + 2⟩⟩ } }]

/-- Of the two diagnostics of the component the one under an issue that is written in small letters
is left out. -/
theorem build_ignoring_mixedOutline :
    let ids := NameSet.ofList ["composemodifierwithoutdefault"]
    (∀ issue, (({} : Config).ignoring ids).severityFor issue =
        if issue.Listed ids then .ignore else ({} : Config).severityFor issue) ∧
      (analyzeAll {} [mixedOutline]).diagnostics.map (·.issue) =
        [.modifierWithoutDefault, .unstableCollections] ∧
      (analyzeAll (({} : Config).disabling ids) [mixedOutline]).diagnostics.map (·.issue) =
        [.unstableCollections] ∧
      Report.build (({} : Config).ignoring ids) {} (analyzeAll {} [mixedOutline]) =
        Report.build {} {} (analyzeAll (({} : Config).disabling ids) [mixedOutline]) := by
  intro ids
  obtain ⟨filtered, reports, ignores⟩ := build_ignoring {} ids [mixedOutline]
  have both : (analyzeAll {} [mixedOutline]).diagnostics.map (·.issue) =
      [.modifierWithoutDefault, .unstableCollections] := by decide +kernel
  refine ⟨ignores, both, ?_, reports _ ignores {}⟩
  rw [filtered]
  decide +kernel

end FileOutline

end SignatureLint

import Mathlib.Data.List.Basic
import Mathlib.Logic.Basic
import SignatureLint.Proofs.Analysis.Findings

/-!
# Violations

Which parameters break which rules, said by what is declared and what is configured, and not
by the tests that the rules make.  An analyzer that is given one file after the other reports
these violations and nothing else, and so does the analysis of several outlines.
-/

namespace SignatureLint

/-! ## What breaks a rule -/

namespace Declaration

/-- A declaration that the rules are for: it has the marker of a component, and nothing binds
its signature to another one. -/
structure Answers (declaration : Declaration) (markers : NameSet) : Prop where
  marked : ∃ marker, marker ∈ declaration.markers ∧ marker ∈ markers
  notOfInterface : declaration.bindings.interfaceMember = false
  notAbstract : declaration.bindings.isAbstract = false
  notForPlatform : declaration.bindings.expectOrActual = false
  notOverriding : declaration.bindings.overrides = false

theorem isEligible_iff {declaration : Declaration} {markers : NameSet} :
    declaration.isEligible markers = true ↔ declaration.Answers markers := by
  have unbound : (!declaration.bindings.constrained) = true ↔
      ((declaration.bindings.interfaceMember = false ∧ declaration.bindings.isAbstract = false) ∧
        declaration.bindings.expectOrActual = false) ∧
        declaration.bindings.overrides = false := by
    rw [Bool.not_eq_true', Bindings.constrained, Bool.or_eq_false_iff, Bool.or_eq_false_iff,
      Bool.or_eq_false_iff]
  rw [isEligible, isComponent, Bool.and_eq_true, NameSet.meets_iff, unbound]
  constructor
  · rintro ⟨marked, ⟨⟨member, abstract⟩, platform⟩, overriding⟩
    exact ⟨marked, member, abstract, platform, overriding⟩
  · rintro ⟨marked, member, abstract, platform, overriding⟩
    exact ⟨marked, ⟨⟨member, abstract⟩, platform⟩, overriding⟩

instance (declaration : Declaration) (markers : NameSet) :
    Decidable (declaration.Answers markers) :=
  decidable_of_iff _ isEligible_iff

end Declaration

namespace Issue

/-- An issue that is looked for: none of the disabled ones is the same up to case. -/
def Enabled (issue : Issue) (config : Config) : Prop :=
  ∀ disabled ∈ config.disabledIssues.toList, Text.lower disabled ≠ Text.lower issue.id

instance (issue : Issue) (config : Config) : Decidable (issue.Enabled config) :=
  inferInstanceAs (Decidable (∀ _ ∈ _, _))

/-- A parameter with some declared type breaks the rule behind an issue. -/
def Broken (issue : Issue) (config : Config) (parameter : DeclaredParameter) (type : TypeRef) :
    Prop :=
  match issue with
  | modifierWithoutDefault =>
      parameter.hasDefault = false ∧ type.rawName ≠ "" ∧
        type.rawName ∈ config.registry.modifierTypes
  | unstableCollections =>
      type.rawName ≠ "" ∧ type.rawName ∈ config.registry.unstableCollections ∧
        (¬∃ marker, marker ∈ type.markers ∧ marker ∈ config.registry.immutableMarkers) ∧
        type.rawName ∉ config.registry.immutableCollections

/-- What is reported about a parameter that breaks the rule behind an issue. -/
def violation (issue : Issue) (config : Config) (parameter : DeclaredParameter) (type : TypeRef) :
    Diagnostic :=
  match issue with
  | modifierWithoutDefault =>
      { issue := modifierWithoutDefault
        location := parameter.span
        message := modifierWithoutDefault.explanation
        fix := some (ModifierDefault.edit config parameter) }
  | unstableCollections =>
      { issue := unstableCollections
        location := type.span.getD parameter.span
        message :=
          UnstableCollections.message
            (if type.text = "" then UnstableCollections.unnamed else type.text)
            type.rawName parameter.name (UnstableCollections.recommended type)
        fix := none }

end Issue

namespace Registry

theorem includes_modifier_iff {registry : Registry} {type : TypeRef} :
    registry.includes .modifier type = true ↔
      type.rawName ≠ "" ∧ type.rawName ∈ registry.modifierTypes := by
  rw [includes, Bool.and_eq_true, Bool.not_eq_true', ← Bool.not_eq_true, String.isEmpty_iff,
    NameSet.contains_iff]

/-- The collections that can change are the types that are named among them, unless a marker or
the name says that they cannot. -/
theorem includes_unstableCollection_iff {registry : Registry} {type : TypeRef} :
    registry.includes .unstableCollection type = true ↔
      type.rawName ≠ "" ∧ type.rawName ∈ registry.unstableCollections ∧
        (¬∃ marker, marker ∈ type.markers ∧ marker ∈ registry.immutableMarkers) ∧
        type.rawName ∉ registry.immutableCollections := by
  rw [includes, Bool.and_eq_true, Bool.and_eq_true, Bool.and_eq_true, Bool.not_eq_true',
    Bool.not_eq_true', Bool.not_eq_true', ← Bool.not_eq_true, ← Bool.not_eq_true,
    ← Bool.not_eq_true, String.isEmpty_iff, NameSet.contains_iff, NameSet.contains_iff,
    NameSet.meets_iff, and_assoc]

end Registry

namespace Issue

variable {config : Config} {parameter : DeclaredParameter} {type : TypeRef}

theorem broken_iff (issue : Issue) :
    issue.Broken config parameter type ↔
      (match issue with
        | modifierWithoutDefault =>
            !parameter.hasDefault && config.registry.includes .modifier type
        | unstableCollections => config.registry.includes .unstableCollection type) = true := by
  cases issue with
  | modifierWithoutDefault =>
      dsimp only [Broken]
      rw [Bool.and_eq_true, Registry.includes_modifier_iff, Bool.not_eq_true']
  | unstableCollections => exact Registry.includes_unstableCollection_iff.symm

instance (issue : Issue) (config : Config) (parameter : DeclaredParameter) (type : TypeRef) :
    Decidable (issue.Broken config parameter type) :=
  decidable_of_iff _ (broken_iff issue).symm

theorem check_of_type_eq_none (issue : Issue) (untyped : parameter.type = none) :
    issue.check config parameter = none := by
  cases issue with
  | modifierWithoutDefault =>
      rw [check, ModifierDefault.check, untyped]
      exact if_neg (by simp [Registry.classifies])
  | unstableCollections => rw [check, UnstableCollections.check, untyped]

theorem check_of_type_eq_some (issue : Issue) (typed : parameter.type = some type) :
    issue.check config parameter =
      if issue.Broken config parameter type then some (issue.violation config parameter type)
      else none := by
  cases issue with
  | modifierWithoutDefault =>
      rw [check, ModifierDefault.check, typed, Registry.classifies]
      exact if_congr (broken_iff modifierWithoutDefault).symm rfl rfl
  | unstableCollections =>
      rw [check, UnstableCollections.check, typed]
      refine if_congr (broken_iff unstableCollections).symm ?_ rfl
      simp only [violation, String.isEmpty_iff]

theorem disables_eq (issue : Issue) (config : Config) :
    (!config.disables issue) = decide (issue.Enabled config) := by
  rw [Bool.eq_iff_iff, Bool.not_eq_true', decide_eq_true_iff, Config.disables,
    List.any_eq_false]
  refine forall₂_congr fun disabled _ => not_congr ?_
  rw [sameId, beq_iff_eq, eq_comm]

end Issue

/-! ## The violations of a file -/

/-- The violations of a declaration: for each issue that is looked for, in the order of the rules,
and for each parameter, in the order in which these are declared. -/
def Declaration.violations (declaration : Declaration) (config : Config) : List Diagnostic :=
  (Issue.all.filter (·.Enabled config)).flatMap fun issue =>
    declaration.parameters.flatMap fun parameter =>
      (parameter.type.toList.filter (issue.Broken config parameter)).map
        (issue.violation config parameter)

/-- The violations of the declarations of a file that the rules are for. -/
def FileOutline.violations (outline : FileOutline) (config : Config) : List Diagnostic :=
  (outline.declarations.filter (·.Answers config.componentMarkers)).flatMap
    (·.violations config)

theorem Issue.filterMap_check (issue : Issue) (config : Config)
    (parameters : List DeclaredParameter) :
    parameters.filterMap (issue.check config) =
      parameters.flatMap fun parameter =>
        (parameter.type.toList.filter (issue.Broken config parameter)).map
          (issue.violation config parameter) := by
  rw [List.filterMap_eq_flatMap_toList]
  refine congrArg (parameters.flatMap ·) (funext fun parameter => ?_)
  cases typed : parameter.type with
  | none => rw [issue.check_of_type_eq_none typed]; rfl
  | some type =>
      rw [issue.check_of_type_eq_some typed, Option.toList_some, List.filter_singleton]
      by_cases broken : issue.Broken config parameter type
      · rw [if_pos broken, decide_eq_true broken]; rfl
      · rw [if_neg broken, decide_eq_false broken]; rfl

theorem Declaration.findings_of_answers {declaration : Declaration} {config : Config}
    (answers : declaration.Answers config.componentMarkers) :
    declaration.findings config config.enabledIssues = declaration.violations config := by
  have enabled : config.enabledIssues = Issue.all.filter (·.Enabled config) :=
    List.filter_congr fun issue _ => issue.disables_eq config
  rw [findings, violations, enabled]
  refine congrArg (List.flatMap · _) (funext fun issue => ?_)
  rw [Issue.findings, if_pos (isEligible_iff.mpr answers), issue.filterMap_check]

theorem Declaration.findings_of_not_answers {declaration : Declaration} {config : Config}
    (other : ¬declaration.Answers config.componentMarkers) (issues : List Issue) :
    declaration.findings config issues = [] := by
  refine List.flatMap_eq_nil_iff.mpr fun issue _ => ?_
  rw [Issue.findings, if_neg (mt isEligible_iff.mp other)]

theorem FileOutline.findings_eq_violations (outline : FileOutline) (config : Config) :
    outline.findings config = outline.violations config := by
  rw [findings, violations]
  induction outline.declarations with
  | nil => rfl
  | cons declaration rest ih =>
      rw [List.flatMap_cons, ih]
      by_cases answers : declaration.Answers config.componentMarkers
      · rw [declaration.findings_of_answers answers, List.filter_cons,
          if_pos (by simpa using answers), List.flatMap_cons]
      · rw [declaration.findings_of_not_answers answers, List.nil_append, List.filter_cons,
          if_neg (by simpa using answers)]

/-! ## Whole runs -/

namespace Analyzer

def after (config : Config) (sink : Array Diagnostic) : Analyzer :=
  { start config with sink := sink }

theorem after_empty (config : Config) : after config #[] = start config := rfl

/-- Give an analyzer one outline after the other: what it returns for each, and the analyzer
after the last. -/
def feed (analyzer : Analyzer) : List FileOutline → List (List Diagnostic) × Analyzer
  | [] => ([], analyzer)
  | outline :: rest =>
      let (found, next) := analyzer.examine outline
      let (later, last) := next.feed rest
      (found :: later, last)

theorem examine_after (config : Config) (sink : Array Diagnostic) (outline : FileOutline) :
    (after config sink).examine outline =
      (outline.violations config,
        after config (sink ++ (outline.violations config).toArray)) := by
  rw [← outline.findings_eq_violations config, examine, Reporting.run_examine]
  rfl

/-- An analyzer returns the violations of each outline, and adds all of them in order to what it
has reported. -/
theorem feed_after (config : Config) (sink : Array Diagnostic) (outlines : List FileOutline) :
    (after config sink).feed outlines =
      (outlines.map (·.violations config),
        after config (sink ++ (outlines.flatMap (·.violations config)).toArray)) := by
  induction outlines generalizing sink with
  | nil =>
      rw [List.flatMap_nil, Array.append_empty]
      rfl
  | cons outline rest ih =>
      have total (first others : List Diagnostic) :
          sink ++ first.toArray ++ others.toArray = sink ++ (first ++ others).toArray := by
        simp
      rw [feed, examine_after]
      dsimp only
      rw [ih, total, List.map_cons, List.flatMap_cons]

end Analyzer

namespace FileOutline

theorem failure?_eq (outline : FileOutline) :
    outline.failure? =
      if outline.error.getD "" = "" then none else some (outline.error.getD "") := by
  cases error : outline.error with
  | none => rw [failure?, error]; rfl
  | some error' =>
      rw [failure?, error, Option.filter_some, Option.getD_some]
      by_cases blank : error' = ""
      · rw [if_pos blank, blank]; rfl
      · have said : (!error'.isEmpty) = true := by
          rwa [Bool.not_eq_true', ← Bool.not_eq_true, String.isEmpty_iff]
        rw [if_neg blank, if_pos said]

/-- What the analysis of some outlines comes to: the violations of those that can be examined, and
for each other one its path and what is wrong with it. -/
def verdict (config : Config) (outlines : List FileOutline) : AnalysisResult where
  diagnostics := (outlines.filter (·.error.getD "" = "")).flatMap (·.violations config)
  errors :=
    (outlines.filter (·.error.getD "" ≠ "")).map fun outline =>
      outline.path ++ ": " ++ outline.error.getD ""
  filesScanned := outlines.length

theorem verdict_cons (config : Config) (outline : FileOutline) (rest : List FileOutline) :
    verdict config (outline :: rest) =
      (if outline.error.getD "" = "" then
        { diagnostics := outline.violations config, filesScanned := 1 }
      else { errors := [outline.path ++ ": " ++ outline.error.getD ""], filesScanned := 1 }) ++
        verdict config rest := by
  have count : (outline :: rest).length = 1 + rest.length := Nat.add_comm _ _
  by_cases clean : outline.error.getD "" = ""
  · rw [if_pos clean, verdict, count, List.filter_cons, if_pos (by simpa using clean),
      List.filter_cons, if_neg (by simpa using clean)]
    rfl
  · rw [if_neg clean, verdict, count, List.filter_cons, if_neg (by simpa using clean),
      List.filter_cons, if_pos (by simpa using clean)]
    rfl

theorem analyzeAll_eq_verdict (config : Config) (outlines : List FileOutline) :
    analyzeAll config outlines = verdict config outlines := by
  have run (result : AnalysisResult) (sink : Array Diagnostic) :
      (outlines.foldl (fun state outline => outline.addTo state)
          (result, Analyzer.after config sink)).1 = result ++ verdict config outlines := by
    induction outlines generalizing result sink with
    | nil => exact result.append_empty.symm
    | cons outline rest ih =>
        rw [List.foldl_cons, verdict_cons, ← AnalysisResult.append_assoc, addTo,
          outline.failure?_eq]
        by_cases clean : outline.error.getD "" = ""
        · rw [if_pos clean, if_pos clean]
          dsimp only
          rw [Analyzer.examine_after, ih]
        · rw [if_neg clean, if_neg clean]
          exact ih _ sink
  exact (run {} #[]).trans (AnalysisResult.empty_append _)

end FileOutline

/-- The violations are reported and nothing else: by an analyzer that has reported other things
before and is given outlines one after the other, and by the analysis of outlines. -/
theorem reports_violations (config : Config) (sink : Array Diagnostic)
    (outlines : List FileOutline) :
    (Analyzer.after config sink).feed outlines =
        (outlines.map (·.violations config),
          Analyzer.after config (sink ++ (outlines.flatMap (·.violations config)).toArray)) ∧
      FileOutline.analyzeAll config outlines =
        { diagnostics :=
            (outlines.filter (·.error.getD "" = "")).flatMap (·.violations config)
          errors :=
            (outlines.filter (·.error.getD "" ≠ "")).map fun outline =>
              outline.path ++ ": " ++ outline.error.getD ""
          filesScanned := outlines.length } :=
  ⟨Analyzer.feed_after config sink outlines, FileOutline.analyzeAll_eq_verdict config outlines⟩

end SignatureLint

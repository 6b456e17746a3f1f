import SignatureLint.Proofs.Analysis.Findings

/-!
# The edits of findings

Only modifiers without a default have edits, and of those only the ones that take a
default where they stand are applied without asking.  The edits of a file are those of
its parameters, in the order in which these are declared.
-/

namespace SignatureLint

namespace ModifierDefault

/-- A modifier without a default. -/
def isMissing (config : Config) (parameter : DeclaredParameter) : Bool :=
  !parameter.hasDefault && config.registry.classifies (some .modifier) parameter.type

/-- A modifier to which a default is added without asking. -/
def isFixable (config : Config) (parameter : DeclaredParameter) : Bool :=
  isMissing config parameter && parameter.acceptsDefault

/-- What is said about a modifier without a default. -/
def diagnostic (config : Config) (parameter : DeclaredParameter) : Diagnostic where
  issue := .modifierWithoutDefault
  location := parameter.span
  message := Issue.modifierWithoutDefault.explanation
  fix := some (edit config parameter)

theorem check_eq (config : Config) (parameter : DeclaredParameter) :
    check config parameter =
      if isMissing config parameter then some (diagnostic config parameter) else none := rfl

theorem isSome_type_of_isFixable {config : Config} {parameter : DeclaredParameter}
    (h : isFixable config parameter = true) : parameter.type.isSome := by
  cases type : parameter.type with
  | some type => rfl
  | none => simp [isFixable, isMissing, Registry.classifies, type] at h

theorem filterMap_check (config : Config) (parameters : List DeclaredParameter) :
    parameters.filterMap (check config) =
      (parameters.filter (isMissing config)).map (diagnostic config) := by
  induction parameters with
  | nil => rfl
  | cons first rest ih =>
      cases missing : isMissing config first with
      | true =>
          rw [List.filterMap_cons_some (by rw [check_eq, if_pos missing]),
            List.filter_cons_of_pos missing, List.map_cons, ih]
      | false =>
          have other : ¬isMissing config first = true := by rw [missing]; decide
          rw [List.filterMap_cons_none (by rw [check_eq, if_neg other]),
            List.filter_cons_of_neg other, ih]

/-- The edit of such a finding is applied without asking if the parameter takes a default where it
stands. -/
theorem autoFix?_diagnostic (config : Config) (parameter : DeclaredParameter) :
    (diagnostic config parameter).autoFix? =
      if parameter.acceptsDefault then some (edit config parameter) else none := by
  simp only [diagnostic, Diagnostic.autoFix?, Option.filter_some, edit]

end ModifierDefault

namespace UnstableCollections

theorem fix_of_check {config : Config} {parameter : DeclaredParameter} {found : Diagnostic}
    (h : check config parameter = some found) : found.fix = none := by
  unfold check at h
  split at h
  · cases h
  · split at h
    · cases h
      rfl
    · cases h

end UnstableCollections

namespace Declaration

/-- The parameters of a declaration to which a default is added without asking. -/
def fixable (config : Config) (declaration : Declaration) : List DeclaredParameter :=
  if declaration.isEligible config.componentMarkers && !config.disables .modifierWithoutDefault then
    declaration.parameters.filter (ModifierDefault.isFixable config)
  else []

/-- The findings about a declaration with an edit that is applied without asking. -/
theorem filter_autoFix?_findings (config : Config) (declaration : Declaration) :
    (declaration.findings config config.enabledIssues).filter (·.autoFix?.isSome) =
      (declaration.fixable config).map (ModifierDefault.diagnostic config) := by
  -- only the first of the two issues has edits, so the second adds nothing whether it is enabled or
  -- not
  have collections :
      (Issue.findings .unstableCollections config declaration).filter (·.autoFix?.isSome) = [] := by
    rw [List.filter_eq_nil_iff]
    intro found member
    unfold Issue.findings at member
    split at member
    · obtain ⟨parameter, -, checked⟩ := List.mem_filterMap.mp member
      rw [Diagnostic.autoFix?, UnstableCollections.fix_of_check checked]
      decide
    · cases member
  have modifiers :
      (Issue.findings .modifierWithoutDefault config declaration).filter (·.autoFix?.isSome) =
        if declaration.isEligible config.componentMarkers then
          (declaration.parameters.filter (ModifierDefault.isFixable config)).map
            (ModifierDefault.diagnostic config)
        else [] := by
    unfold Issue.findings
    split
    · have fixed (parameter : DeclaredParameter) :
          ((ModifierDefault.diagnostic config parameter).autoFix?.isSome) =
            parameter.acceptsDefault := by
        rw [ModifierDefault.autoFix?_diagnostic]
        cases parameter.acceptsDefault <;> rfl
      have checks : Issue.check .modifierWithoutDefault config = ModifierDefault.check config := rfl
      rw [checks, ModifierDefault.filterMap_check, List.filter_map, List.filter_filter]
      congr 2
      funext parameter
      rw [Function.comp_apply, fixed, ModifierDefault.isFixable, Bool.and_comm]
    · rfl
  rw [findings, List.filter_flatMap, Config.enabledIssues, Issue.all, fixable]
  cases first : config.disables .modifierWithoutDefault <;>
    cases second : config.disables .unstableCollections <;>
      simp only [List.filter_cons, List.filter_nil, first, second, Bool.not_true, Bool.not_false,
        if_true, Bool.false_eq_true, if_false, List.flatMap_cons, List.flatMap_nil, collections,
        modifiers, List.append_nil, Bool.and_true, Bool.and_false, List.map_nil]
  all_goals split <;> rfl

end Declaration

namespace FileOutline

/-- The parameters of a file to which a default is added without asking. -/
def fixable (config : Config) (outline : FileOutline) : List DeclaredParameter :=
  outline.declarations.flatMap (Declaration.fixable config)

theorem fixable_sublist (config : Config) (outline : FileOutline) :
    (outline.fixable config).Sublist (outline.declarations.flatMap (·.parameters)) := by
  rw [fixable]
  induction outline.declarations with
  | nil => exact List.Sublist.slnil
  | cons first rest ih =>
      rw [List.flatMap_cons, List.flatMap_cons]
      refine List.Sublist.append ?_ ih
      unfold Declaration.fixable
      split
      · exact List.filter_sublist
      · exact List.nil_sublist _

theorem isFixable_of_mem_fixable {config : Config} {outline : FileOutline}
    {parameter : DeclaredParameter} (found : parameter ∈ outline.fixable config) :
    ModifierDefault.isFixable config parameter = true := by
  obtain ⟨declaration, -, here⟩ := List.mem_flatMap.mp found
  unfold Declaration.fixable at here
  split at here
  · exact (List.mem_filter.mp here).2
  · cases here

theorem filter_autoFix?_findings (config : Config) (outline : FileOutline) :
    (outline.findings config).filter (·.autoFix?.isSome) =
      (outline.fixable config).map (ModifierDefault.diagnostic config) := by
  rw [findings, fixable, List.filter_flatMap, List.map_flatMap]
  congr 1
  funext declaration
  exact declaration.filter_autoFix?_findings config

/-- The edits of a file are those of its parameters. -/
theorem fixableEdits_findings (config : Config) (outline : FileOutline) :
    Diagnostic.fixableEdits (outline.findings config) =
      (outline.fixable config).map (ModifierDefault.edit config) := by
  have filtered (diagnostics : List Diagnostic) : Diagnostic.fixableEdits diagnostics =
      Diagnostic.fixableEdits (diagnostics.filter (·.autoFix?.isSome)) := by
    induction diagnostics with
    | nil => rfl
    | cons first rest ih =>
        unfold Diagnostic.fixableEdits at ih ⊢
        rw [List.filterMap_cons, List.filter_cons]
        cases edit : first.autoFix? with
        | none => exact ih
        | some found =>
            dsimp only [Option.isSome_some]
            rw [if_pos rfl, List.filterMap_cons_some edit, ih]
  have each (parameters : List DeclaredParameter)
      (accepts : ∀ parameter ∈ parameters, ModifierDefault.isFixable config parameter = true) :
      Diagnostic.fixableEdits (parameters.map (ModifierDefault.diagnostic config)) =
        parameters.map (ModifierDefault.edit config) := by
    induction parameters with
    | nil => rfl
    | cons first rest ih =>
        obtain ⟨here, others⟩ := List.forall_mem_cons.mp accepts
        rw [ModifierDefault.isFixable, Bool.and_eq_true] at here
        unfold Diagnostic.fixableEdits at ih ⊢
        rw [List.map_cons, List.map_cons, List.filterMap_cons_some, ih others]
        rw [ModifierDefault.autoFix?_diagnostic, if_pos here.2]
  rw [filtered, filter_autoFix?_findings]
  exact each _ fun _ found => isFixable_of_mem_fixable found

end FileOutline

end SignatureLint

import SignatureLint.Proofs.Analysis.Fixes
import SignatureLint.Proofs.Outline.Parameters

/-!
# Findings by slots

What is found in a program can be told from its functions: from the decorators of a
function and where it stands, and from the annotations of its parameters and which of
them have defaults.  Where anything stands in the text does not matter.
-/

namespace SignatureLint

open Outline

/-! ## Families -/

/-- Whether the annotation of a parameter describes a type of a family. -/
def Argument.belongs (registry : Registry) (family : Family) (argument : Argument) : Bool :=
  match argument.written with
  | none => false
  | some written =>
      match TypeRef.describe written.value with
      | .error _ => false
      | .ok type => registry.classifies (some family) type

theorem Argument.belongs_congr {argument argument' : Argument}
    (same : argument'.written.map Located.value = argument.written.map Located.value)
    (registry : Registry) (family : Family) :
    argument'.belongs registry family = argument.belongs registry family := by
  unfold belongs
  cases first : argument.written with
  | none =>
      rw [first] at same
      rw [Option.map_eq_none_iff.mp same]
  | some written =>
      cases second : argument'.written with
      | none =>
          rw [first, second] at same
          cases same
      | some written' =>
          rw [first, second] at same
          dsimp only
          rw [Option.some.inj same]

theorem Registry.classifies_congr {type type' : Option TypeRef}
    (same : (type.map fun type => (type.rawName, type.markers)) =
      type'.map fun type => (type.rawName, type.markers))
    (registry : Registry) (family : Option Family) :
    registry.classifies family type = registry.classifies family type' := by
  cases type with
  | none => rw [Option.map_eq_none_iff.mp same.symm]
  | some first =>
      cases type' with
      | none => cases same
      | some second =>
          obtain ⟨names, markers⟩ := Prod.mk.inj (Option.some.inj same)
          cases family with
          | none => rfl
          | some family =>
              simp only [classifies, includes, names, markers]

namespace Outline.File

variable {file file' : File} {slot : Slot} {parameter : DeclaredParameter}

theorem describe_of_annotated {written : Located Expr} {type : Option TypeRef}
    (h : file.annotated written = .ok type) :
    ∃ described, TypeRef.describe written.value = .ok described ∧
      (type.map fun type => (type.rawName, type.markers)) =
        described.map fun type => (type.rawName, type.markers) := by
  unfold annotated at h
  split at h
  · rename_i text marked value
    obtain ⟨characters, -, h⟩ := Outcome.exists_of_bind_eq_ok h
    obtain ⟨described, found, h⟩ := Outcome.exists_of_bind_eq_ok h
    cases h
    refine ⟨described, found, ?_⟩
    rw [Option.map_map]
    rfl
  · obtain ⟨described, found, h⟩ := Outcome.exists_of_bind_eq_ok h
    cases h
    refine ⟨described, found, ?_⟩
    rw [Option.map_map]
    rfl

theorem exists_annotated {written written' : Located Expr} {type : Option TypeRef}
    (same : written'.value = written.value) (h : file.annotated written = .ok type) :
    ∃ type', file'.annotated written' = .ok type' := by
  unfold annotated at h ⊢
  rw [same]
  split at h
  · obtain ⟨characters, referenced, h⟩ := Outcome.exists_of_bind_eq_ok h
    obtain ⟨described, found, h⟩ := Outcome.exists_of_bind_eq_ok h
    simp only [referenced, found, bind, Except.bind]
    exact ⟨_, rfl⟩
  · obtain ⟨described, found, h⟩ := Outcome.exists_of_bind_eq_ok h
    simp only [found, bind, Except.bind]
    exact ⟨_, rfl⟩

theorem Describes.classifies (describes : file.Describes slot parameter) (registry : Registry)
    (family : Family) :
    registry.classifies (some family) parameter.type = slot.argument.belongs registry family := by
  obtain ⟨type, understood, rfl⟩ := describes_iff.mp describes
  unfold typeOf at understood
  unfold Argument.belongs
  cases written : slot.argument.written with
  | none =>
      rw [written] at understood
      cases understood
      rfl
  | some written =>
      simp only [written] at understood
      obtain ⟨described, found, same⟩ := describe_of_annotated understood
      simp only [found]
      exact registry.classifies_congr same (some family)

theorem Describes.exists_describes {slot' : Slot} (describes : file.Describes slot parameter)
    (same : slot'.argument.written.map Located.value = slot.argument.written.map Located.value) :
    ∃ parameter', file'.Describes slot' parameter' := by
  obtain ⟨type, understood, -⟩ := describes_iff.mp describes
  have understood' : ∃ type', file'.typeOf slot'.argument = .ok type' := by
    unfold typeOf at understood ⊢
    cases first : slot.argument.written with
    | none =>
        rw [first] at same
        rw [Option.map_eq_none_iff.mp same]
        exact ⟨none, rfl⟩
    | some written =>
        cases second : slot'.argument.written with
        | none =>
            rw [first, second] at same
            cases same
        | some written' =>
            simp only [first] at understood
            rw [first, second] at same
            exact exists_annotated (Option.some.inj same) understood
  obtain ⟨type', understood'⟩ := understood'
  exact ⟨_, describes_iff.mpr ⟨type', understood', rfl⟩⟩

end Outline.File

/-! ## Slots -/

namespace Slot

def isModifier (config : Config) (slot : Slot) : Bool :=
  slot.argument.belongs config.registry .modifier

/-- A slot for a collection that can change. -/
def isCollection (config : Config) (slot : Slot) : Bool :=
  slot.argument.belongs config.registry .unstableCollection

/-- A slot for a modifier without a default. -/
def isMissing (config : Config) (slot : Slot) : Bool :=
  !slot.hasDefault && slot.isModifier config

/-- A slot for a modifier to which a default is added without asking. -/
def isFixable (config : Config) (slot : Slot) : Bool :=
  slot.isMissing config && slot.acceptsDefault

end Slot

namespace Outline.File.Describes

variable {file : File} {slot : Slot} {parameter : DeclaredParameter}

theorem span_eq (describes : file.Describes slot parameter) :
    parameter.span = Span.ofRange file.path slot.argument.range := by
  obtain ⟨type, -, rfl⟩ := describes_iff.mp describes
  rfl

theorem isMissing_eq (describes : file.Describes slot parameter) (config : Config) :
    ModifierDefault.isMissing config parameter = slot.isMissing config := by
  have same := describes.classifies config.registry .modifier
  obtain ⟨type, -, rfl⟩ := describes_iff.mp describes
  rw [ModifierDefault.isMissing, same]
  rfl

theorem isFixable_eq (describes : file.Describes slot parameter) (config : Config) :
    ModifierDefault.isFixable config parameter = slot.isFixable config := by
  have same := describes.isMissing_eq config
  obtain ⟨type, -, rfl⟩ := describes_iff.mp describes
  rw [ModifierDefault.isFixable, same]
  rfl

end Outline.File.Describes

/-! ## Functions -/

namespace Outline.File

variable {file : File} {function : Scope × FunctionHeader} {declaration : Declaration}

/-- A function with the marker of a component whose signature may be changed. -/
def isEligible (file : File) (function : Scope × FunctionHeader) : Bool :=
  let markers :=
    NameSet.ofList ((function.2.decorators.filterMap Expr.markerName?).filter (!·.isEmpty))
  markers.meets file.config.componentMarkers && !(file.bindings function.1 markers).constrained

theorem Declares.isEligible_eq (declares : file.Declares function declaration) :
    declaration.isEligible file.config.componentMarkers = file.isEligible function := by
  rw [Declaration.isEligible, Declaration.isComponent, declares.bindings, declares.markers,
    File.isEligible]

/-- The slots of a function that the rules look at and that are chosen. -/
def chosenSlots (file : File) (choose : Slot → Bool) (function : Scope × FunctionHeader) :
    List Slot :=
  if file.isEligible function then function.2.signature.slots.filter choose else []

theorem Declares.map_filter_eq {δ : Type} (declares : file.Declares function declaration)
    {choose : Slot → Bool} {choose' : DeclaredParameter → Bool} {f : Slot → δ}
    {g : DeclaredParameter → δ}
    (same : ∀ slot parameter, file.Describes slot parameter →
      choose slot = choose' parameter ∧ f slot = g parameter) :
    (file.chosenSlots choose function).map f =
      if declaration.isEligible file.config.componentMarkers then
        (declaration.parameters.filter choose').map g
      else [] := by
  rw [chosenSlots, declares.isEligible_eq]
  split
  · exact Related.map_filter_eq same declares.parameters
  · rfl

end Outline.File

/-! ## Findings -/

theorem ModifierDefault.issue_of_mem {config : Config} {parameters : List DeclaredParameter}
    {found : Diagnostic} (member : found ∈ parameters.map (diagnostic config)) :
    found.issue = .modifierWithoutDefault := by
  obtain ⟨parameter, -, rfl⟩ := List.mem_map.mp member
  rfl

namespace UnstableCollections

theorem isSome_check (config : Config) (parameter : DeclaredParameter) :
    (check config parameter).isSome =
      config.registry.classifies (some .unstableCollection) parameter.type := by
  unfold check
  cases parameter.type with
  | none => rfl
  | some type =>
      dsimp only [Registry.classifies]
      cases config.registry.includes .unstableCollection type <;> rfl

theorem issue_of_check {config : Config} {parameter : DeclaredParameter} {found : Diagnostic}
    (h : check config parameter = some found) : found.issue = .unstableCollections := by
  unfold check at h
  split at h
  · cases h
  · split at h
    · cases h
      rfl
    · cases h

theorem issue_of_mem {config : Config} {parameters : List DeclaredParameter} {found : Diagnostic}
    (member : found ∈ parameters.filterMap (check config)) :
    found.issue = .unstableCollections := by
  obtain ⟨parameter, -, checked⟩ := List.mem_filterMap.mp member
  exact issue_of_check checked

theorem map_issue_filterMap_check (config : Config) (parameters : List DeclaredParameter) :
    (parameters.filterMap (check config)).map (·.issue) =
      (parameters.filter fun parameter =>
        config.registry.classifies (some .unstableCollection) parameter.type).map
          fun _ => .unstableCollections := by
  induction parameters with
  | nil => rfl
  | cons first rest ih =>
      have selected := isSome_check config first
      rw [List.filter_cons, ← selected]
      cases checked : check config first with
      | none =>
          rw [List.filterMap_cons_none checked]
          exact ih
      | some found =>
          rw [List.filterMap_cons_some checked, List.map_cons, ih, issue_of_check checked]
          rfl

end UnstableCollections

namespace Declaration

variable {config : Config}

theorem findings_all (declaration : Declaration) :
    declaration.findings config Issue.all =
      if declaration.isEligible config.componentMarkers then
        (declaration.parameters.filter (ModifierDefault.isMissing config)).map
          (ModifierDefault.diagnostic config) ++
            declaration.parameters.filterMap (UnstableCollections.check config)
      else [] := by
  rw [← ModifierDefault.filterMap_check, findings, Issue.all, List.flatMap_cons,
    List.flatMap_cons, List.flatMap_nil, List.append_nil, Issue.findings, Issue.findings]
  split <;> rfl

theorem filter_modifiers_findings (declaration : Declaration) :
    (declaration.findings config Issue.all).filter (·.issue = .modifierWithoutDefault) =
      if declaration.isEligible config.componentMarkers then
        (declaration.parameters.filter (ModifierDefault.isMissing config)).map
          (ModifierDefault.diagnostic config)
      else [] := by
  rw [findings_all]
  split
  · have modifiers : ∀ found ∈ (declaration.parameters.filter
        (ModifierDefault.isMissing config)).map (ModifierDefault.diagnostic config),
        decide (found.issue = .modifierWithoutDefault) = true := by
      intro found member
      exact decide_eq_true (ModifierDefault.issue_of_mem member)
    have collections : ∀ found ∈ declaration.parameters.filterMap
        (UnstableCollections.check config),
        ¬decide (found.issue = .modifierWithoutDefault) = true := by
      intro found member
      rw [UnstableCollections.issue_of_mem member]
      decide
    rw [List.filter_append, List.filter_eq_self.mpr modifiers,
      List.filter_eq_nil_iff.mpr collections, List.append_nil]
  · rfl

/-- What is said about collections in a declaration. -/
theorem map_issue_filter_collections_findings (declaration : Declaration) :
    ((declaration.findings config Issue.all).filter (·.issue = .unstableCollections)).map
        (·.issue) =
      if declaration.isEligible config.componentMarkers then
        (declaration.parameters.filter fun parameter =>
          config.registry.classifies (some .unstableCollection) parameter.type).map
            fun _ => .unstableCollections
      else [] := by
  rw [findings_all]
  split
  · have modifiers : ∀ found ∈ (declaration.parameters.filter
        (ModifierDefault.isMissing config)).map (ModifierDefault.diagnostic config),
        ¬decide (found.issue = .unstableCollections) = true := by
      intro found member
      rw [ModifierDefault.issue_of_mem member]
      decide
    have collections : ∀ found ∈ declaration.parameters.filterMap
        (UnstableCollections.check config),
        decide (found.issue = .unstableCollections) = true := by
      intro found member
      exact decide_eq_true (UnstableCollections.issue_of_mem member)
    rw [List.filter_append, List.filter_eq_nil_iff.mpr modifiers, List.nil_append,
      List.filter_eq_self.mpr collections]
    exact UnstableCollections.map_issue_filterMap_check config declaration.parameters
  · rfl

end Declaration

namespace FileOutline

variable {file : File} {functions : List (Scope × FunctionHeader)} {outline : FileOutline}

theorem map_location_filter_modifiers (enabled : file.config.enabledIssues = Issue.all)
    (declares : List.Forall₂ file.Declares functions outline.declarations) :
    ((outline.findings file.config).filter (·.issue = .modifierWithoutDefault)).map (·.location) =
      functions.flatMap fun function =>
        (file.chosenSlots (Slot.isMissing file.config) function).map fun slot =>
          Span.ofRange file.path slot.argument.range := by
  rw [findings, enabled, List.filter_flatMap, List.map_flatMap]
  refine (Related.flatMap_eq ?_ declares).symm
  intro function declaration declares
  rw [declaration.filter_modifiers_findings, declares.map_filter_eq fun slot parameter describes =>
    ⟨(describes.isMissing_eq file.config).symm, describes.span_eq.symm⟩]
  split
  · rw [List.map_map]
    rfl
  · rfl

theorem map_issue_filter_collections (enabled : file.config.enabledIssues = Issue.all)
    (declares : List.Forall₂ file.Declares functions outline.declarations) :
    ((outline.findings file.config).filter (·.issue = .unstableCollections)).map (·.issue) =
      functions.flatMap fun function =>
        (file.chosenSlots (Slot.isCollection file.config) function).map
          fun _ => .unstableCollections := by
  rw [findings, enabled, List.filter_flatMap, List.map_flatMap]
  refine (Related.flatMap_eq ?_ declares).symm
  intro function declaration declares
  rw [declaration.map_issue_filter_collections_findings]
  exact declares.map_filter_eq fun slot parameter describes =>
    ⟨(describes.classifies file.config.registry .unstableCollection).symm, rfl⟩

theorem map_span_fixable (enabled : file.config.enabledIssues = Issue.all)
    (declares : List.Forall₂ file.Declares functions outline.declarations) :
    (outline.fixable file.config).map (·.span) =
      functions.flatMap fun function =>
        (file.chosenSlots (Slot.isFixable file.config) function).map fun slot =>
          Span.ofRange file.path slot.argument.range := by
  have looked : file.config.disables .modifierWithoutDefault = false := by
    have listed : Issue.modifierWithoutDefault ∈ file.config.enabledIssues := by
      rw [enabled]
      decide
    simpa using (List.mem_filter.mp listed).2
  rw [fixable, List.map_flatMap]
  refine (Related.flatMap_eq ?_ declares).symm
  intro function declaration declares
  rw [declares.map_filter_eq fun slot parameter describes =>
    ⟨(describes.isFixable_eq file.config).symm, describes.span_eq.symm⟩, Declaration.fixable,
    looked, Bool.not_false, Bool.and_true]
  split <;> rfl

end FileOutline

end SignatureLint

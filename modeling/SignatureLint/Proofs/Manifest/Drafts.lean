import SignatureLint.Proofs.Manifest.Entries
import SignatureLint.Proofs.Manifest.Forms

/-!
# Drafts of manifests

A draft is a manifest before it is written: every field that may be left out is there or not, and
the numbers are such as a manifest may have.  A draft may be written with its fields in any order
and with other fields among them.  There is always a way to write it.
-/

namespace SignatureLint

namespace Manifest

open Json

/-! ## Drafts -/

/-- An integer with not too many digits. -/
abbrev ShortInteger : Type :=
  { value : Int // value.natAbs < 10 ^ Decimal.maxDigits }

/-- A place with lines that count from one and columns that count from zero. -/
structure PlaceDraft where
  startLine : ShortInteger
  startColumn : ShortInteger
  endLine : ShortInteger
  endColumn : ShortInteger
  counted : SpanEntry.Counted ⟨startLine, startColumn, endLine, endColumn⟩

structure ParameterDraft where
  name : String
  type : Option (Option String)
  hasDefault : Option Bool
  acceptsDefault : Option Bool
  span : PlaceDraft
  typeSpan : Option (Option PlaceDraft)
  text : Option (Option String)

structure FunctionDraft where
  name : String
  qualifiedName : Option (Option String)
  annotations : Option (List String)
  parameters : Option (List ParameterDraft)
  span : PlaceDraft
  interfaceMember : Option Bool
  isAbstract : Option Bool
  expectOrActual : Option Bool
  overrides : Option Bool
  scope : Option (Option String)

structure FileDraft where
  path : String
  functions : Option (List FunctionDraft)

structure DocumentDraft where
  version : Option ShortInteger
  files : Option (List FileDraft)

/-! ## How drafts are written -/

def IsShort (value : ShortInteger) : Json → Prop :=
  IsInteger value

/-- A place with its four numbers. -/
def PlaceDraft.IsWritten (draft : PlaceDraft) : Json → Prop :=
  IsRecord fun entries =>
    HasField "start_line" IsShort draft.startLine entries ∧
    HasField "start_col" IsShort draft.startColumn entries ∧
    HasField "end_line" IsShort draft.endLine entries ∧
    HasField "end_col" IsShort draft.endColumn entries

def ParameterDraft.IsWritten (draft : ParameterDraft) : Json → Prop :=
  IsRecord fun entries =>
    HasField "name" IsText draft.name entries ∧
    MayHaveField "type" (IsNullable IsText) draft.type entries ∧
    MayHaveField "has_default" IsBoolean draft.hasDefault entries ∧
    MayHaveField "accepts_default" IsBoolean draft.acceptsDefault entries ∧
    HasField "span" PlaceDraft.IsWritten draft.span entries ∧
    MayHaveField "type_span" (IsNullable PlaceDraft.IsWritten) draft.typeSpan entries ∧
    MayHaveField "text" (IsNullable IsText) draft.text entries

def FunctionDraft.IsWritten (draft : FunctionDraft) : Json → Prop :=
  IsRecord fun entries =>
    HasField "name" IsText draft.name entries ∧
    MayHaveField "qualified_name" (IsNullable IsText) draft.qualifiedName entries ∧
    MayHaveField "annotations" (IsList IsText) draft.annotations entries ∧
    MayHaveField "parameters" (IsList ParameterDraft.IsWritten) draft.parameters entries ∧
    HasField "span" PlaceDraft.IsWritten draft.span entries ∧
    MayHaveField "interface_member" IsBoolean draft.interfaceMember entries ∧
    MayHaveField "abstract" IsBoolean draft.isAbstract entries ∧
    MayHaveField "expect_or_actual" IsBoolean draft.expectOrActual entries ∧
    MayHaveField "override" IsBoolean draft.overrides entries ∧
    MayHaveField "enclosing_scope" (IsNullable IsText) draft.scope entries

def FileDraft.IsWritten (draft : FileDraft) : Json → Prop :=
  IsRecord fun entries =>
    HasField "path" IsText draft.path entries ∧
    MayHaveField "functions" (IsList FunctionDraft.IsWritten) draft.functions entries

def DocumentDraft.IsWritten (draft : DocumentDraft) : Json → Prop :=
  IsRecord fun entries =>
    MayHaveField "version" IsShort draft.version entries ∧
    MayHaveField "files" (IsList FileDraft.IsWritten) draft.files entries

/-! ## Writing drafts -/

/-- A text that may be missing, or a field that is left out. -/
def optionalText (given : Option (Option String)) : Option Json :=
  given.map (Json.optional Json.string)

def PlaceDraft.fields (draft : PlaceDraft) : List (String × Option Json) :=
  [("start_line", some (.integer draft.startLine)),
    ("start_col", some (.integer draft.startColumn)),
    ("end_line", some (.integer draft.endLine)), ("end_col", some (.integer draft.endColumn))]

def PlaceDraft.toJson (draft : PlaceDraft) : Json :=
  .object (givenEntries draft.fields)

def ParameterDraft.fields (draft : ParameterDraft) : List (String × Option Json) :=
  [("name", some (.string draft.name)), ("type", optionalText draft.type),
    ("has_default", draft.hasDefault.map Json.boolean),
    ("accepts_default", draft.acceptsDefault.map Json.boolean),
    ("span", some draft.span.toJson),
    ("type_span", draft.typeSpan.map (Json.optional PlaceDraft.toJson)),
    ("text", optionalText draft.text)]

def ParameterDraft.toJson (draft : ParameterDraft) : Json :=
  .object (givenEntries draft.fields)

def FunctionDraft.fields (draft : FunctionDraft) : List (String × Option Json) :=
  [("name", some (.string draft.name)), ("qualified_name", optionalText draft.qualifiedName),
    ("annotations", draft.annotations.map fun values => .array (values.map Json.string)),
    ("parameters", draft.parameters.map fun values => .array (values.map ParameterDraft.toJson)),
    ("span", some draft.span.toJson), ("interface_member", draft.interfaceMember.map Json.boolean),
    ("abstract", draft.isAbstract.map Json.boolean),
    ("expect_or_actual", draft.expectOrActual.map Json.boolean),
    ("override", draft.overrides.map Json.boolean), ("enclosing_scope", optionalText draft.scope)]

def FunctionDraft.toJson (draft : FunctionDraft) : Json :=
  .object (givenEntries draft.fields)

def FileDraft.fields (draft : FileDraft) : List (String × Option Json) :=
  [("path", some (.string draft.path)),
    ("functions", draft.functions.map fun values => .array (values.map FunctionDraft.toJson))]

def FileDraft.toJson (draft : FileDraft) : Json :=
  .object (givenEntries draft.fields)

def DocumentDraft.fields (draft : DocumentDraft) : List (String × Option Json) :=
  [("version", draft.version.map fun value : ShortInteger => .integer value),
    ("files", draft.files.map fun values => .array (values.map FileDraft.toJson))]

def DocumentDraft.toJson (draft : DocumentDraft) : Json :=
  .object (givenEntries draft.fields)

theorem isBoolean_boolean (value : Bool) : IsBoolean value (.boolean value) :=
  rfl

theorem isNullable_text : ∀ given, IsNullable IsText given (Json.optional Json.string given) :=
  isNullable_optional fun _ => rfl

theorem PlaceDraft.distinct (draft : PlaceDraft) : (draft.fields.map Prod.fst).Nodup :=
  show ["start_line", "start_col", "end_line", "end_col"].Nodup by decide

theorem PlaceDraft.isWritten_toJson (draft : PlaceDraft) : draft.IsWritten draft.toJson := by
  refine ⟨givenEntries draft.fields, rfl, ?_, ?_, ?_, ?_⟩
  all_goals exact hasField_givenEntries draft.distinct (by simp [fields]) rfl

theorem ParameterDraft.distinct (draft : ParameterDraft) : (draft.fields.map Prod.fst).Nodup :=
  show ["name", "type", "has_default", "accepts_default", "span", "type_span", "text"].Nodup by
    decide

theorem ParameterDraft.isWritten_toJson (draft : ParameterDraft) :
    draft.IsWritten draft.toJson := by
  have distinct := draft.distinct
  have place := isNullable_optional PlaceDraft.isWritten_toJson
  refine ⟨givenEntries draft.fields, rfl, ?_, ?_, ?_, ?_, ?_, ?_, ?_⟩
  · exact hasField_givenEntries distinct (by simp [fields]) rfl
  · exact mayHaveField_givenEntries distinct isNullable_text (by simp [fields, optionalText])
  · exact mayHaveField_givenEntries distinct isBoolean_boolean (by simp [fields])
  · exact mayHaveField_givenEntries distinct isBoolean_boolean (by simp [fields])
  · exact hasField_givenEntries distinct (by simp [fields]) draft.span.isWritten_toJson
  · exact mayHaveField_givenEntries distinct place (by simp [fields])
  · exact mayHaveField_givenEntries distinct isNullable_text (by simp [fields, optionalText])

theorem FunctionDraft.distinct (draft : FunctionDraft) : (draft.fields.map Prod.fst).Nodup :=
  show ["name", "qualified_name", "annotations", "parameters", "span", "interface_member",
    "abstract", "expect_or_actual", "override", "enclosing_scope"].Nodup by decide

theorem FunctionDraft.isWritten_toJson (draft : FunctionDraft) :
    draft.IsWritten draft.toJson := by
  have distinct := draft.distinct
  have texts : ∀ values, IsList IsText values (.array (values.map Json.string)) :=
    isList_map fun _ => rfl
  have parameters := isList_map ParameterDraft.isWritten_toJson
  refine ⟨givenEntries draft.fields, rfl, ?_, ?_, ?_, ?_, ?_, ?_, ?_, ?_, ?_, ?_⟩
  · exact hasField_givenEntries distinct (by simp [fields]) rfl
  · exact mayHaveField_givenEntries distinct isNullable_text (by simp [fields, optionalText])
  · exact mayHaveField_givenEntries distinct texts (by simp [fields])
  · exact mayHaveField_givenEntries distinct parameters (by simp [fields])
  · exact hasField_givenEntries distinct (by simp [fields]) draft.span.isWritten_toJson
  · exact mayHaveField_givenEntries distinct isBoolean_boolean (by simp [fields])
  · exact mayHaveField_givenEntries distinct isBoolean_boolean (by simp [fields])
  · exact mayHaveField_givenEntries distinct isBoolean_boolean (by simp [fields])
  · exact mayHaveField_givenEntries distinct isBoolean_boolean (by simp [fields])
  · exact mayHaveField_givenEntries distinct isNullable_text (by simp [fields, optionalText])

theorem FileDraft.distinct (draft : FileDraft) : (draft.fields.map Prod.fst).Nodup :=
  show ["path", "functions"].Nodup by decide

theorem FileDraft.isWritten_toJson (draft : FileDraft) : draft.IsWritten draft.toJson := by
  have distinct := draft.distinct
  have functions := isList_map FunctionDraft.isWritten_toJson
  refine ⟨givenEntries draft.fields, rfl, ?_, ?_⟩
  · exact hasField_givenEntries distinct (by simp [fields]) rfl
  · exact mayHaveField_givenEntries distinct functions (by simp [fields])

theorem DocumentDraft.distinct (draft : DocumentDraft) : (draft.fields.map Prod.fst).Nodup :=
  show ["version", "files"].Nodup by decide

theorem DocumentDraft.isWritten_toJson (draft : DocumentDraft) :
    draft.IsWritten draft.toJson := by
  have distinct := draft.distinct
  have versions (value : ShortInteger) : IsShort value (.integer value) := rfl
  have files := isList_map FileDraft.isWritten_toJson
  refine ⟨givenEntries draft.fields, rfl, ?_, ?_⟩
  · exact mayHaveField_givenEntries distinct versions (by simp [fields])
  · exact mayHaveField_givenEntries distinct files (by simp [fields])

/-! ## Drafts are plain -/

theorem plain_optionalText (given : Option (Option String)) :
    ∀ found ∈ optionalText given, Plain found :=
  plain_given (plain_optional plain_string) given

theorem PlaceDraft.plain_toJson (draft : PlaceDraft) : Plain draft.toJson := by
  refine plain_givenEntries draft.distinct ?_
  simp only [fields, List.forall_mem_cons]
  exact ⟨plain_some (.integer draft.startLine.property),
    plain_some (.integer draft.startColumn.property),
    plain_some (.integer draft.endLine.property), plain_some (.integer draft.endColumn.property),
    nofun⟩

theorem ParameterDraft.plain_toJson (draft : ParameterDraft) : Plain draft.toJson := by
  refine plain_givenEntries draft.distinct ?_
  simp only [fields, List.forall_mem_cons]
  exact ⟨plain_some (plain_string draft.name), plain_optionalText draft.type,
    plain_given .boolean draft.hasDefault, plain_given .boolean draft.acceptsDefault,
    plain_some draft.span.plain_toJson,
    plain_given (plain_optional PlaceDraft.plain_toJson) draft.typeSpan,
    plain_optionalText draft.text, nofun⟩

theorem FunctionDraft.plain_toJson (draft : FunctionDraft) : Plain draft.toJson := by
  refine plain_givenEntries draft.distinct ?_
  simp only [fields, List.forall_mem_cons]
  exact ⟨plain_some (plain_string draft.name), plain_optionalText draft.qualifiedName,
    plain_given (plain_list plain_string) draft.annotations,
    plain_given (plain_list ParameterDraft.plain_toJson) draft.parameters,
    plain_some draft.span.plain_toJson, plain_given .boolean draft.interfaceMember,
    plain_given .boolean draft.isAbstract, plain_given .boolean draft.expectOrActual,
    plain_given .boolean draft.overrides, plain_optionalText draft.scope, nofun⟩

theorem FileDraft.plain_toJson (draft : FileDraft) : Plain draft.toJson := by
  refine plain_givenEntries draft.distinct ?_
  simp only [fields, List.forall_mem_cons]
  exact ⟨plain_some (plain_string draft.path),
    plain_given (plain_list FunctionDraft.plain_toJson) draft.functions, nofun⟩

theorem DocumentDraft.plain_toJson (draft : DocumentDraft) : Plain draft.toJson := by
  refine plain_givenEntries draft.distinct ?_
  simp only [fields, List.forall_mem_cons]
  exact ⟨plain_given (fun value => .integer value.property) draft.version,
    plain_given (plain_list FileDraft.plain_toJson) draft.files, nofun⟩

end Manifest

end SignatureLint

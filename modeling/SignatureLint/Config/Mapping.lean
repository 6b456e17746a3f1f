import SignatureLint.Config
import SignatureLint.Setting

/-!
# Configurations from settings

A configuration is built from a table entry by entry.  A key may be written with
dashes or underscores, and the first entry that makes no sense is reported.
-/

namespace SignatureLint

/-- Why an entry is no part of a configuration. -/
inductive ConfigError where
  | unknownKey (key : String)
  | workers (value : Setting)
  | modifierExpression
  | names (key : String)
  | severityTable
  | severity (name : String)
  /-- A severity cannot be told because an integer is too long to be written. -/
  | longSeverity
  /-- The directory of the log is no text, but a setting of the named kind. -/
  | directory (kind : String)
  /-- A name, or what stands in the place of the number of workers, holds an integer that is too
  long to be written. -/
  | longInteger

def ConfigError.message : ConfigError → String
  | unknownKey key => "Unknown configuration key: " ++ key
  | workers value => "workers must be a positive integer, got " ++ value.exact
  | modifierExpression => "default_modifier_expression must be a non-empty string"
  | names key => key ++ " must be a list of names"
  | severityTable => "severity_overrides must be a table of issue id -> severity"
  | severity name =>
      "Invalid severity in severity_overrides: " ++ Quoted.string name ++ " is not a valid Severity"
  | longSeverity => "Invalid severity in severity_overrides: " ++ Decimal.tooLongToWrite
  | directory kind => "expected str, bytes or os.PathLike object, not " ++ kind
  | longInteger => Decimal.tooLongToWrite

namespace Config

inductive NameField where
  | componentMarkers | interfaceBases | abstractMarkers | platformMarkers | overrideMarkers
  | modifierTypes | unstableCollections | immutableCollections | immutableMarkers
  | disabledIssues
  deriving DecidableEq, Repr

inductive Field where
  | names (field : NameField)
  | defaultModifier
  | severityOverrides
  | workers
  | logDirectory
  deriving DecidableEq, Repr

namespace Field

def keys : List (String × Field) :=
  [("component_markers", .names .componentMarkers), ("interface_bases", .names .interfaceBases),
    ("abstract_markers", .names .abstractMarkers), ("platform_markers", .names .platformMarkers),
    ("override_markers", .names .overrideMarkers), ("modifier_types", .names .modifierTypes),
    ("default_modifier_expression", .defaultModifier),
    ("unstable_collections", .names .unstableCollections),
    ("immutable_collections", .names .immutableCollections),
    ("immutable_markers", .names .immutableMarkers), ("disabled_issues", .names .disabledIssues),
    ("severity_overrides", .severityOverrides), ("workers", .workers), ("log_dir", .logDirectory)]

/-- A key with underscores in place of dashes. -/
def normalKey (key : String) : String :=
  String.ofList (key.toList.map fun c => if c = '-' then '_' else c)

def ofKey? (key : String) : Option Field :=
  keys.lookup (normalKey key)

end Field

def withNames (config : Config) (field : NameField) (names : NameSet) : Config :=
  match field with
  | .componentMarkers => { config with componentMarkers := names }
  | .interfaceBases => { config with interfaceBases := names }
  | .abstractMarkers => { config with abstractMarkers := names }
  | .platformMarkers => { config with platformMarkers := names }
  | .overrideMarkers => { config with overrideMarkers := names }
  | .modifierTypes => { config with registry.modifierTypes := names }
  | .unstableCollections => { config with registry.unstableCollections := names }
  | .immutableCollections => { config with registry.immutableCollections := names }
  | .immutableMarkers => { config with registry.immutableMarkers := names }
  | .disabledIssues => { config with disabledIssues := names }

def names (config : Config) : NameField → NameSet
  | .componentMarkers => config.componentMarkers
  | .interfaceBases => config.interfaceBases
  | .abstractMarkers => config.abstractMarkers
  | .platformMarkers => config.platformMarkers
  | .overrideMarkers => config.overrideMarkers
  | .modifierTypes => config.registry.modifierTypes
  | .unstableCollections => config.registry.unstableCollections
  | .immutableCollections => config.registry.immutableCollections
  | .immutableMarkers => config.registry.immutableMarkers
  | .disabledIssues => config.disabledIssues

def severities : List (String × Setting) → Except ConfigError (List (String × Severity))
  | [] => .ok []
  | (id, setting) :: rest =>
      if setting.isWritable then do
        let name := Text.lower setting.display
        match Severity.ofName? name with
        | none => throw (.severity name)
        | some severity => return (id, severity) :: (← severities rest)
      else .error .longSeverity

/-- The complaint about what is no number of workers.  It quotes the setting if that can be
written. -/
def workersError (value : Setting) : ConfigError :=
  if value.isWritable then .workers value else .longInteger

def setField (config : Config) (key : String) (value : Setting) :
    Field → Except ConfigError Config
  | .severityOverrides =>
      match value with
      | .table entries => do return { config with severityOverrides := ← severities entries }
      | _ => .error .severityTable
  | .logDirectory =>
      match value with
      | .text path => .ok { config with logDirectory := some (Pathname.ofString path) }
      | other => .error (.directory other.kind)
  | .workers =>
      match value with
      | .integer number =>
          if number < 1 then .error (workersError value)
          else .ok { config with workers := .count number.toNat }
      | .boolean true => .ok { config with workers := .yes }
      | _ => .error (workersError value)
  | .defaultModifier =>
      match value with
      | .text expression =>
          if (Text.trim expression.toList).isEmpty then .error .modifierExpression
          else .ok { config with defaultModifier := expression }
      | _ => .error .modifierExpression
  | .names field =>
      match value with
      | .list elements =>
          if Setting.areWritable elements then
            .ok (config.withNames field (NameSet.ofList (elements.map Setting.display)))
          else .error .longInteger
      | _ => .error (.names key)

def addEntry (config : Config) (entry : String × Setting) : Except ConfigError Config :=
  match Field.ofKey? entry.1 with
  | none => .error (.unknownKey entry.1)
  | some field => config.setField entry.1 entry.2 field

def ofTable (entries : List (String × Setting)) : Except ConfigError Config :=
  entries.foldlM addEntry {}

end Config

end SignatureLint

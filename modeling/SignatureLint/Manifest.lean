import SignatureLint.Declaration
import SignatureLint.Json.Reader
import SignatureLint.Manifest.Check
import SignatureLint.TypeRef.Text
import SignatureLint.Wordings

/-!
# Manifests

A manifest describes the declarations of files in another language.  It is a JSON
document that is checked as a whole before anything of it is used.
-/

namespace SignatureLint

namespace Manifest

/-- A place in a file. -/
structure SpanEntry where
  startLine : Int
  startColumn : Int
  endLine : Int
  endColumn : Int
  deriving DecidableEq, Repr

structure ParameterEntry where
  name : String
  type : Option String
  hasDefault : Bool
  acceptsDefault : Bool
  span : SpanEntry
  typeSpan : Option SpanEntry
  text : Option String
  deriving DecidableEq, Repr

structure FunctionEntry where
  name : String
  qualifiedName : Option String
  annotations : List String
  parameters : List ParameterEntry
  span : SpanEntry
  interfaceMember : Bool
  isAbstract : Bool
  expectOrActual : Bool
  overrides : Bool
  scope : Option String
  deriving DecidableEq, Repr

structure FileEntry where
  path : String
  functions : List FunctionEntry
  deriving DecidableEq, Repr

structure Document where
  version : Int
  files : List FileEntry
  deriving DecidableEq, Repr

/-! ## Checking -/

/-- A place in a file: lines count from one, columns from zero. -/
def SpanEntry.check : Json → Checked SpanEntry :=
  Json.checkRecord "SpanModel" fun entries =>
    (Checked.valid SpanEntry.mk)
      |>.apply (Json.required "start_line" (Json.checkAtLeast 1) entries)
      |>.apply (Json.required "start_col" (Json.checkAtLeast 0) entries)
      |>.apply (Json.required "end_line" (Json.checkAtLeast 1) entries)
      |>.apply (Json.required "end_col" (Json.checkAtLeast 0) entries)

def ParameterEntry.check : Json → Checked ParameterEntry :=
  Json.checkRecord "ParameterModel" fun entries =>
    (Checked.valid ParameterEntry.mk)
      |>.apply (Json.required "name" Json.checkText entries)
      |>.apply (Json.withDefault "type" none (Json.checkOptional Json.checkText) entries)
      |>.apply (Json.withDefault "has_default" false Json.checkBoolean entries)
      |>.apply (Json.withDefault "accepts_default" true Json.checkBoolean entries)
      |>.apply (Json.required "span" SpanEntry.check entries)
      |>.apply (Json.withDefault "type_span" none (Json.checkOptional SpanEntry.check) entries)
      |>.apply (Json.withDefault "text" none (Json.checkOptional Json.checkText) entries)

def FunctionEntry.check : Json → Checked FunctionEntry :=
  Json.checkRecord "FunctionModel" fun entries =>
    (Checked.valid FunctionEntry.mk)
      |>.apply (Json.required "name" Json.checkText entries)
      |>.apply (Json.withDefault "qualified_name" none (Json.checkOptional Json.checkText) entries)
      |>.apply (Json.withDefault "annotations" [] (Json.checkList Json.checkText) entries)
      |>.apply (Json.withDefault "parameters" [] (Json.checkList ParameterEntry.check) entries)
      |>.apply (Json.required "span" SpanEntry.check entries)
      |>.apply (Json.withDefault "interface_member" false Json.checkBoolean entries)
      |>.apply (Json.withDefault "abstract" false Json.checkBoolean entries)
      |>.apply (Json.withDefault "expect_or_actual" false Json.checkBoolean entries)
      |>.apply (Json.withDefault "override" false Json.checkBoolean entries)
      |>.apply (Json.withDefault "enclosing_scope" none (Json.checkOptional Json.checkText) entries)

def FileEntry.check : Json → Checked FileEntry :=
  Json.checkRecord "FileModel" fun entries =>
    (Checked.valid FileEntry.mk)
      |>.apply (Json.required "path" Json.checkText entries)
      |>.apply (Json.withDefault "functions" [] (Json.checkList FunctionEntry.check) entries)

def Document.check : Json → Checked Document :=
  Json.checkRecord "ManifestDocument" fun entries =>
    (Checked.valid Document.mk)
      |>.apply (Json.withDefault "version" 1 Json.checkInteger entries)
      |>.apply (Json.withDefault "files" [] (Json.checkList FileEntry.check) entries)

/-! ## Outlines -/

/-- The span of a place in a file. -/
def SpanEntry.span (path : String) (entry : SpanEntry) : Span :=
  ⟨path, entry.startLine, entry.startColumn, entry.endLine, entry.endColumn⟩

/-- The last segment of the name of a marker, without its arguments. -/
def markerName (marker : String) : String :=
  let bare := marker.toList.dropWhile (· == '@')
  String.ofList (Text.lastSegment (bare.takeWhile (· != '(')))

def nonempty? (text : Option String) : Option String :=
  text.filter (!·.isEmpty)

/-- The text of a parameter: as given, or put together from its name and its type. -/
def ParameterEntry.display (entry : ParameterEntry) : String :=
  match nonempty? entry.text with
  | some text => text
  | none =>
      match nonempty? entry.type with
      | some type => entry.name ++ ": " ++ type
      | none => entry.name

def ParameterEntry.parameter (path : String) (entry : ParameterEntry) : DeclaredParameter :=
  let span := entry.span.span path
  { name := entry.name
    type := entry.type.bind fun type => TypeRef.ofText? type (entry.typeSpan.map (·.span path))
    hasDefault := entry.hasDefault
    acceptsDefault := entry.acceptsDefault
    span := span
    text := entry.display
    lastLexeme := Lexeme.trailing entry.display span }

def FunctionEntry.declaration (path : String) (entry : FunctionEntry) : Declaration where
  name := entry.name
  qualifiedName := (nonempty? entry.qualifiedName).getD entry.name
  scope := entry.scope
  markers := NameSet.ofList (entry.annotations.map markerName)
  bindings :=
    { interfaceMember := entry.interfaceMember
      isAbstract := entry.isAbstract
      expectOrActual := entry.expectOrActual
      overrides := entry.overrides }
  span := entry.span.span path
  parameters := entry.parameters.map (ParameterEntry.parameter path)

def FileEntry.outline (entry : FileEntry) : FileOutline where
  path := entry.path
  declarations := entry.functions.map (FunctionEntry.declaration entry.path)

end Manifest

/-- Why a text is no manifest. -/
inductive ManifestFailure where
  /-- The text is no JSON. -/
  | json (error : JsonError)
  /-- The JSON value is no manifest. -/
  | invalid (complaints : List Complaint)
  deriving DecidableEq, Repr

namespace ManifestFailure

/-- The wording of a failure to read the text of a manifest from a named source. -/
def message [Wordings] (source raw : String) : ManifestFailure → String
  | json (.longInteger digits) => (JsonError.longInteger digits).message
  | json error => source ++ ": invalid JSON: " ++ error.message
  | invalid complaints =>
      let plural := if complaints.length = 1 then "" else "s"
      s!"{source}: {complaints.length} validation error{plural} for ManifestDocument" ++
        Wordings.manifest raw

end ManifestFailure

namespace Manifest

def read (raw : String) : Except ManifestFailure (List FileOutline) :=
  match Json.read raw with
  | .error error => .error (.json error)
  | .ok json =>
      match Document.check json with
      | .invalid complaints => .error (.invalid complaints)
      | .valid document => .ok (document.files.map FileEntry.outline)

end Manifest

end SignatureLint

import SignatureLint.Config
import SignatureLint.Declaration
import SignatureLint.Source
import SignatureLint.Syntax.Program
import SignatureLint.TypeRef.Annotation
import SignatureLint.Wordings

/-!
# Outlines of programs

The declarations of a program in source order.  A function is known by the
classes and functions around it, and it is a member of an interface if the
innermost of them is a class with the base of an interface.
-/

namespace SignatureLint

namespace Expr

/-- The name that a decorator or a base class goes by. -/
def markerName? : Expr → Option String
  | .call function _ _ => markerName? function
  | .access _ part => some part
  | .name id => some id
  | .subscript value _ => markerName? value
  | _ => none

end Expr

namespace Outline

/-- Where a statement stands. -/
structure Scope where
  /-- The names of the classes and functions around it, the outermost first. -/
  names : List String := []
  /-- The bases of the innermost of them, if that is a class. -/
  bases : Option (List Expr) := none

namespace Scope

/-- The names joined by full stops. -/
def path (names : List String) : String :=
  String.intercalate "." names

def inClass (scope : Scope) (name : String) (bases : List Expr) : Scope :=
  ⟨scope.names ++ [name], some bases⟩

def inFunction (scope : Scope) (name : String) : Scope :=
  ⟨scope.names ++ [name], none⟩

/-- Whether functions in this scope are members of an interface. -/
def isInterface (scope : Scope) (config : Config) : Bool :=
  match scope.bases with
  | none => false
  | some bases => (bases.filterMap Expr.markerName?).any config.interfaceBases.contains

end Scope

/-- What a walk through a program carries along. -/
structure Walk where
  /-- Where the walk is. -/
  scope : Scope := {}
  /-- The declarations that were found. -/
  found : Array Declaration := #[]

namespace Walk

/-- Enter a class or a function. -/
def enter (walk : Walk) (inner : Scope → Scope) : Walk :=
  { walk with scope := inner walk.scope }

/-- Leave what was entered last. The bases are those that counted before. -/
def leave (walk : Walk) (bases : Option (List Expr)) : Walk :=
  { walk with scope := ⟨walk.scope.names.dropLast, bases⟩ }

def record (walk : Walk) (declaration : Declaration) : Walk :=
  { walk with found := walk.found.push declaration }

end Walk

/-- The file that is examined, under a configuration. -/
structure File where
  path : String
  source : Source
  config : Config

namespace File

/-- The type that an annotation describes. -/
def annotated (file : File) (written : Located Expr) :
    Except AnnotationError (Option TypeRef) := do
  let span := Span.ofRange file.path written.range
  match written.value with
  | .constant (.text text _) =>
      let characters ← TypeRef.referenceText text
      let described ← TypeRef.describe written.value
      return described.map fun type =>
        { type with text := String.ofList characters, span := some span }
  | value =>
      let described ← TypeRef.describe value
      let segment := file.source.segment written.range
      return described.map fun type =>
        { type with
          text := if segment.isEmpty then type.text else String.ofList segment
          span := some span }

/-- A parameter, given what is known of its default. -/
def parameter (file : File) (argument : Argument) (hasDefault acceptsDefault : Bool) :
    Except AnnotationError DeclaredParameter := do
  let span := Span.ofRange file.path argument.range
  let segment := file.source.segment argument.range
  let text := if segment.isEmpty then argument.name else String.ofList segment
  let type ← match argument.written with
    | none => pure none
    | some written => file.annotated written
  return { name := argument.name, type, hasDefault, acceptsDefault, span, text,
           lastLexeme := Lexeme.trailing text span }

/-- The parameters of a signature.  Of the positional ones the last few have
defaults, and the one before them could have one too. -/
def parameters (file : File) (signature : Signature) :
    Except AnnotationError (List DeclaredParameter) := do
  let positional := signature.positional ++ signature.regular
  let firstDefault := positional.length - signature.defaults
  let first ← positional.zipIdx.mapM fun (argument, i) =>
    file.parameter argument (firstDefault ≤ i) (firstDefault - 1 ≤ i)
  let second ← signature.keywordOnly.mapM fun (argument, hasDefault) =>
    file.parameter argument hasDefault true
  return first ++ second

/-- What binds the signature of a function with the given markers. -/
def bindings (file : File) (scope : Scope) (markers : NameSet) : Bindings where
  interfaceMember := scope.isInterface file.config
  isAbstract := markers.meets file.config.abstractMarkers
  expectOrActual := markers.meets file.config.platformMarkers
  overrides := markers.meets file.config.overrideMarkers

def declaration (file : File) (scope : Scope) (header : FunctionHeader) :
    Except AnnotationError Declaration := do
  let names := header.decorators.filterMap Expr.markerName?
  let markers := NameSet.ofList (names.filter (!·.isEmpty))
  let parameters ← file.parameters header.signature
  return { name := header.name
           qualifiedName := Scope.path (scope.names ++ [header.name])
           scope := if scope.names.isEmpty then none else some (Scope.path scope.names)
           markers
           bindings := file.bindings scope markers
           span := Span.ofRange file.path header.range
           parameters }

mutual

/-- Visit a statement.  A function is declared before what is in it is visited; classes and
functions are entered and left again. -/
def visit (file : File) : Statement → StateT Walk (Except AnnotationError) Unit
  | .function header body => do
      let around := (← get).scope
      let found ← file.declaration around header
      modify (·.record found)
      modify (·.enter (·.inFunction header.name))
      visitAll file body
      modify (·.leave around.bases)
  | .classDef name bases body => do
      let around := (← get).scope
      modify (·.enter (·.inClass name bases))
      visitAll file body
      modify (·.leave around.bases)
  | .compound _ blocks => visitBlocks file blocks
  | .simple => return ()

def visitAll (file : File) : List Statement → StateT Walk (Except AnnotationError) Unit
  | [] => return ()
  | first :: rest => do
      visit file first
      visitAll file rest

def visitBlocks (file : File) : List (List Statement) → StateT Walk (Except AnnotationError) Unit
  | [] => return ()
  | first :: rest => do
      visitAll file first
      visitBlocks file rest

end

def declarations (file : File) (statements : List Statement) :
    Except AnnotationError (List Declaration) := do
  let (_, walk) ← (file.visitAll statements).run {}
  return walk.found.toList

end File

end Outline

/-- The outline of a program.  A text that is no program has no declarations but an error. -/
def FileOutline.ofSource [Wordings] (path : String) (text : List Char) (config : Config) :
    Except AnnotationError FileOutline := do
  match Program.read text with
  | .error _ =>
      return { path := path, declarations := [], error := some (Wordings.program path text) }
  | .ok statements =>
      let file : Outline.File := ⟨path, Source.ofText text, config⟩
      let declarations ← file.declarations statements
      return { path := path, declarations := declarations }

end SignatureLint

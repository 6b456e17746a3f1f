import SignatureLint.Text.Class
import SignatureLint.Text.Utf8
import SignatureLint.TypeRef

/-!
# Declarations

What is known of the functions of a file: their names, the markers on them, what
binds their signature to another one, and their parameters.
-/

namespace SignatureLint

/-- A word or symbol of a file with its place. -/
structure Lexeme where
  text : String
  span : Span
  deriving DecidableEq, Repr, Inhabited

structure DeclaredParameter where
  name : String
  /-- The declared type, if there is one and it could be understood. -/
  type : Option TypeRef
  hasDefault : Bool
  /-- Whether a default may be added here. -/
  acceptsDefault : Bool
  span : Span
  text : String
  /-- The last word or symbol of the parameter. -/
  lastLexeme : Lexeme

/-- What binds the signature of a function to another one. -/
structure Bindings where
  interfaceMember : Bool := false
  isAbstract : Bool := false
  expectOrActual : Bool := false
  overrides : Bool := false
  deriving DecidableEq, Repr, Inhabited

namespace Bindings

/-- A signature that cannot be changed on its own. -/
def constrained (bindings : Bindings) : Bool :=
  bindings.interfaceMember || bindings.isAbstract || bindings.expectOrActual || bindings.overrides

end Bindings

structure Declaration where
  name : String
  qualifiedName : String
  scope : Option String
  markers : NameSet
  bindings : Bindings
  span : Span
  parameters : List DeclaredParameter

/-- The declarations of one file, or why it has none. -/
structure FileOutline where
  path : String
  declarations : List Declaration
  error : Option String := none

namespace Lexeme

/-- The characters of the last word or symbol of a text; a blank text is its own. -/
def lastOf (text : List Char) : List Char :=
  match text.reverse.dropWhile Text.isBlank with
  | [] => text
  | last :: before =>
      if Text.isWord last then ((last :: before).takeWhile Text.isWord).reverse else [last]

/-- The last word or symbol of a text that ends where a span ends. -/
def trailing (text : String) (span : Span) : Lexeme :=
  let last := lastOf text.toList
  { text := String.ofList last
    span :=
      { path := span.path
        startLine := span.endLine
        startColumn := span.endColumn - Utf8.width last
        endLine := span.endLine
        endColumn := span.endColumn } }

end Lexeme

end SignatureLint

import SignatureLint.Syntax.Expr
import SignatureLint.Syntax.Position

/-!
# The outline of a program

Of a program only its declarations matter: functions with their decorators and parameters, classes
with their bases, and the statements that hold other statements.
-/

namespace SignatureLint

/-- A parameter of a declared function. Its range runs from the name to the end of the
annotation. -/
structure Argument where
  name : String
  /-- The annotation. -/
  written : Option (Located Expr)
  range : Range

/-- The parameters of a function that a caller fills one by one. The last `defaults` of the
positional ones, `positional ++ regular`, have defaults; so have the keyword-only ones that say
so. -/
structure Signature where
  positional : List Argument
  regular : List Argument
  defaults : Nat
  keywordOnly : List (Argument × Bool)

/-- The declaration of a function without its body. -/
structure FunctionHeader where
  name : String
  decorators : List Expr
  signature : Signature
  range : Range

inductive BlockKind where
  | conditional | loop | context | guarded | choice
  deriving DecidableEq, Repr

/-- A statement, as far as declarations go. A compound statement has its blocks in source order. -/
inductive Statement where
  | function (header : FunctionHeader) (body : List Statement)
  | classDef (name : String) (bases : List Expr) (body : List Statement)
  | compound (kind : BlockKind) (blocks : List (List Statement))
  | simple

end SignatureLint

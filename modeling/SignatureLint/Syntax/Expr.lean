import SignatureLint.Decimal.Binary64
import SignatureLint.Text.Loose

/-!
# Expressions

The expressions of Python, without their places in a source text. Parentheses that only group leave
no trace.
-/

namespace SignatureLint

/-- A literal value. A text remembers whether it was marked as Unicode. -/
inductive Constant where
  | none
  | boolean (value : Bool)
  | ellipsis
  | integer (value : Nat)
  | real (value : Binary64)
  | imaginary (value : Binary64)
  | text (value : LooseText) (marked : Bool)
  | octets (value : List UInt8)
  deriving DecidableEq, Repr, Inhabited

/-- Operators between two operands. -/
inductive BinaryOp where
  | add | subtract | multiply | matrixMultiply | divide | modulo | power
  | shiftLeft | shiftRight | bitOr | bitXor | bitAnd | floorDivide
  deriving DecidableEq, Repr, Inhabited

inductive UnaryOp where
  | invert | logicalNot | plus | minus
  deriving DecidableEq, Repr, Inhabited

/-- Operators that join any number of conditions. -/
inductive BooleanOp where
  | conjunction | disjunction
  deriving DecidableEq, Repr, Inhabited

inductive ComparisonOp where
  | equal | notEqual | less | lessEqual | greater | greaterEqual
  | identical | notIdentical | isIn | isNotIn
  deriving DecidableEq, Repr, Inhabited

/-- What a comprehension with one element builds. -/
inductive ComprehensionKind where
  | list | set | generator
  deriving DecidableEq, Repr, Inhabited

mutual

inductive Expr where
  | name (id : String)
  | constant (value : Constant)
  | access (value : Expr) (part : String)
  | subscript (value index : Expr)
  | call (function : Expr) (arguments : List Expr) (keywords : List Keyword)
  | binary (op : BinaryOp) (left right : Expr)
  | unary (op : UnaryOp) (operand : Expr)
  | boolean (op : BooleanOp) (operands : List Expr)
  | compare (first : Expr) (rest : List Comparison)
  | conditional (test body orElse : Expr)
  | lambda (positional regular : List Parameter) (rest : Option String)
      (keywordOnly : List Parameter) (keywords : Option String) (body : Expr)
  | named (target value : Expr)
  | await (value : Expr)
  | yield (value : Option Expr)
  | yieldFrom (value : Expr)
  | starred (value : Expr)
  | tuple (elements : List Expr)
  | list (elements : List Expr)
  | set (elements : List Expr)
  | dict (entries : List DictEntry)
  | comprehension (kind : ComprehensionKind) (element : Expr) (clauses : List Clause)
  | dictComprehension (key value : Expr) (clauses : List Clause)
  | slice (lower upper step : Option Expr)
  | joined (parts : List JoinedPart)

/-- A keyword argument, or an unpacked mapping if it has no name. -/
inductive Keyword where
  | mk (name : Option String) (value : Expr)

/-- One link of a chain of comparisons. -/
inductive Comparison where
  | mk (op : ComparisonOp) (right : Expr)

inductive DictEntry where
  | pair (key value : Expr)
  | unpack (value : Expr)

/-- One `for` of a comprehension with its conditions. -/
inductive Clause where
  | mk (isAsync : Bool) (target iterable : Expr) (conditions : List Expr)

/-- A part of a formatted text: literal text, or a field with a conversion and a format. -/
inductive JoinedPart where
  | text (value : LooseText)
  | field (value : Expr) (conversion : Option Char) (format : Option (List JoinedPart))

/-- A parameter of an anonymous function. -/
inductive Parameter where
  | mk (name : String) (default : Option Expr)

end

instance : Inhabited Expr := ⟨.constant .none⟩

namespace Expr

/-- An expression that can stand on the left of an annotated or augmented assignment. -/
def isSingleTarget : Expr → Bool
  | .name _ | .access .. | .subscript .. => true
  | _ => false

mutual

/-- An expression that can be assigned to; `star` says whether it may carry a star. -/
def isTarget (star : Bool) : Expr → Bool
  | .name _ | .access .. | .subscript .. => true
  | .starred value => star && isTarget false value
  | .tuple elements | .list elements => areTargets elements
  | _ => false

/-- Expressions that can be assigned to together. -/
def areTargets : List Expr → Bool
  | [] => true
  | first :: rest => isTarget true first && areTargets rest

end

mutual

def isDeletable : Expr → Bool
  | .name _ | .access .. | .subscript .. => true
  | .tuple elements | .list elements => areDeletable elements
  | _ => false

/-- Expressions that can be deleted together. -/
def areDeletable : List Expr → Bool
  | [] => true
  | first :: rest => isDeletable first && areDeletable rest

end

mutual

/-- The length of the longest text that an expression spells out as an element of a type: a bound
on the forward references inside it. -/
def longestText : Expr → Nat
  | .constant (.text value _) => value.points.length
  | .binary _ left right => max (longestText left) (longestText right)
  | .subscript _ index => longestText index
  | .tuple elements => longestTexts elements
  | _ => 0

/-- The length of the longest text in any of several expressions. -/
def longestTexts : List Expr → Nat
  | [] => 0
  | first :: rest => max (longestText first) (longestTexts rest)

end

end Expr

end SignatureLint

import SignatureLint.Syntax.Expression
import SignatureLint.Text.Lines

/-!
# Literals

An expression that stands for a value without any names in it.  Sums are literals
only where they spell a complex number.
-/

namespace SignatureLint

namespace Expr

/-- A number that is no complex one.  An integer must not be too large to be rounded. -/
def isRealNumber : Expr → Bool
  | .constant (.integer value) =>
      match Binary64.ofDecimal false value 0 with
      | .finite .. => true
      | _ => false
  | .constant (.real _) => true
  | _ => false

/-- A number that is a multiple of the imaginary unit. -/
def isImaginaryNumber : Expr → Bool
  | .constant (.imaginary _) => true
  | _ => false

def isNumber : Expr → Bool
  | .constant (.integer _) | .constant (.real _) | .constant (.imaginary _) => true
  | _ => false

/-- What stands behind a sign, if there is one. -/
def unsigned : Expr → Expr
  | .unary .plus operand | .unary .minus operand => operand
  | value => value

mutual

/-- A literal that does not change, and so can be an element of a set or a key. -/
def isFixedLiteral : Expr → Bool
  | .constant _ => true
  | .tuple elements => areFixedLiterals elements
  | .binary .add left right | .binary .subtract left right =>
      left.unsigned.isRealNumber && right.isImaginaryNumber
  | value => value.unsigned.isNumber

/-- Literals that do not change. -/
def areFixedLiterals : List Expr → Bool
  | [] => true
  | first :: rest => isFixedLiteral first && areFixedLiterals rest

end

mutual

def isLiteral : Expr → Bool
  | .tuple elements | .list elements => areLiterals elements
  | .set elements => areFixedLiterals elements
  | .call (.name "set") [] [] => true
  | .dict entries => haveLiterals entries
  | value => isFixedLiteral value

def areLiterals : List Expr → Bool
  | [] => true
  | first :: rest => isLiteral first && areLiterals rest

def haveLiterals : List DictEntry → Bool
  | [] => true
  | .pair key value :: rest => isFixedLiteral key && isLiteral value && haveLiterals rest
  | .unpack _ :: _ => false

end

end Expr

/-- Why a text is no literal. -/
inductive LiteralFault where
  /-- The text is no expression. -/
  | noExpression
  | noLiteral
  deriving DecidableEq, Repr

/-- What is wrong with a text as a literal, if anything is. -/
def literalFault? (text : List Char) : Option LiteralFault :=
  if text.contains '\x00' then some .noLiteral
  else match Expr.read (Text.normalizeNewlines text) with
    | .error _ => some .noExpression
    | .ok found => if found.value.isLiteral then none else some .noLiteral

end SignatureLint

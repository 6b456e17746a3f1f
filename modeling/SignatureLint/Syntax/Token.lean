import SignatureLint.Syntax.Expr
import SignatureLint.Syntax.Position

/-!
# Tokens

The words of a source text: names, literals, symbols, and the ends and the indentation of lines.
-/

namespace SignatureLint

/-- Why a text is no program. -/
inductive SyntaxError where
  | nullCharacter
  | character
  | continuation
  | indentation
  | nesting
  | brackets
  | number
  | string
  | unexpected
  deriving DecidableEq, Repr, Inhabited

/-- A text literal as written: its marks and the characters between its quotes. -/
structure StringToken where
  isRaw : Bool
  isOctets : Bool
  isFormatted : Bool
  isMarked : Bool
  body : List Char
  deriving DecidableEq, Repr, Inhabited

/-- What a token is. A name carries its spelling and its normal form; a symbol is an operator or a
keyword. -/
inductive TokenKind where
  | name (spelled id : String)
  | symbol (text : String)
  | number (value : Constant)
  | string (literal : StringToken)
  | newline
  | indent
  | dedent
  | endOfInput
  deriving Repr, Inhabited

namespace TokenKind

/-- Tokens that only shape lines. -/
def isLayout : TokenKind → Bool
  | newline | indent | dedent | endOfInput => true
  | _ => false

end TokenKind

structure Token where
  kind : TokenKind
  range : Range
  deriving Repr, Inhabited

/-- The words that are never names. -/
def keywords : List String :=
  ["False", "None", "True", "and", "as", "assert", "async", "await", "break", "class", "continue",
    "def", "del", "elif", "else", "except", "finally", "for", "from", "global", "if", "import",
    "in", "is", "lambda", "nonlocal", "not", "or", "pass", "raise", "return", "try", "while",
    "with", "yield"]

end SignatureLint

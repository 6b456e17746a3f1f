import SignatureLint.Decimal.Limit
import SignatureLint.Syntax.Expr
import SignatureLint.Text.Quoted

/-!
# Writing expressions

An expression is written in one canonical form: single blanks around operators, a comma and a blank
between elements, and brackets only where the strength of an operator around the expression asks for
them.
-/

namespace SignatureLint

/-- Why an expression has no text. -/
inductive RenderError where
  /-- An integer has too many digits. -/
  | longInteger
  /-- The expression in a field of a formatted text needs a backslash. -/
  | backslash
  deriving DecidableEq, Repr, Inhabited

def RenderError.message : RenderError → String
  | .longInteger => Decimal.tooLongToWrite
  | .backslash => "Unable to avoid backslash in f-string expression part"

namespace Printer

/-- How strongly the parts of an expression hold together, the weakest first. -/
inductive Strength where
  | binding | tuple | yield | test | disjunction | conjunction | negation | comparison
  | bitOr | bitXor | bitAnd | shift | sum | product | sign | power | await | atom
  deriving DecidableEq, Repr, Inhabited

namespace Strength

/-- The place of a strength in the order. -/
def rank : Strength → Nat
  | binding => 0 | tuple => 1 | yield => 2 | test => 3 | disjunction => 4 | conjunction => 5
  | negation => 6 | comparison => 7 | bitOr => 8 | bitXor => 9 | bitAnd => 10 | shift => 11
  | sum => 12 | product => 13 | sign => 14 | power => 15 | await => 16 | atom => 17

/-- The next higher strength; the highest is its own. -/
def next : Strength → Strength
  | binding => tuple | tuple => yield | yield => test | test => disjunction
  | disjunction => conjunction | conjunction => negation | negation => comparison
  | comparison => bitOr | bitOr => bitXor | bitXor => bitAnd | bitAnd => shift | shift => sum
  | sum => product | product => sign | sign => power | power => await | await => atom
  | atom => atom

end Strength

/-- Brackets around a text that is weaker than its surroundings. -/
def enclose (outer own : Strength) (text : List Char) : List Char :=
  if own.rank < outer.rank then '(' :: (text ++ [')']) else text

def binarySymbol : BinaryOp → String
  | .add => "+" | .subtract => "-" | .multiply => "*" | .matrixMultiply => "@" | .divide => "/"
  | .modulo => "%" | .power => "**" | .shiftLeft => "<<" | .shiftRight => ">>" | .bitOr => "|"
  | .bitXor => "^" | .bitAnd => "&" | .floorDivide => "//"

def binaryStrength : BinaryOp → Strength
  | .add | .subtract => .sum
  | .multiply | .matrixMultiply | .divide | .modulo | .floorDivide => .product
  | .power => .power
  | .shiftLeft | .shiftRight => .shift
  | .bitOr => .bitOr
  | .bitXor => .bitXor
  | .bitAnd => .bitAnd

/-- The strengths that the operands of an operator are held to: a chain groups to the left, a power
to the right. -/
def operandStrengths (op : BinaryOp) : Strength × Strength :=
  let own := binaryStrength op
  if op = .power then (own.next, own) else (own, own.next)

/-- The text before the operand of a unary operator. -/
def unarySymbol : UnaryOp → String
  | .invert => "~" | .logicalNot => "not " | .plus => "+" | .minus => "-"

def unaryStrength : UnaryOp → Strength
  | .logicalNot => .negation
  | _ => .sign

/-- The word that joins conditions. -/
def booleanSymbol : BooleanOp → String
  | .conjunction => "and" | .disjunction => "or"

/-- The strength of a word that joins conditions. -/
def booleanStrength : BooleanOp → Strength
  | .conjunction => .conjunction | .disjunction => .disjunction

def comparisonSymbol : ComparisonOp → String
  | .equal => "==" | .notEqual => "!=" | .less => "<" | .lessEqual => "<=" | .greater => ">"
  | .greaterEqual => ">=" | .identical => "is" | .notIdentical => "is not" | .isIn => "in"
  | .isNotIn => "not in"

def comprehensionBrackets : ComprehensionKind → Char × Char
  | .list => ('[', ']') | .set => ('\x7b', '\x7d') | .generator => ('(', ')')

/-- The quotes that a text can be enclosed in, in order of preference. -/
def quotes : List (List Char) :=
  [['\x27'], ['"'], ['"', '"', '"'], ['\x27', '\x27', '\x27']]

/-- One code point of a text whose quotes are chosen later. -/
def unquotedPoint (escapeBlanks : Bool) (code : Nat) : List Char :=
  if !escapeBlanks && (code = 10 || code = 9) then [Char.ofNat code]
  else if code = 0x5C || !Text.isPrintable code then Quoted.escape code
  else [Char.ofNat code]

/-- A text with few escapes and the quotes, out of some, that can enclose it. If none of them can,
the text is escaped for the quote that it would have on its own. -/
def chooseQuotes (points : List Nat) (among : List (List Char)) (escapeBlanks : Bool) :
    List Char × List (List Char) :=
  let escaped := points.flatMap (unquotedPoint escapeBlanks)
  let long := if escaped.contains '\n' then among.filter (fun q => q.length = 3) else among
  let possible := long.filter (fun q => !Text.occurs q escaped)
  match possible with
  | [] =>
      let quoted := Quoted.points points
      let own := quoted.headD '\x27'
      let body := (quoted.drop 1).take (quoted.length - 2)
      (body, [(among.find? (fun q => q.contains own)).getD [own]])
  | _ =>
      match escaped.getLast? with
      | none => (escaped, possible)
      | some last =>
          let begins (q : List Char) : Bool := q.head? == some last
          let sorted := possible.filter (fun q => !begins q) ++ possible.filter begins
          if begins (sorted.headD []) then (escaped.dropLast ++ ['\\', last], sorted)
          else (escaped, sorted)

/-- A text between quotes that need few escapes. -/
def sparinglyQuoted (points : List Nat) : List Char :=
  let (text, possible) := chooseQuotes points quotes false
  let quote := possible.headD []
  quote ++ text ++ quote

def integer (value : Nat) : Except RenderError (List Char) :=
  let digits := Nat.toDigits 10 value
  if digits.length > Decimal.maxDigits then .error .longInteger else .ok digits

/-- A real number; an infinite one is written as a numeral that overflows. -/
def real (style : Binary64.Style) : Binary64 → List Char
  | .infinite _ => "1e309".toList
  | value => value.layout style

/-- A literal value. Inside a field of a formatted text (`inField`) texts have few escapes. -/
def constant (inField : Bool) : Constant → Except RenderError (List Char)
  | .none => .ok "None".toList
  | .boolean true => .ok "True".toList
  | .boolean false => .ok "False".toList
  | .ellipsis => .ok "...".toList
  | .integer value => integer value
  | .real value => .ok (real ⟨true⟩ value)
  | .imaginary value => .ok (real ⟨false⟩ value ++ ['j'])
  | .text value marked =>
      .ok ((if marked then ['u'] else []) ++
        (if inField then sparinglyQuoted value.points else Quoted.points value.points))
  | .octets value => .ok (Quoted.octets value)

/-- Literal text of a formatted text, with braces doubled. -/
def doubleBraces (points : List Nat) : List Nat :=
  points.flatMap fun code => if code = 0x7B || code = 0x7D then [code, code] else [code]

/-- The parts of a formatted text between quotes that suit all of them. Each part says whether it is
literal text. -/
def enclosedParts (among : List (List Char)) : List (List Nat × Bool) → List Char × List (List Char)
  | [] => ([], among)
  | (points, literal) :: rest =>
      let (text, possible) := chooseQuotes points among literal
      let (others, final) := enclosedParts possible rest
      (text ++ others, final)

/-- Parameters with commas between them, where the marks and the names that take the rest belong. -/
def parameterList (positional regular : List (List Char)) (rest : Option String)
    (keywordOnly : List (List Char)) (keywords : Option String) : List Char :=
  let star : List (List Char) := match rest with
    | some name => ['*' :: name.toList]
    | none => if keywordOnly.isEmpty then [] else [['*']]
  let slash : List (List Char) := if positional.isEmpty then [] else [['/']]
  let last : List (List Char) := keywords.toList.map fun name => '*' :: '*' :: name.toList
  Text.join [',', ' '] (positional ++ slash ++ regular ++ star ++ keywordOnly ++ last)

/-- Elements with commas between them; a single one has a comma after it. -/
def elements : List (List Char) → List Char
  | [single] => single ++ [',']
  | items => Text.join [',', ' '] items

mutual

/-- An expression in surroundings of a given strength. -/
def expr (inField : Bool) (outer : Strength) : Expr → Except RenderError (List Char)
  | .name id => .ok id.toList
  | .constant value => constant inField value
  | .access value part => do
      let text ← expr inField .atom value
      let gap := match value with
        | .constant (.integer _) | .constant (.boolean _) => [' ']
        | _ => []
      return text ++ gap ++ '.' :: part.toList
  | .subscript value index => do
      let text ← expr inField .atom value
      let inner ← match index with
        | .tuple (first :: rest) => do
            let head ← expr inField .test first
            let tail ← exprs inField .test rest
            pure (elements (head :: tail))
        | other => expr inField .test other
      return text ++ '[' :: (inner ++ [']'])
  | .call function arguments keywords => do
      let text ← expr inField .atom function
      let first ← exprs inField .test arguments
      let second ← keywordTexts inField keywords
      return text ++ '(' :: (Text.join [',', ' '] (first ++ second) ++ [')'])
  | .binary op left right => do
      let (leftStrength, rightStrength) := operandStrengths op
      let first ← expr inField leftStrength left
      let second ← expr inField rightStrength right
      return enclose outer (binaryStrength op)
        (first ++ ' ' :: ((binarySymbol op).toList ++ ' ' :: second))
  | .unary op operand => do
      let text ← expr inField (unaryStrength op) operand
      return enclose outer (unaryStrength op) ((unarySymbol op).toList ++ text)
  | .boolean op operands => do
      let texts ← conditions inField (booleanStrength op).next operands
      return enclose outer (booleanStrength op)
        (Text.join (' ' :: ((booleanSymbol op).toList ++ [' '])) texts)
  | .compare first rest => do
      let text ← expr inField .bitOr first
      let links ← comparisons inField rest
      return enclose outer .comparison (text ++ links)
  | .conditional test body orElse => do
      let bodyText ← expr inField .disjunction body
      let testText ← expr inField .disjunction test
      let otherText ← expr inField .test orElse
      return enclose outer .test
        (bodyText ++ " if ".toList ++ testText ++ " else ".toList ++ otherText)
  | .lambda positional regular rest keywordOnly keywords body => do
      let first ← parameters inField positional
      let second ← parameters inField regular
      let third ← parameters inField keywordOnly
      let all := parameterList first second rest third keywords
      let text ← expr inField .test body
      return enclose outer .test
        ("lambda".toList ++ (if all.isEmpty then [] else ' ' :: all) ++ ':' :: ' ' :: text)
  | .named target value => do
      let first ← expr inField .atom target
      let second ← expr inField .atom value
      return enclose outer .binding (first ++ " := ".toList ++ second)
  | .await value => do
      let text ← expr inField .atom value
      return enclose outer .await ("await ".toList ++ text)
  | .yield none => .ok (enclose outer .yield "yield".toList)
  | .yield (some value) => do
      let text ← expr inField .atom value
      return enclose outer .yield ("yield ".toList ++ text)
  | .yieldFrom value => do
      let text ← expr inField .atom value
      return enclose outer .yield ("yield from ".toList ++ text)
  | .starred value => do
      let text ← expr inField .bitOr value
      return '*' :: text
  | .tuple items => do
      let texts ← exprs inField .test items
      let inner := elements texts
      return if items.isEmpty then ['(', ')'] else enclose outer .tuple inner
  | .list items => do
      let texts ← exprs inField .test items
      return '[' :: (Text.join [',', ' '] texts ++ [']'])
  | .set items => do
      let texts ← exprs inField .test items
      return '\x7b' :: (Text.join [',', ' '] texts ++ ['\x7d'])
  | .dict entries => do
      let texts ← dictEntries inField entries
      return '\x7b' :: (Text.join [',', ' '] texts ++ ['\x7d'])
  | .comprehension kind element clauses => do
      let text ← expr inField .test element
      let rest ← clauseTexts inField clauses
      let (before, after) := comprehensionBrackets kind
      return before :: (text ++ rest ++ [after])
  | .dictComprehension key value clauses => do
      let first ← expr inField .test key
      let second ← expr inField .test value
      let rest ← clauseTexts inField clauses
      return '\x7b' :: (first ++ ':' :: ' ' :: second ++ rest ++ ['\x7d'])
  | .slice lower upper step => do
      let first ← optional inField [] lower
      let second ← optional inField [] upper
      let third ← optional inField [':'] step
      return first ++ ':' :: second ++ third
  | .joined parts => do
      let texts ← joinedParts parts
      let inner := if inField then sparinglyQuoted (texts.flatMap Prod.fst)
        else
          let (text, possible) := enclosedParts quotes texts
          let quote := possible.headD []
          quote ++ text ++ quote
      return 'f' :: inner

def exprs (inField : Bool) (outer : Strength) : List Expr → Except RenderError (List (List Char))
  | [] => .ok []
  | first :: rest => do
      let text ← expr inField outer first
      let others ← exprs inField outer rest
      return text :: others

/-- Conditions, each held to a higher strength than the one before. -/
def conditions (inField : Bool) (outer : Strength) :
    List Expr → Except RenderError (List (List Char))
  | [] => .ok []
  | first :: rest => do
      let text ← expr inField outer first
      let others ← conditions inField outer.next rest
      return text :: others

/-- An expression that may be missing, after some text. -/
def optional (inField : Bool) (before : List Char) : Option Expr → Except RenderError (List Char)
  | none => .ok []
  | some value => do
      let text ← expr inField .test value
      return before ++ text

def keywordTexts (inField : Bool) : List Keyword → Except RenderError (List (List Char))
  | [] => .ok []
  | .mk name value :: rest => do
      let text ← expr inField .test value
      let others ← keywordTexts inField rest
      let before := match name with
        | some id => id.toList ++ ['=']
        | none => ['*', '*']
      return (before ++ text) :: others

/-- The links of a chain of comparisons. -/
def comparisons (inField : Bool) : List Comparison → Except RenderError (List Char)
  | [] => .ok []
  | .mk op right :: rest => do
      let text ← expr inField .bitOr right
      let others ← comparisons inField rest
      return ' ' :: ((comparisonSymbol op).toList ++ ' ' :: (text ++ others))

def dictEntries (inField : Bool) : List DictEntry → Except RenderError (List (List Char))
  | [] => .ok []
  | .pair key value :: rest => do
      let first ← expr inField .test key
      let second ← expr inField .test value
      let others ← dictEntries inField rest
      return (first ++ ':' :: ' ' :: second) :: others
  | .unpack value :: rest => do
      let text ← expr inField .bitOr value
      let others ← dictEntries inField rest
      return ('*' :: '*' :: text) :: others

def clauseTexts (inField : Bool) : List Clause → Except RenderError (List Char)
  | [] => .ok []
  | .mk isAsync target iterable tests :: rest => do
      let first ← expr inField .tuple target
      let second ← expr inField .disjunction iterable
      let third ← exprs inField .disjunction tests
      let others ← clauseTexts inField rest
      let word := if isAsync then " async for " else " for "
      return word.toList ++ first ++ " in ".toList ++ second ++
        third.flatMap (fun text => " if ".toList ++ text) ++ others

/-- The parameters of an anonymous function. -/
def parameters (inField : Bool) : List Parameter → Except RenderError (List (List Char))
  | [] => .ok []
  | .mk name default :: rest => do
      let text ← optional inField ['='] default
      let others ← parameters inField rest
      return (name.toList ++ text) :: others

/-- The parts of a formatted text as code points, with whether each is literal text. -/
def joinedParts : List JoinedPart → Except RenderError (List (List Nat × Bool))
  | [] => .ok []
  | .text value :: rest => do
      let others ← joinedParts rest
      return (doubleBraces value.points, true) :: others
  | .field value conversion format :: rest => do
      let text ← expr true .disjunction value
      if text.contains '\\' then throw .backslash
      let formatText ← formatPoints format
      let others ← joinedParts rest
      let opened := if text.head? == some '\x7b' then ' ' :: text else text
      let converted := match conversion with
        | some c => ['!', c]
        | none => []
      let before := ('\x7b' :: (opened ++ converted)).map Char.toNat
      return (before ++ formatText ++ [0x7D], false) :: others

/-- The format of a field, after its colon. -/
def formatPoints : Option (List JoinedPart) → Except RenderError (List Nat)
  | none => .ok []
  | some parts => do
      let texts ← joinedParts parts
      return 0x3A :: texts.flatMap Prod.fst

end

end Printer

/-- The text of an expression that stands on its own. -/
def Expr.render (e : Expr) : Except RenderError (List Char) :=
  Printer.expr false .test e

end SignatureLint

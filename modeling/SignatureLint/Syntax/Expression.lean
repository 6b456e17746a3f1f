import SignatureLint.Syntax.Formatted
import SignatureLint.Syntax.Lexer
import SignatureLint.Syntax.Parser

/-!
# Reading expressions

The grammar of expressions, one function a nonterminal, from atoms up. Where an expression stands
inside another one, a nonterminal refers to the rules of the level below; a text of `n` characters
nests its expressions less than `n` deep, so the rules at that level read all of it.
-/

namespace SignatureLint

/-- The readers that expressions inside other expressions need. -/
structure Rules where
  /-- A conditional expression or an anonymous function. -/
  expression : Parser (Located Expr)
  /-- Conditions joined by `or`. -/
  disjunction : Parser (Located Expr)
  /-- A condition that `not` may stand before. -/
  inversion : Parser (Located Expr)
  /-- Operands joined by `|`. -/
  bitOr : Parser (Located Expr)
  /-- An operand with a sign. -/
  factor : Parser (Located Expr)
  /-- The expression inside a field of a formatted text. -/
  field : Formatted.ReadField

namespace Rules

open SignatureLint.Parser

/-- The symbols that an expression, or a starred one, can begin with. -/
def startSymbols : List String :=
  ["(", "[", "\x7b", "-", "+", "~", "not", "lambda", "await", "None", "True", "False", "...", "*"]

/-- Whether an expression, or a starred one, can begin here. -/
def startsExpression : Parser Bool := do
  match ← peek with
  | .name .. | .number _ | .string _ => return true
  | .symbol text => return startSymbols.contains text
  | _ => return false

/-- A value with a place that ends at the last token. -/
def ending (start : Position) (value : Expr) : Parser (Located Expr) := do
  return ⟨value, ⟨start, ← stopPosition⟩⟩

/-- Drop the place. -/
def bare (parser : Parser (Located Expr)) : Parser Expr :=
  return (← parser).value

/-- An expression that may bind a name. -/
def binding (rules : Rules) : Parser (Located Expr) := do
  match ← peek with
  | .name _ id =>
      if ← isSecond ":=" then
        let start ← startPosition
        advance
        advance
        let value ← rules.expression
        ending start (.named (.name id) value.value)
      else rules.expression
  | _ => rules.expression

/-- An operand after a star, or what `plain` reads. -/
def starredOr (rules : Rules) (plain : Parser (Located Expr)) : Parser (Located Expr) := do
  if ← isNext "*" then
    let start ← startPosition
    advance
    let value ← rules.bitOr
    ending start (.starred value.value)
  else plain

def element (rules : Rules) : Parser (Located Expr) :=
  starredOr rules (binding rules)

/-- Expressions with commas: one alone, or a tuple. -/
def tupleOf (item : Parser (Located Expr)) : Parser (Located Expr) := do
  let start ← startPosition
  let (items, trailing) ← separated "," startsExpression item
  match items, trailing with
  | [single], false => return single
  | _, _ => ending start (.tuple (items.map Located.value))

/-- Expressions that may carry a star, with commas. -/
def expressions (rules : Rules) : Parser (Located Expr) :=
  tupleOf (starredOr rules rules.expression)

def yielded (rules : Rules) : Parser (Located Expr) := do
  let start ← startPosition
  expect "yield"
  if ← accept "from" then
    let value ← rules.expression
    ending start (.yieldFrom value.value)
  else if ← startsExpression then
    let value ← expressions rules
    ending start (.yield (some value.value))
  else ending start (.yield none)

/-- A yield or expressions with commas. -/
def valued (rules : Rules) : Parser (Located Expr) := do
  if ← isNext "yield" then yielded rules else expressions rules

/-- What can be assigned to, with commas. -/
def targets (rules : Rules) : Parser Expr := do
  let target ← bare (tupleOf (starredOr rules rules.bitOr))
  if target.isTarget true then return target else fail

/-- One target that may carry a star. -/
def target (rules : Rules) : Parser Expr := do
  let target ← bare (starredOr rules rules.bitOr)
  if target.isTarget true then return target else fail

def conditions (rules : Rules) : Parser (List Expr) :=
  loop (fun found => do
    if ← accept "if" then return .inl ((← rules.disjunction).value :: found)
    else return .inr found.reverse) []

/-- Whether a `for` of a comprehension begins here. -/
def startsClause : Parser Bool := isNextOf ["for", "async"]

def clause (rules : Rules) : Parser Clause := do
  let isAsync ← accept "async"
  expect "for"
  let target ← targets rules
  expect "in"
  let iterable ← bare rules.disjunction
  return .mk isAsync target iterable (← conditions rules)

def clauses (rules : Rules) : Parser (List Clause) := do
  let first ← clause rules
  loop (fun found => do
    if ← startsClause then return .inl ((← clause rules) :: found)
    else return .inr found.reverse) [first]

def isStarred : Expr → Bool
  | .starred _ => true
  | _ => false

/-- The elements of a display after the first one, up to the closing bracket. -/
def restOfElements (rules : Rules) (first : Expr) (close : String) : Parser (List Expr) := do
  let items ← loop (fun items => do
    if ← accept "," then
      if ← isNext close then return .inr items.reverse
      else return .inl ((← element rules).value :: items)
    else return .inr items.reverse) [first]
  expect close
  return items

/-- What stands in round brackets: a group, a tuple, a yield or a generator. -/
def parenthesized (rules : Rules) : Parser (Located Expr) := do
  let start ← startPosition
  expect "("
  if ← accept ")" then return ← ending start (.tuple [])
  if ← isNext "yield" then
    let inner ← yielded rules
    expect ")"
    return inner
  let first ← element rules
  if ← isNext "," then
    let items ← restOfElements rules first.value ")"
    return ← ending start (.tuple items)
  if isStarred first.value then fail
  if ← startsClause then
    let found ← clauses rules
    expect ")"
    return ← ending start (.comprehension .generator first.value found)
  expect ")"
  return first

/-- A list display or a list comprehension. -/
def bracketed (rules : Rules) : Parser Expr := do
  expect "["
  if ← accept "]" then return .list []
  let first ← bare (element rules)
  if (← startsClause) && !isStarred first then
    let found ← clauses rules
    expect "]"
    return .comprehension .list first found
  return .list (← restOfElements rules first "]")

def dictEntry (rules : Rules) : Parser DictEntry := do
  if ← accept "**" then return .unpack (← bare rules.bitOr)
  let key ← bare rules.expression
  expect ":"
  return .pair key (← bare rules.expression)

/-- The entries of a dictionary display after the first one, up to the closing brace. -/
def restOfEntries (rules : Rules) (first : DictEntry) : Parser Expr := do
  let entries ← loop (fun entries => do
    if ← accept "," then
      if ← isNext "\x7d" then return .inr entries.reverse
      else return .inl ((← dictEntry rules) :: entries)
    else return .inr entries.reverse) [first]
  expect "\x7d"
  return .dict entries

/-- What stands in braces: a dictionary or a set, displayed or comprehended. -/
def braced (rules : Rules) : Parser Expr := do
  expect "\x7b"
  if ← accept "\x7d" then return .dict []
  if ← isNext "**" then return ← restOfEntries rules (← dictEntry rules)
  let binds ← isSecond ":="
  let first ← bare (element rules)
  if (← isNext ":") && !binds && !isStarred first then
    advance
    let value ← bare rules.expression
    if ← startsClause then
      let found ← clauses rules
      expect "\x7d"
      return .dictComprehension first value found
    return ← restOfEntries rules (.pair first value)
  if (← startsClause) && !isStarred first then
    let found ← clauses rules
    expect "\x7d"
    return .comprehension .set first found
  return .set (← restOfElements rules first "\x7d")

/-- Neighbouring text literals. -/
def texts (rules : Rules) : Parser Expr := do
  let literals ← loop (fun found => do
    match ← peek with
    | .string literal =>
        advance
        return .inl (literal :: found)
    | _ => return .inr found.reverse) []
  match Formatted.combine rules.field literals with
  | .ok value => return value
  | .error fault => refuse fault

def atom (rules : Rules) : Parser (Located Expr) := do
  let word (value : Expr) : Parser (Located Expr) := located (do advance; return value)
  match ← peek with
  | .name _ id => word (.name id)
  | .number value => word (.constant value)
  | .string _ => located (texts rules)
  | .symbol "None" => word (.constant .none)
  | .symbol "True" => word (.constant (.boolean true))
  | .symbol "False" => word (.constant (.boolean false))
  | .symbol "..." => word (.constant .ellipsis)
  | .symbol "(" => parenthesized rules
  | .symbol "[" => located (bracketed rules)
  | .symbol "\x7b" => located (braced rules)
  | _ => fail

/-- The arguments of a call as far as they are read: in reverse order, with what may still come. -/
structure Arguments where
  arguments : List Expr
  keywords : List Keyword
  /-- A mapping was unpacked: no more starred arguments. -/
  unpacked : Bool

def argument (rules : Rules) (found : Arguments) : Parser Arguments := do
  if ← accept "**" then
    let value ← bare rules.expression
    return { found with keywords := .mk none value :: found.keywords, unpacked := true }
  if ← accept "*" then
    if found.unpacked then fail
    let value ← bare rules.expression
    return { found with arguments := .starred value :: found.arguments }
  if ← isSecond "=" then
    let id ← name
    advance
    let value ← bare rules.expression
    return { found with keywords := .mk (some id) value :: found.keywords }
  if !found.keywords.isEmpty then fail
  let value ← bare (binding rules)
  return { found with arguments := value :: found.arguments }

/-- The arguments of a call up to the closing bracket. A generator may stand alone without brackets
of its own if `lone` says so. -/
def arguments (rules : Rules) (lone : Bool) : Parser Arguments := do
  if ← accept ")" then return ⟨[], [], false⟩
  let first ← argument rules ⟨[], [], false⟩
  match first with
  | ⟨[single], [], _⟩ =>
      if lone && (← startsClause) && !isStarred single then
        let found ← clauses rules
        expect ")"
        return ⟨[.comprehension .generator single found], [], false⟩
  | _ => pure ()
  let all ← loop (fun found => do
    if ← accept "," then
      if ← isNext ")" then return .inr found
      else return .inl (← argument rules found)
    else return .inr found) first
  expect ")"
  return ⟨all.arguments.reverse, all.keywords.reverse, all.unpacked⟩

/-- Whether an expression can begin here in a slice. -/
def bound (rules : Rules) : Parser (Option Expr) := do
  if (← startsExpression) && !(← isNext "*") then return some (← bare rules.expression)
  else return none

/-- The rest of a slice after its lower bound. -/
def sliceFrom (rules : Rules) (lower : Option Expr) : Parser Expr := do
  expect ":"
  let upper ← bound rules
  let step ← if ← accept ":" then bound rules else pure none
  return .slice lower upper step

def indexItem (rules : Rules) : Parser Expr := do
  if ← isNext ":" then return ← sliceFrom rules none
  if ← accept "*" then return .starred (← bare rules.expression)
  let binds ← isSecond ":="
  let value ← bare (binding rules)
  if (← isNext ":") && !binds then sliceFrom rules (some value) else return value

/-- An index: one item, or a tuple of items. -/
def index (rules : Rules) : Parser Expr := do
  let (items, trailing) ←
    separated "," (return (← startsExpression) || (← isNext ":")) (indexItem rules)
  match items, trailing with
  | [single], false => return if isStarred single then .tuple items else single
  | _, _ => return .tuple items

/-- An atom with calls, indexes and parts after it. -/
def primary (rules : Rules) : Parser (Located Expr) := do
  let start ← startPosition
  let first ← atom rules
  loop (fun value => do
    if ← accept "." then
      let part ← name
      return .inl (← ending start (.access value.value part))
    else if ← accept "(" then
      let found ← arguments rules true
      return .inl (← ending start (.call value.value found.arguments found.keywords))
    else if ← accept "[" then
      let found ← index rules
      expect "]"
      return .inl (← ending start (.subscript value.value found))
    else return .inr value) first

/-- An operand that may be awaited and raised to a power. -/
def power (rules : Rules) : Parser (Located Expr) := do
  let start ← startPosition
  let base ←
    if ← accept "await" then
      let value ← primary rules
      ending start (.await value.value)
    else primary rules
  if ← accept "**" then
    let exponent ← rules.factor
    ending start (.binary .power base.value exponent.value)
  else return base

/-- The operators that stand before an operand. -/
def signs : List (String × UnaryOp) :=
  [("+", .plus), ("-", .minus), ("~", .invert)]

/-- The meaning of the next symbol in a list of symbols. -/
def symbolIn {α : Type} (symbols : List (String × α)) : Parser (Option α) := do
  match ← peek with
  | .symbol text => return symbols.lookup text
  | _ => return none

/-- An operand with any number of signs. -/
def signed (rules : Rules) : Parser (Located Expr) := do
  let start ← startPosition
  match ← symbolIn signs with
  | some op =>
      advance
      let operand ← rules.factor
      ending start (.unary op operand.value)
  | none => power rules

def leftToRight (ops : List (String × BinaryOp)) (operand : Parser (Located Expr)) :
    Parser (Located Expr) := do
  let start ← startPosition
  let first ← operand
  loop (fun left => do
    match ← symbolIn ops with
    | some op =>
        advance
        let right ← operand
        return .inl (← ending start (.binary op left.value right.value))
    | none => return .inr left) first

/-- Operands joined by `|`, with the stronger operators below. -/
def alternatives (rules : Rules) : Parser (Located Expr) :=
  let product := leftToRight [("*", .multiply), ("/", .divide), ("//", .floorDivide),
    ("%", .modulo), ("@", .matrixMultiply)] (signed rules)
  let sum := leftToRight [("+", .add), ("-", .subtract)] product
  let shift := leftToRight [("<<", .shiftLeft), (">>", .shiftRight)] sum
  let conjunct := leftToRight [("&", .bitAnd)] shift
  let exclusive := leftToRight [("^", .bitXor)] conjunct
  leftToRight [("|", .bitOr)] exclusive

def comparisons : List (String × ComparisonOp) :=
  [("==", .equal), ("!=", .notEqual), ("<=", .lessEqual), ("<", .less), (">=", .greaterEqual),
    (">", .greater), ("in", .isIn)]

/-- A comparison operator, of one symbol or two. -/
def comparisonOp : Parser (Option ComparisonOp) := do
  match ← symbolIn comparisons with
  | some op =>
      advance
      return some op
  | none =>
      if (← isNext "not") && (← isSecond "in") then
        advance
        advance
        return some .isNotIn
      if ← accept "is" then
        if ← accept "not" then return some .notIdentical else return some .identical
      return none

def comparison (rules : Rules) : Parser (Located Expr) := do
  let start ← startPosition
  let first ← alternatives rules
  let links ← loop (fun links => do
    match ← comparisonOp with
    | some op =>
        let right ← alternatives rules
        return .inl (Comparison.mk op right.value :: links)
    | none => return .inr links.reverse) []
  if links.isEmpty then return first else ending start (.compare first.value links)

/-- A condition that `not` may stand before. -/
def negation (rules : Rules) : Parser (Located Expr) := do
  let start ← startPosition
  if ← accept "not" then
    let operand ← rules.inversion
    ending start (.unary .logicalNot operand.value)
  else comparison rules

def joined (word : String) (op : BooleanOp) (operand : Parser (Located Expr)) :
    Parser (Located Expr) := do
  let start ← startPosition
  let first ← operand
  let rest ← loop (fun rest => do
    if ← accept word then return .inl ((← operand).value :: rest)
    else return .inr rest.reverse) []
  if rest.isEmpty then return first else ending start (.boolean op (first.value :: rest))

/-- Conditions joined by `or`. -/
def choice (rules : Rules) : Parser (Located Expr) :=
  joined "or" .disjunction (joined "and" .conjunction (negation rules))

end Rules

/-- A parameter as written, with its annotation and its default. -/
structure Formal where
  name : String
  /-- The annotation. -/
  written : Option (Located Expr)
  default : Option Expr
  range : Range
  deriving Inhabited

/-- The parameters of a function by kind. -/
structure Formals where
  positional : List Formal
  regular : List Formal
  rest : Option Formal
  keywordOnly : List Formal
  keywords : Option Formal
  /-- A star without a name was read: a parameter has to follow it. -/
  bareStar : Bool
  deriving Inhabited

namespace Formals

open SignatureLint.Parser

def none : Formals := ⟨[], [], Option.none, [], Option.none, false⟩

/-- The default of a parameter, if one is written. -/
def default? (rules : Rules) : Parser (Option Expr) := do
  if ← accept "=" then return some (← Rules.bare rules.expression) else return Option.none

/-- Read one parameter or mark. `formal` reads a parameter without its default; its argument tells
whether the parameter follows a star. -/
def item (rules : Rules) (formal : Bool → Parser Formal) (close : String) (found : Formals) :
    Parser Formals := do
  if found.keywords.isSome then fail
  let starSeen := found.rest.isSome || found.bareStar
  if ← accept "/" then
    if starSeen || !found.positional.isEmpty || found.regular.isEmpty then fail
    return { found with positional := found.regular, regular := [] }
  if ← accept "**" then
    let parameter ← formal false
    return { found with keywords := some parameter }
  if ← accept "*" then
    if starSeen then fail
    if (← isNext ",") || (← isNext close) then return { found with bareStar := true }
    let parameter ← formal true
    return { found with rest := some parameter }
  let parameter ← formal false
  let complete := { parameter with default := ← default? rules }
  if starSeen then return { found with keywordOnly := found.keywordOnly ++ [complete] }
  let before := found.regular ++ found.positional
  if complete.default.isNone && before.any (fun p => p.default.isSome) then fail
  return { found with regular := found.regular ++ [complete] }

/-- The parameters of a function up to, and without, the closing symbol. -/
def read (rules : Rules) (formal : Bool → Parser Formal) (close : String) : Parser Formals := do
  if ← isNext close then return none
  let first ← item rules formal close none
  let all ← loop (fun found => do
    if ← accept "," then
      if ← isNext close then return .inr found
      else return .inl (← item rules formal close found)
    else return .inr found) first
  if all.bareStar && all.keywordOnly.isEmpty then fail
  return all

end Formals

namespace Rules

open SignatureLint.Parser

/-- A parameter of an anonymous function as a part of an expression. -/
def parameter (formal : Formal) : Parameter :=
  .mk formal.name formal.default

def anonymous (rules : Rules) : Parser (Located Expr) := do
  let start ← startPosition
  expect "lambda"
  let plain (_ : Bool) : Parser Formal := do
    let id ← located name
    return ⟨id.value, none, none, id.range⟩
  let formals ← Formals.read rules plain ":"
  expect ":"
  let body ← bare rules.expression
  ending start (.lambda (formals.positional.map parameter) (formals.regular.map parameter)
    (formals.rest.map Formal.name) (formals.keywordOnly.map parameter)
    (formals.keywords.map Formal.name) body)

/-- A conditional expression or an anonymous function. -/
def conditional (rules : Rules) : Parser (Located Expr) := do
  if ← isNext "lambda" then return ← anonymous rules
  let start ← startPosition
  let body ← choice rules
  if ← accept "if" then
    let test ← bare rules.disjunction
    expect "else"
    let other ← bare rules.expression
    ending start (.conditional test body.value other)
  else return body

/-- The expression of a field: the text between brackets. -/
def readField (rules : Rules) (text : List Char) : Except SyntaxError Expr := do
  let tokens ← Lexer.tokens ('(' :: text ++ [')'])
  runAll (bare (expressions rules)) tokens

/-- Rules that read nothing. -/
def bottom : Rules :=
  ⟨fail, fail, fail, fail, fail, fun _ => .error .nesting⟩

def next (below : Rules) : Rules where
  expression := conditional below
  disjunction := choice below
  inversion := negation below
  bitOr := alternatives below
  factor := signed below
  field := readField below

/-- The rules that read expressions nested up to a depth. -/
def ofDepth (depth : Nat) : Rules :=
  Nat.repeat next depth bottom

end Rules

/-- Read tokens as one expression with nothing but ends of lines after it. -/
def Rules.wholeExpression (depth : Nat) (tokens : Array Token) :
    Except SyntaxError (Located Expr) :=
  let withLineEnds : Parser (Located Expr) := do
    let value ← Rules.tupleOf (Rules.ofDepth depth).expression
    Parser.loop (fun (_ : Unit) => do
      match ← Parser.peek with
      | .newline =>
          Parser.advance
          return .inl ()
      | _ => return .inr value) ()
  Parser.runAll withLineEnds tokens

/--
Read a text, whose line ends are line feeds, as one expression.  A literal is
shorter than the text that spells it, since its quotes take room; an expression
that broke this rule would be refused.
-/
def Expr.read (text : List Char) : Except SyntaxError (Located Expr) := do
  let tokens ← Lexer.tokens text
  let found ← Rules.wholeExpression (text.length + 1) tokens
  if found.value.longestText < text.length then return found else throw .string

theorem Expr.longestText_lt_of_read {text : List Char} {found : Located Expr}
    (h : Expr.read text = .ok found) : found.value.longestText < text.length := by
  unfold Expr.read at h
  simp only [bind, Except.bind] at h
  split at h
  · cases h
  · split at h
    · cases h
    · split at h
      · injection h with h
        exact h ▸ ‹_›
      · cases h

end SignatureLint

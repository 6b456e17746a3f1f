import SignatureLint.Syntax.Pattern
import SignatureLint.Syntax.Statement
import SignatureLint.Text.Lines

/-!
# Reading programs

The grammar of statements. Simple statements are only recognised; a block is read by the level
below.
-/

namespace SignatureLint.Program

open SignatureLint.Parser

/-- The readers that statements use: expressions, patterns, and the blocks inside them. -/
structure Readers where
  rules : Rules
  pattern : Parser Unit
  block : Parser (List Statement)

def augmentedOperators : List String :=
  ["+=", "-=", "*=", "@=", "/=", "%=", "&=", "|=", "^=", "<<=", ">>=", "**=", "//="]

/-- An expression statement or an assignment. -/
def assignment (rules : Rules) : Parser Unit := do
  let yields ← isNext "yield"
  let first ← Rules.bare (Rules.valued rules)
  if ← isNext ":" then
    if yields || !first.isSingleTarget then fail
    advance
    let _ ← rules.expression
    if ← accept "=" then
      let _ ← Rules.valued rules
  else if ← isNextOf augmentedOperators then
    if yields || !first.isSingleTarget then fail
    advance
    let _ ← Rules.valued rules
  else
    loop (fun (left : Bool × Expr) => do
      if ← accept "=" then
        if left.1 || !left.2.isTarget true then fail
        let yields ← isNext "yield"
        let right ← Rules.bare (Rules.valued rules)
        return .inl (yields, right)
      else return .inr ()) (yields, first)

/-- Names with commas between them. -/
def nameList : Parser Unit := do
  let _ ← name
  loop (fun (_ : Unit) => do
    if ← accept "," then
      let _ ← name
      return .inl ()
    else return .inr ()) ()

/-- Names with full stops between them. -/
def dottedName : Parser Unit := do
  let _ ← name
  let _ ← Pattern.parts

/-- A new name for what was imported, if there is one. -/
def asName : Parser Unit := do
  if ← accept "as" then
    let _ ← name

def importModules : Parser Unit := do
  dottedName
  asName
  loop (fun (_ : Unit) => do
    if ← accept "," then
      dottedName
      asName
      return .inl ()
    else return .inr ()) ()

def importedName : Parser Unit := do
  let _ ← name
  asName

/-- Whether a name comes next. -/
def startsName : Parser Bool := do
  match ← peek with
  | .name .. => return true
  | _ => return false

def importFrom : Parser Unit := do
  let dots ← loop (fun any => do
    if (← accept ".") || (← accept "...") then return .inl true else return .inr any) false
  if !dots || (← startsName) then dottedName
  expect "import"
  if ← accept "*" then return
  if ← accept "(" then
    let _ ← separated "," startsName importedName
    expect ")"
  else
    let (_, trailing) ← separated "," startsName importedName
    if trailing then fail

def simple (rules : Rules) : Parser Unit := do
  match ← peek with
  | .symbol "return" =>
      advance
      if ← Rules.startsExpression then
        let _ ← Rules.expressions rules
  | .symbol "import" =>
      advance
      importModules
  | .symbol "from" =>
      advance
      importFrom
  | .symbol "raise" =>
      advance
      if ← Rules.startsExpression then
        let _ ← rules.expression
        if ← accept "from" then
          let _ ← rules.expression
  | .symbol "pass" | .symbol "break" | .symbol "continue" => advance
  | .symbol "del" =>
      advance
      let value ← Rules.bare (Rules.tupleOf rules.bitOr)
      if !value.isDeletable then fail
  | .symbol "assert" =>
      advance
      let _ ← rules.expression
      if ← accept "," then
        let _ ← rules.expression
  | .symbol "global" | .symbol "nonlocal" =>
      advance
      nameList
  | _ => assignment rules

/-- The end of a line of simple statements. -/
def lineEnd : Parser Unit := do
  match ← peek with
  | .newline => advance
  | _ => fail

def simpleLine (rules : Rules) : Parser Unit := do
  simple rules
  loop (fun (_ : Unit) => do
    if ← accept ";" then
      match ← peek with
      | .newline => return .inr ()
      | _ =>
          simple rules
          return .inl ()
    else return .inr ()) ()
  lineEnd

/-- A colon and the block after it. -/
def suite (readers : Readers) : Parser (List Statement) := do
  expect ":"
  readers.block

/-- The block after a word, if the word comes next. -/
def optionalSuite (readers : Readers) (word : String) : Parser (List (List Statement)) := do
  if ← accept word then return [← suite readers] else return []

/-- A parameter of a declared function: a name and an annotation, which may carry a star after a
star. -/
def formal (rules : Rules) (afterStar : Bool) : Parser Formal := do
  let start ← startPosition
  let id ← name
  let written ←
    if ← accept ":" then
      let value ←
        if afterStar then Rules.starredOr rules rules.expression else rules.expression
      pure (some value)
    else pure none
  return ⟨id, written, none, ⟨start, ← stopPosition⟩⟩

/-- What the outline keeps of a parameter. -/
def argument (formal : Formal) : Argument :=
  ⟨formal.name, formal.written, formal.range⟩

/-- What the outline keeps of the parameters of a function. -/
def signature (formals : Formals) : Signature :=
  { positional := formals.positional.map argument
    regular := formals.regular.map argument
    defaults := ((formals.positional ++ formals.regular).filter (fun p => p.default.isSome)).length
    keywordOnly := formals.keywordOnly.map fun p => (argument p, p.default.isSome) }

/-- A function, after its decorators; the place is that of its first word. -/
def function (readers : Readers) (start : Position) (decorators : List Expr) :
    Parser Statement := do
  expect "def"
  let id ← name
  expect "("
  let formals ← Formals.read readers.rules (formal readers.rules) ")"
  expect ")"
  if ← accept "->" then
    let _ ← readers.rules.expression
  let body ← suite readers
  return .function ⟨id, decorators, signature formals, ⟨start, ← stopPosition⟩⟩ body

/-- A class, after its decorators. -/
def classDef (readers : Readers) : Parser Statement := do
  expect "class"
  let id ← name
  let found ←
    if ← accept "(" then Rules.arguments readers.rules false else pure ⟨[], [], false⟩
  let body ← suite readers
  return .classDef id found.arguments body

/-- The decorators before a declaration. -/
def decorators (rules : Rules) : Parser (List Expr) :=
  loop (fun found => do
    if ← accept "@" then
      let value ← Rules.bare (Rules.binding rules)
      lineEnd
      return .inl (value :: found)
    else return .inr found.reverse) []

def declaration (readers : Readers) : Parser Statement := do
  let marks ← decorators readers.rules
  let start ← startPosition
  if ← isNext "class" then classDef readers
  else
    let _ ← accept "async"
    function readers start marks

def conditional (readers : Readers) : Parser Statement := do
  expect "if"
  let _ ← Rules.binding readers.rules
  let first ← suite readers
  let branches ← loop (fun found => do
    if ← accept "elif" then
      let _ ← Rules.binding readers.rules
      return .inl ((← suite readers) :: found)
    else return .inr found.reverse) [first]
  return .compound .conditional (branches ++ (← optionalSuite readers "else"))

def whileLoop (readers : Readers) : Parser Statement := do
  expect "while"
  let _ ← Rules.binding readers.rules
  let body ← suite readers
  return .compound .loop (body :: (← optionalSuite readers "else"))

/-- A loop over values. -/
def forLoop (readers : Readers) : Parser Statement := do
  expect "for"
  let _ ← Rules.targets readers.rules
  expect "in"
  let _ ← Rules.expressions readers.rules
  let body ← suite readers
  return .compound .loop (body :: (← optionalSuite readers "else"))

def contextItem (rules : Rules) : Parser Unit := do
  let _ ← rules.expression
  if ← accept "as" then
    let _ ← Rules.target rules
    if !(← isNextOf [",", ")", ":"]) then fail

def enclosedContexts (rules : Rules) : Parser Unit := do
  expect "("
  let _ ← separated "," Rules.startsExpression (contextItem rules)
  expect ")"
  if !(← isNext ":") then fail

def openContexts (rules : Rules) : Parser Unit := do
  let (_, trailing) ← separated "," Rules.startsExpression (contextItem rules)
  if trailing then fail

/-- A block in contexts. Brackets around the contexts are tried first. -/
def context (readers : Readers) : Parser Statement := do
  expect "with"
  match ← attempt (enclosedContexts readers.rules) with
  | some _ => pure ()
  | none => openContexts readers.rules
  return .compound .context [← suite readers]

/-- A handler: the exceptions, the name for them, and the block. -/
def handler (readers : Readers) (group : Bool) : Parser (List Statement) := do
  expect "except"
  if group then expect "*"
  if group || !(← isNext ":") then
    let _ ← readers.rules.expression
    asName
  suite readers

/-- A guarded block with its handlers. -/
def guarded (readers : Readers) : Parser Statement := do
  expect "try"
  let body ← suite readers
  let group := (← isNext "except") && (← isSecond "*")
  let handlers ← loop (fun found => do
    if ← isNext "except" then return .inl ((← handler readers group) :: found)
    else return .inr found.reverse) []
  let other ← if handlers.isEmpty then pure [] else optionalSuite readers "else"
  let final ← optionalSuite readers "finally"
  if handlers.isEmpty && final.isEmpty then fail
  return .compound .guarded (body :: (handlers ++ other ++ final))

def choiceCase (readers : Readers) : Parser (List Statement) := do
  if !(← isWord "case") then fail
  advance
  Pattern.case readers.pattern
  if ← accept "if" then
    let _ ← Rules.binding readers.rules
  suite readers

def choiceSubject (rules : Rules) : Parser Unit := do
  let first ← Rules.bare (Rules.element rules)
  if ← accept "," then
    if ← Rules.startsExpression then
      let _ ← separated "," Rules.startsExpression (Rules.element rules)
  else if Rules.isStarred first then fail

/-- The start of an indented block. -/
def indent : Parser Unit := do
  match ← peek with
  | .indent => advance
  | _ => fail

/-- The end of an indented block. -/
def dedent : Parser Unit := do
  match ← peek with
  | .dedent => advance
  | _ => fail

/-- A choice between cases. -/
def choice (readers : Readers) : Parser Statement := do
  if !(← isWord "match") then fail
  advance
  choiceSubject readers.rules
  expect ":"
  lineEnd
  indent
  let case ← choiceCase readers
  let cases ← loop (fun found => do
    if ← isWord "case" then return .inl ((← choiceCase readers) :: found)
    else return .inr found.reverse) [case]
  dedent
  return .compound .choice cases

/-- Simple statements on one line, as an outline. -/
def plain (readers : Readers) : Parser Statement := do
  simpleLine readers.rules
  return .simple

/-- A statement, or simple statements on one line. A choice is tried first where its word, which is
also a name, begins a line. -/
def statement (readers : Readers) : Parser Statement := do
  match ← peek with
  | .symbol "@" | .symbol "def" | .symbol "class" => declaration readers
  | .symbol "async" =>
      if ← isSecond "def" then declaration readers
      else
        advance
        if ← isNext "for" then forLoop readers else context readers
  | .symbol "if" => conditional readers
  | .symbol "while" => whileLoop readers
  | .symbol "for" => forLoop readers
  | .symbol "with" => context readers
  | .symbol "try" => guarded readers
  | .name "match" _ =>
      match ← attempt (choice readers) with
      | some found => return found
      | none => plain readers
  | _ => plain readers

/-- Statements up to the end of a block or of the input. -/
def statements (readers : Readers) : Parser (List Statement) :=
  loop (fun found => do
    match ← peek with
    | .dedent | .endOfInput => return .inr found.reverse
    | _ => return .inl ((← statement readers) :: found)) []

/-- A block: indented lines, or simple statements on the same line. -/
def block (readers : Readers) : Parser (List Statement) := do
  match ← peek with
  | .newline =>
      advance
      indent
      let body ← statements readers
      dedent
      return body
  | _ => return [← plain readers]

/-- The readers for blocks nested up to a depth. -/
def Readers.ofDepth (depth : Nat) : Readers :=
  let rules := Rules.ofDepth depth
  let base : Readers := ⟨rules, Pattern.ofDepth rules depth, fail⟩
  { base with
    block := Nat.repeat (fun below => Program.block { base with block := below }) depth fail }

/-- Whether the last line of a text is taken to go on. A carriage return and a line feed at the very
end count as one sign, after which the end of the last line is still missing. -/
def isOpenEnded (source : List Char) : Bool :=
  match source.reverse with
  | '\n' :: '\r' :: _ => true
  | '\n' :: _ | '\r' :: _ => false
  | _ => true

/-- The text that is read for a source: its lines, with an end for the last one. -/
def complete (source : List Char) : List Char :=
  let text := Text.normalizeNewlines source
  if isOpenEnded source then text ++ ['\n'] else text

/-- Read the text of a file as a program. -/
def read (source : List Char) : Except SyntaxError (List Statement) := do
  if source.contains '\x00' then throw .nullCharacter
  let text := complete source
  let tokens ← Lexer.tokens text
  runAll (statements (Readers.ofDepth (text.length + 1))) tokens

end SignatureLint.Program

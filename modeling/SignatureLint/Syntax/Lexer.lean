import SignatureLint.Syntax.Number
import SignatureLint.Text.Class
import SignatureLint.Text.Normal
import SignatureLint.Text.Utf8

/-!
# Cutting a source text into tokens

The lexer reads one lexeme after another. At the start of a line outside brackets it compares the
indentation with that of the open blocks; inside brackets line ends mean nothing.
-/

namespace SignatureLint.Lexer

/-- The state between two lexemes. -/
structure State where
  position : Position
  /-- The columns of the open blocks, innermost first, with tabs as eight and as one column. -/
  indents : List (Nat × Nat)
  /-- The open brackets, innermost first. -/
  brackets : List Char
  /-- The current line holds nothing but blanks and a comment. -/
  blankLine : Bool
  tokens : Array Token

/-- The state before the first character. -/
def State.initial : State :=
  ⟨⟨1, 0⟩, [(0, 0)], [], false, #[]⟩

/-- The most blocks inside one another, the module included. -/
def maxIndents : Nat := 100

/-- The most brackets inside one another. -/
def maxBrackets : Nat := 200

/-- The place after some characters. -/
def advance (position : Position) (chars : List Char) : Position :=
  chars.foldl (fun p c =>
    if c == '\n' then ⟨p.line + 1, 0⟩ else ⟨p.line, p.column + Utf8.charWidth c⟩) position

namespace State

/-- Pass over characters. -/
def skip (state : State) (chars : List Char) : State :=
  { state with position := advance state.position chars }

/-- Add a token that the given characters spell. -/
def push (state : State) (kind : TokenKind) (chars : List Char) : State :=
  let stop := advance state.position chars
  { state with position := stop, tokens := state.tokens.push ⟨kind, ⟨state.position, stop⟩⟩ }

end State

/-- The blanks at the start of a line. -/
structure Margin where
  column : Nat
  altColumn : Nat
  /-- The column of the first line that a backslash continued, if it was not zero. -/
  fixed : Nat
  count : Nat

/-- Read the blanks at the start of a line, across continued lines. -/
def readMargin (margin : Margin) : List Char → Except SyntaxError Margin
  | ' ' :: rest =>
      readMargin { margin with
        column := margin.column + 1, altColumn := margin.altColumn + 1,
        count := margin.count + 1 } rest
  | '\t' :: rest =>
      readMargin { margin with
        column := (margin.column / 8 + 1) * 8, altColumn := margin.altColumn + 1,
        count := margin.count + 1 } rest
  | '\x0c' :: rest =>
      readMargin { margin with column := 0, altColumn := 0, count := margin.count + 1 } rest
  | '\\' :: '\n' :: c :: rest =>
      readMargin { margin with
        fixed := if margin.fixed = 0 then margin.column else margin.fixed,
        count := margin.count + 2 } (c :: rest)
  | '\\' :: _ => .error .continuation
  | _ => .ok margin

/-- Close the blocks that are indented more than `column`. -/
def closeBlocks (state : State) (column : Nat) : List (Nat × Nat) → State
  | [] => { state with indents := [] }
  | (open', alt) :: outer =>
      if column < open' then closeBlocks (state.push .dedent []) column outer
      else { state with indents := (open', alt) :: outer }

/-- Open a block or close blocks for a line that is indented to a column. -/
def indentTo (state : State) (column altColumn : Nat) : Except SyntaxError State :=
  let (current, currentAlt) := state.indents.headD (0, 0)
  if column = current then
    if altColumn = currentAlt then .ok state else .error .indentation
  else if current < column then
    if state.indents.length ≥ maxIndents || altColumn ≤ currentAlt then .error .indentation
    else .ok ({ state with indents := (column, altColumn) :: state.indents }.push .indent [])
  else
    let closed := closeBlocks state column state.indents
    if closed.indents.headD (0, 0) = (column, altColumn) then .ok closed else .error .indentation

/-- The rest of a line that holds nothing but a comment. -/
def endsBlank : List Char → Bool
  | '#' :: _ | '\n' :: _ => true
  | _ => false

/-- Start a line outside brackets: open or close blocks. The result counts the blanks passed. -/
def beginLine (state : State) (text : List Char) : Except SyntaxError (State × Nat) := do
  let margin ← readMargin ⟨0, 0, 0, 0⟩ text
  let blank := endsBlank (text.drop margin.count)
  let after := { state.skip (text.take margin.count) with blankLine := blank }
  let indented ←
    if blank then .ok after
    else if margin.fixed = 0 then indentTo after margin.column margin.altColumn
    else indentTo after margin.fixed margin.fixed
  return (indented, margin.count)

/-- A character that a name may be made of, before its form is checked. -/
def isNameChar (c : Char) : Bool :=
  Text.isAsciiWord c || c.toNat ≥ 128

/-- The marks of a text literal and its opening quote. -/
def stringPrefix? : List Char → Option (List Char × Char)
  | a :: b :: c :: _ =>
      if a == '"' || a == '\x27' then some ([], a)
      else if b == '"' || b == '\x27' then
        if "bBuUrRfF".toList.contains a then some ([a], b) else none
      else if c == '"' || c == '\x27' then
        let marks := [a.toLower, b.toLower]
        if [['b', 'r'], ['r', 'b'], ['f', 'r'], ['r', 'f']].contains marks then some ([a, b], c)
        else none
      else none
  | [a, b] =>
      if a == '"' || a == '\x27' then some ([], a)
      else if (b == '"' || b == '\x27') && "bBuUrRfF".toList.contains a then some ([a], b) else none
  | [a] => if a == '"' || a == '\x27' then some ([], a) else none
  | [] => none

/-- The characters up to a closing quote on the same line, and the number of characters with it. -/
def shortBody? (quote : Char) : List Char → Option (List Char × Nat)
  | [] => none
  | '\\' :: [] => none
  | '\\' :: c :: rest => (shortBody? quote rest).map fun (body, n) => ('\\' :: c :: body, n + 2)
  | c :: rest =>
      if c == quote then some ([], 1)
      else if c == '\n' then none
      else (shortBody? quote rest).map fun (body, n) => (c :: body, n + 1)

/-- The characters up to three closing quotes, and the number of characters with them. -/
def longBody? (quote : Char) : List Char → Option (List Char × Nat)
  | [] => none
  | '\\' :: [] => none
  | '\\' :: c :: rest => (longBody? quote rest).map fun (body, n) => ('\\' :: c :: body, n + 2)
  | c :: rest =>
      if c == quote && rest.take 2 == [quote, quote] then some ([], 3)
      else (longBody? quote rest).map fun (body, n) => (c :: body, n + 1)

/-- The text literal at the front of a text, after its marks. -/
def string? (marks : List Char) (quote : Char) (text : List Char) : Option (StringToken × Nat) := do
  let (body, count) ←
    if text.take 3 == [quote, quote, quote] then
      (longBody? quote (text.drop 3)).map fun (body, n) => (body, n + 3)
    else (shortBody? quote (text.drop 1)).map fun (body, n) => (body, n + 1)
  let has (lower upper : Char) : Bool := marks.contains lower || marks.contains upper
  some (⟨has 'r' 'R', has 'b' 'B', has 'f' 'F', marks.head? == some 'u', body⟩,
    count + marks.length)

/-- The operators, longer ones first. -/
def operators : List (List Char) :=
  ["**=", "//=", ">>=", "<<=", "...", "**", "//", ">>", "<<", "!=", "==", "<=", ">=", "->", "+=",
    "-=", "*=", "/=", "%=", "&=", "|=", "^=", "@=", ":=", "<>", "(", ")", "[", "]", "\x7b", "\x7d",
    ":", ",", ";", "+", "-", "*", "/", "|", "&", "<", ">", "=", ".", "%", "~", "^",
    "@"].map String.toList

/-- The bracket that closes another. -/
def closing? : Char → Option Char
  | '(' => some ')'
  | '[' => some ']'
  | '\x7b' => some '\x7d'
  | _ => none

/-- Keep track of brackets. -/
def bracket (state : State) (c : Char) : Except SyntaxError State :=
  if (closing? c).isSome then
    if state.brackets.length ≥ maxBrackets then .error .nesting
    else .ok { state with brackets := c :: state.brackets }
  else if c == ')' || c == ']' || c == '\x7d' then
    match state.brackets with
    | [] => .error .brackets
    | last :: outer =>
        if closing? last = some c then .ok { state with brackets := outer } else .error .brackets
  else .ok state

def lineEnd (state : State) (rest : List Char) : Except SyntaxError (State × Nat) :=
  let ended :=
    if state.blankLine || !state.brackets.isEmpty then state.skip ['\n']
    else state.push .newline ['\n']
  if state.brackets.isEmpty then beginLine ended rest else .ok (ended, 0)

/-- A name or a keyword. -/
def word (state : State) (text : List Char) : Except SyntaxError (State × Nat) := do
  let spelled := text.takeWhile isNameChar
  let kind ←
    if spelled.all (fun c => c.toNat < 128) then
      let id := String.ofList spelled
      pure (if keywords.contains id then .symbol id else .name id id)
    else if Text.isIdentifier spelled then
      pure (.name (String.ofList spelled) (String.ofList (Text.normalForm spelled)))
    else throw .character
  return (state.push kind spelled, spelled.length - 1)

def operator (state : State) (text : List Char) : Except SyntaxError (State × Nat) :=
  match operators.find? (fun op => op.isPrefixOf text) with
  | none => .error .character
  | some op => do
      let tracked ← match op with
        | [c] => bracket state c
        | _ => .ok state
      return (tracked.push (.symbol (String.ofList op)) op, op.length - 1)

/-- Read one lexeme that begins with `c`. The result counts the characters read after `c`. -/
def step (state : State) (c : Char) (rest : List Char) : Except SyntaxError (State × Nat) :=
  if c == ' ' || c == '\t' || c == '\x0c' then .ok (state.skip [c], 0)
  else if c == '#' then
    let comment := rest.takeWhile (· != '\n')
    .ok (state.skip (c :: comment), comment.length)
  else if c == '\n' then lineEnd state rest
  else if c == '\\' then
    match rest with
    | '\n' :: _ :: _ => .ok (state.skip ['\\', '\n'], 1)
    | _ => .error .continuation
  else if c.isDigit || (c == '.' && (rest.head?.map Char.isDigit).getD false) then
    match NumberLiteral.scan? (c :: rest) with
    | none => .error .number
    | some (value, count) => .ok (state.push (.number value) ((c :: rest).take count), count - 1)
  else match stringPrefix? (c :: rest) with
    | some (marks, quote) =>
        match string? marks quote ((c :: rest).drop marks.length) with
        | none => .error .string
        | some (literal, count) =>
            .ok (state.push (.string literal) ((c :: rest).take count), count - 1)
    | none => if isNameChar c then word state (c :: rest) else operator state (c :: rest)

def run (state : State) : List Char → Except SyntaxError State
  | [] => .ok state
  | c :: rest =>
      match step state c rest with
      | .error fault => .error fault
      | .ok (next, count) => run next (rest.drop count)
termination_by text => text.length
decreasing_by simp only [List.length_drop, List.length_cons]; omega

/-- The tokens of a text whose line ends are line feeds. -/
def tokens (text : List Char) : Except SyntaxError (Array Token) := do
  let (first, count) ← beginLine .initial text
  let last ← run first (text.drop count)
  if !last.brackets.isEmpty then throw .brackets
  return (last.push .endOfInput []).tokens

end SignatureLint.Lexer

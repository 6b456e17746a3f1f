import SignatureLint.Syntax.Expression

/-!
# Recognising patterns

The patterns of a `match` statement declare nothing that a linter reports, so they are only
recognised. Patterns inside brackets are read by the level below.
-/

namespace SignatureLint.Pattern

open SignatureLint.Parser

/-- A name that a pattern may bind: any but the wildcard. -/
def capture : Parser Unit := do
  if ← isWord "_" then fail
  let _ ← name
  if ← isNextOf [".", "(", "="] then fail

def number (imaginary : Bool) : Parser Unit := do
  match ← peek with
  | .number (.imaginary _) => if imaginary then advance else fail
  | .number _ => if imaginary then fail else advance
  | _ => fail

/-- A number with a sign, or the sum or difference of a real and an imaginary number. -/
def signedNumber : Parser Unit := do
  let _ ← accept "-"
  match ← peek with
  | .number value =>
      advance
      if ← isNextOf ["+", "-"] then
        match value with
        | .imaginary _ => fail
        | _ =>
            advance
            number true
  | _ => fail

/-- Neighbouring text literals. -/
def texts (rules : Rules) : Parser Unit := do
  let _ ← Rules.texts rules

def literal (rules : Rules) : Parser Unit := do
  match ← peek with
  | .string _ => texts rules
  | .symbol "None" | .symbol "True" | .symbol "False" => advance
  | _ => signedNumber

/-- The parts after a name; the result tells whether there is one. -/
def parts : Parser Bool :=
  loop (fun any => do
    if ← accept "." then
      let _ ← name
      return .inl true
    else return .inr any) false

/-- Whether a pattern may begin here. -/
def starts : Parser Bool := do
  match ← peek with
  | .name .. | .number _ | .string _ => return true
  | .symbol text => return ["(", "[", "\x7b", "-", "None", "True", "False", "*"].contains text
  | _ => return false

/-- A star and the name that takes the rest of a sequence. -/
def star : Parser Unit := do
  expect "*"
  if ← isWord "_" then advance else capture

def sequenceItem (pattern : Parser Unit) : Parser Unit := do
  if ← isNext "*" then star else pattern

/-- An argument of a class pattern; positional ones come first. -/
def classArgument (pattern : Parser Unit) (named : Bool) : Parser Bool := do
  if ← isSecond "=" then
    let _ ← name
    advance
    pattern
    return true
  if named then fail
  pattern
  return false

/-- The arguments of a class pattern, after the opening bracket. -/
def classArguments (pattern : Parser Unit) : Parser Unit := do
  if ← accept ")" then return
  let first ← classArgument pattern false
  loop (fun named => do
    if ← accept "," then
      if ← isNext ")" then return .inr ()
      else return .inl (← classArgument pattern named)
    else return .inr ()) first
  expect ")"

/-- A key and its pattern, or the rest of a mapping; the result tells which. -/
def mappingItem (rules : Rules) (pattern : Parser Unit) : Parser Bool := do
  if ← accept "**" then
    capture
    return true
  match ← peek with
  | .name .. =>
      let _ ← name
      if !(← parts) then fail
  | _ => literal rules
  expect ":"
  pattern
  return false

/-- A mapping, after the opening brace. -/
def mapping (rules : Rules) (pattern : Parser Unit) : Parser Unit := do
  if ← accept "\x7d" then return
  let first ← mappingItem rules pattern
  loop (fun rest => do
    if ← accept "," then
      if ← isNext "\x7d" then return .inr ()
      else if rest then fail
      else return .inl (← mappingItem rules pattern)
    else return .inr ()) first
  expect "\x7d"

def closed (rules : Rules) (pattern : Parser Unit) : Parser Unit := do
  match ← peek with
  | .name "_" _ => advance
  | .name .. =>
      let _ ← name
      let _ ← parts
      if ← accept "(" then classArguments pattern
      else if ← isNext "=" then fail
  | .symbol "(" =>
      advance
      if ← accept ")" then return
      let starred ← isNext "*"
      let (items, trailing) ← separated "," starts (sequenceItem pattern)
      if starred && items.length = 1 && !trailing then fail
      expect ")"
  | .symbol "[" =>
      advance
      if ← accept "]" then return
      let _ ← separated "," starts (sequenceItem pattern)
      expect "]"
  | .symbol "\x7b" =>
      advance
      mapping rules pattern
  | _ => literal rules

/-- A pattern: alternatives, and a name for the whole. -/
def whole (rules : Rules) (pattern : Parser Unit) : Parser Unit := do
  closed rules pattern
  loop (fun (_ : Unit) => do
    if ← accept "|" then
      closed rules pattern
      return .inl ()
    else return .inr ()) ()
  if ← accept "as" then capture

/-- The pattern reader for patterns nested up to a depth. -/
def ofDepth (rules : Rules) (depth : Nat) : Parser Unit :=
  Nat.repeat (whole rules) depth fail

/-- What a case matches: one pattern, or a sequence without brackets. -/
def case (pattern : Parser Unit) : Parser Unit := do
  let starred ← isNext "*"
  let (items, trailing) ← separated "," starts (sequenceItem pattern)
  if starred && items.length = 1 && !trailing then fail

end SignatureLint.Pattern

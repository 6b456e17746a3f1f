import SignatureLint.Syntax.Token

/-!
# Reading tokens

A parser reads tokens from a place on and fails without a second try; the few places where the
grammar needs one say so. Loops move forward at every round, so that reading ends.
-/

namespace SignatureLint

/-- What was read from a place on: a value, and the place after it, which is no earlier. -/
structure Reading (α : Type) (place : Nat) where
  value : α
  next : Nat
  forward : place ≤ next

/-- A reader of tokens: it sees all tokens and knows its place, and never goes back. -/
def Parser (α : Type) : Type :=
  (tokens : Array Token) → (place : Nat) → Except SyntaxError (Reading α place)

namespace Parser

instance : Monad Parser where
  pure value := fun _ place => .ok ⟨value, place, Nat.le_refl place⟩
  bind parser next := fun tokens place =>
    match parser tokens place with
    | .error fault => .error fault
    | .ok first =>
        match next first.value tokens first.next with
        | .error fault => .error fault
        | .ok second =>
            .ok ⟨second.value, second.next, Nat.le_trans first.forward second.forward⟩

/-- Give up for a given reason. -/
def refuse {α : Type} (fault : SyntaxError) : Parser α :=
  fun _ _ => .error fault

/-- No token is allowed here. -/
def fail {α : Type} : Parser α := refuse .unexpected

/-- The token `ahead` places further on. -/
def tokenAt (ahead : Nat) : Parser Token :=
  fun tokens place =>
    .ok ⟨tokens.getD (place + ahead) (tokens.back?.getD ⟨.endOfInput, default⟩), place,
      Nat.le_refl place⟩

def peek : Parser TokenKind := return (← tokenAt 0).kind

/-- What the token after the next one is. -/
def peekSecond : Parser TokenKind := return (← tokenAt 1).kind

/-- Pass over a token. -/
def advance : Parser Unit :=
  fun _ place => .ok ⟨(), place + 1, Nat.le_succ place⟩

/-- Whether the next token is a given symbol. -/
def isNext (symbol : String) : Parser Bool := do
  match ← peek with
  | .symbol text => return text == symbol
  | _ => return false

def isNextOf (symbols : List String) : Parser Bool := do
  match ← peek with
  | .symbol text => return symbols.contains text
  | _ => return false

/-- Whether the token after the next one is a given symbol. -/
def isSecond (symbol : String) : Parser Bool := do
  match ← peekSecond with
  | .symbol text => return text == symbol
  | _ => return false

/-- Pass over a symbol if it is next. -/
def accept (symbol : String) : Parser Bool := do
  if ← isNext symbol then
    advance
    return true
  return false

/-- Pass over a symbol. -/
def expect (symbol : String) : Parser Unit := do
  if !(← accept symbol) then fail

/-- A name, in its normal form. -/
def name : Parser String := do
  match ← peek with
  | .name _ id =>
      advance
      return id
  | _ => fail

/-- Whether the next token is a name with a given spelling. -/
def isWord (word : String) : Parser Bool := do
  match ← peek with
  | .name spelled _ => return spelled == word
  | _ => return false

/-- Where the next token begins. -/
def startPosition : Parser Position := return (← tokenAt 0).range.start

/-- The end of the last token before a place that does not only shape lines. -/
def lastEnd (tokens : Array Token) : Nat → Position
  | 0 => ⟨1, 0⟩
  | place + 1 =>
      let token := tokens.getD place ⟨.endOfInput, default⟩
      if token.kind.isLayout then lastEnd tokens place else token.range.stop

/-- Where the last token that was read ends. -/
def stopPosition : Parser Position :=
  fun tokens place => .ok ⟨lastEnd tokens place, place, Nat.le_refl place⟩

/-- What a parser reads, with its place. -/
def located {α : Type} (parser : Parser α) : Parser (Located α) := do
  let start ← startPosition
  let value ← parser
  return ⟨value, ⟨start, ← stopPosition⟩⟩

/-- Repeat a step from a place on that is no earlier than where the loop began. -/
def loopFrom {σ α : Type} (step : σ → Parser (σ ⊕ α)) (tokens : Array Token) {start : Nat}
    (state : σ) (place : Nat) (reached : start ≤ place) : Except SyntaxError (Reading α start) :=
  match step state tokens place with
  | .error fault => .error fault
  | .ok ⟨.inr result, next, forward⟩ => .ok ⟨result, next, Nat.le_trans reached forward⟩
  | .ok ⟨.inl state', next, forward⟩ =>
      if place < next ∧ next ≤ tokens.size then
        loopFrom step tokens state' next (Nat.le_trans reached forward)
      else .error .unexpected
termination_by tokens.size - place

/-- Repeat a step until it gives a result. A round that does not move forward fails. -/
def loop {σ α : Type} (step : σ → Parser (σ ⊕ α)) (state : σ) : Parser α :=
  fun tokens place => loopFrom step tokens state place (Nat.le_refl place)

/-- Try a parser; if it fails, go back and give nothing. -/
def attempt {α : Type} (parser : Parser α) : Parser (Option α) :=
  fun tokens place =>
    match parser tokens place with
    | .ok found => .ok ⟨some found.value, found.next, found.forward⟩
    | .error _ => .ok ⟨none, place, Nat.le_refl place⟩

/-- Items with a separator between neighbours and one allowed at the end; `more` tells whether an
item can follow a separator. The result tells whether a separator came last. -/
def separated {α : Type} (separator : String) (more : Parser Bool) (item : Parser α) :
    Parser (List α × Bool) := do
  let first ← item
  loop (fun items => do
    if ← accept separator then
      if ← more then
        return .inl ((← item) :: items)
      else return .inr (items.reverse, true)
    else return .inr (items.reverse, false)) [first]

def runAll {α : Type} (parser : Parser α) (tokens : Array Token) : Except SyntaxError α :=
  match parser tokens 0 with
  | .error fault => .error fault
  | .ok found =>
      match (tokens.getD found.next ⟨.endOfInput, default⟩).kind with
      | .endOfInput => .ok found.value
      | _ => .error .unexpected

end Parser

end SignatureLint

import SignatureLint.Syntax.Escape

/-!
# Text literals and formatted texts

Neighbouring literals make one text. In a formatted text braces enclose fields: an expression, an
optional conversion and an optional format, which may hold fields of its own. A doubled brace stands
for one.
-/

namespace SignatureLint.Formatted

abbrev ReadField := List Char → Except SyntaxError Expr

/-- A stretch of literal text, or a field. -/
inductive Fragment where
  | text (points : List Nat)
  | field (part : JoinedPart)

/-- How a stretch of literal text ends. -/
inductive Stop where
  /-- At the end of the literal, or at the closing brace of the format around it. -/
  | finish
  /-- After a doubled brace. -/
  | doubled
  /-- After the brace that opens a field. -/
  | field

/-- The number of characters of a name and its braces at the front of a text. A name without a
closing brace reaches beyond the end. -/
def bracedLength : List Char → Nat
  | '\x7b' :: rest => (rest.takeWhile (· != '\x7d')).length + 2
  | _ => 0

/-- A stretch of literal text up to a brace or the end: what it holds, why it ends, and the rest. At
the top doubled braces count as one, and a single closing brace is an error. The braces around the
name of a character belong to the stretch. -/
def literalRun (isRaw top : Bool) : List Char → Except SyntaxError (List Char × Stop × List Char)
  | [] => .ok ([], .finish, [])
  | '\x7b' :: '\x7b' :: rest =>
      .ok (if top then (['\x7b'], .doubled, rest) else ([], .field, '\x7b' :: rest))
  | '\x7d' :: '\x7d' :: rest =>
      .ok (if top then (['\x7d'], .doubled, rest) else ([], .finish, '\x7d' :: '\x7d' :: rest))
  | '\x7b' :: rest => .ok ([], .field, rest)
  | '\x7d' :: rest => if top then .error .string else .ok ([], .finish, '\x7d' :: rest)
  | '\\' :: c :: rest =>
      if isRaw || c == '\x7b' || c == '\x7d' then do
        let (text, stop, more) ← literalRun isRaw top (c :: rest)
        return ('\\' :: text, stop, more)
      else do
        let count := if c == 'N' then bracedLength rest else 0
        let (text, stop, more) ← literalRun isRaw top (rest.drop count)
        return ('\\' :: c :: (rest.take count ++ text), stop, more)
  | c :: rest => do
      let (text, stop, more) ← literalRun isRaw top rest
      return (c :: text, stop, more)
termination_by text => text.length
decreasing_by all_goals simp only [List.length_drop, List.length_cons]; omega

/-- The bracket that opens what a bracket closes. -/
def opening? : Char → Option Char
  | ')' => some '('
  | ']' => some '['
  | '\x7d' => some '\x7b'
  | _ => none

/-- Where the reader of the expression of a field stands: inside quotes, short or long ones, and
inside which brackets. -/
structure FieldState where
  quote : Option (Char × Bool)
  brackets : List Char

/-- Read one character or one mark of an expression. The result counts the characters after `c`; it
is nothing if the expression ends before `c`: outside brackets and quotes, at a brace, a colon, or a
mark that is part of no comparison. -/
def fieldStep (state : FieldState) (c : Char) (rest : List Char) :
    Except SyntaxError (Option (FieldState × Nat)) :=
  if c == '\\' then .error .string
  else match state.quote with
    | some (mark, long) =>
        if c != mark then .ok (some (state, 0))
        else if !long then .ok (some ({ state with quote := none }, 0))
        else if rest.take 2 == [mark, mark] then .ok (some ({ state with quote := none }, 2))
        else .ok (some (state, 0))
    | none =>
        if c == '"' || c == '\x27' then
          if rest.take 2 == [c, c] then .ok (some ({ state with quote := some (c, true) }, 2))
          else .ok (some ({ state with quote := some (c, false) }, 0))
        else if c == '(' || c == '[' || c == '\x7b' then
          if state.brackets.length ≥ 200 then .error .nesting
          else .ok (some ({ state with brackets := c :: state.brackets }, 0))
        else if c == '#' then .error .string
        else if state.brackets.isEmpty && "!:=<>\x7d".toList.contains c then
          if "!=<>".toList.contains c && rest.head? == some '=' then .ok (some (state, 1))
          else if c == '<' || c == '>' then .ok (some (state, 0))
          else .ok none
        else match opening? c, state.brackets with
          | some open', last :: outer =>
              if open' == last then .ok (some ({ state with brackets := outer }, 0))
              else .error .brackets
          | some _, [] => .error .brackets
          | none, _ => .ok (some (state, 0))

/-- The number of characters of the expression at the front of a text. -/
def fieldLength (state : FieldState) : List Char → Except SyntaxError Nat
  | [] => .error .string
  | c :: rest =>
      match fieldStep state c rest with
      | .error fault => .error fault
      | .ok none => .ok 0
      | .ok (some (next, count)) =>
          (fieldLength next (rest.drop count)).map (· + (count + 1))
termination_by text => text.length
decreasing_by simp only [List.length_drop, List.length_cons]; omega

/-- The blanks that an expression may consist of without being one. -/
def isSpace (c : Char) : Bool :=
  c == ' ' || c == '\t' || c == '\n' || c == '\x0c'

/-- Blanks after the mark that shows the text of an expression. -/
def isShownSpace (c : Char) : Bool :=
  isSpace c || c == '\r' || c == '\x0b'

/-- A conversion at the front of a text. -/
def conversion : List Char → Except SyntaxError (Option Char × List Char)
  | '!' :: c :: rest => if "sra".toList.contains c then .ok (some c, rest) else .error .string
  | '!' :: [] => .error .string
  | rest => .ok (none, rest)

/-- Literal text and fields in turn, neighbouring texts joined and empty ones dropped. -/
def joinParts (pending : List Nat) : List Fragment → List JoinedPart
  | [] => if pending.isEmpty then [] else [.text (.ofPoints pending)]
  | .text points :: rest => joinParts (pending ++ points) rest
  | .field part :: rest =>
      (if pending.isEmpty then [] else [.text (.ofPoints pending)]) ++ part :: joinParts [] rest

/-- The fragments of a formatted text, and what follows them. A format lies one level below the text
around it, and the lowest level has no fields. -/
def fragments (read : ReadField) (isRaw top : Bool) (level : Nat) (body : List Char) :
    Except SyntaxError (List Fragment × List Char) := do
  let (literal, stop, rest) ← literalRun isRaw top body
  let points ← match Escape.textBody? isRaw literal with
    | some points => pure points
    | none => throw .string
  match stop with
  | .finish => return ([.text points], rest)
  | .doubled =>
      if rest.length < body.length then
        let (others, after) ← fragments read isRaw top level rest
        return (.text points :: others, after)
      else throw .string
  | .field =>
      match level with
      | 0 => throw .nesting
      | below + 1 =>
          let count ← fieldLength ⟨none, []⟩ rest
          let (expression, rest) := (rest.take count, rest.drop count)
          if expression.all isSpace then throw .string
          let value ← read expression
          let (shown, rest) := match rest with
            | '=' :: more =>
                let blanks := more.takeWhile isShownSpace
                (some (expression ++ '=' :: blanks), more.drop blanks.length)
            | _ => (none, rest)
          let (conversion, rest) ← conversion rest
          let (format, rest) ← match rest with
            | ':' :: more =>
                let (inner, after) ← fragments read isRaw false below more
                pure (some (joinParts [] inner), after)
            | _ => pure (none, rest)
          match rest with
          | '\x7d' :: more =>
              let conversion :=
                if shown.isSome && format.isNone && conversion.isNone then some 'r' else conversion
              let shownText := (shown.getD []).map Char.toNat
              if more.length < body.length then
                let (others, after) ← fragments read isRaw top (below + 1) more
                return (.text points :: .text shownText ::
                  .field (.field value conversion format) :: others, after)
              else throw .string
          | _ => throw .string
termination_by (level, body.length)

def literalFragments (read : ReadField) (literal : StringToken) :
    Except SyntaxError (List Fragment) :=
  if literal.isFormatted then do
    let (all, rest) ← fragments read literal.isRaw true 2 literal.body
    if rest.isEmpty then return all else throw .string
  else match Escape.textBody? literal.isRaw literal.body with
    | some points => .ok [.text points]
    | none => .error .string

def literalOctets (literal : StringToken) : Except SyntaxError (List UInt8) :=
  match Escape.octetBody? literal.isRaw literal.body with
  | some octets => .ok octets
  | none => .error .string

/-- The expression that neighbouring literals make up. -/
def combine (read : ReadField) (literals : List StringToken) : Except SyntaxError Expr := do
  if literals.any StringToken.isOctets then
    if !literals.all StringToken.isOctets then throw .string
    let octets ← literals.mapM literalOctets
    return .constant (.octets octets.flatten)
  let parts := joinParts [] (← literals.mapM (literalFragments read)).flatten
  if literals.any StringToken.isFormatted then return .joined parts
  let marked := (literals.head?.map StringToken.isMarked).getD false
  match parts with
  | [.text value] => return .constant (.text value marked)
  | _ => return .constant (.text (.clean "") marked)

end SignatureLint.Formatted

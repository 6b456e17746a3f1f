import SignatureLint.Decimal.Limit
import SignatureLint.Json

/-!
# Reading JSON

A text is read as one value.  Beyond the standard, the three numbers that have no
digits are read too.  A failure tells what was expected and where.
-/

namespace SignatureLint

/-- What is wrong with a JSON text. -/
inductive JsonProblem where
  | byteOrderMark
  | value
  | name
  | colon
  | comma
  | extraData
  | unterminated
  | controlCharacter
  | escape
  | unicodeEscape
  deriving DecidableEq, Repr

def JsonProblem.message : JsonProblem → String
  | byteOrderMark => "Unexpected UTF-8 BOM (decode using utf-8-sig)"
  | value => "Expecting value"
  | name => "Expecting property name enclosed in double quotes"
  | colon => "Expecting ':' delimiter"
  | comma => "Expecting ',' delimiter"
  | extraData => "Extra data"
  | unterminated => "Unterminated string starting at"
  | controlCharacter => "Invalid control character at"
  | escape => "Invalid \\escape"
  | unicodeEscape => "Invalid \\uXXXX escape"

/-- Why a JSON text has no value. -/
inductive JsonError where
  /-- A problem, with its line, its column and its offset. -/
  | malformed (problem : JsonProblem) (line column offset : Nat)
  /-- An integer with too many digits. -/
  | longInteger (digits : Nat)
  deriving DecidableEq, Repr

/-- The wording of a failure. -/
def JsonError.message : JsonError → String
  | malformed problem line column offset =>
      s!"{problem.message}: line {line} column {column} (char {offset})"
  | longInteger digits =>
      Decimal.tooLongToRead digits

namespace Json

/-- A failure at the place where some number of characters remain. -/
inductive Fault where
  | at (problem : JsonProblem) (remaining : Nat)
  | longInteger (digits : Nat)
  deriving DecidableEq, Repr

/-- A blank between the words of a JSON text. -/
def isSpace (c : Char) : Bool :=
  c == ' ' || c == '\t' || c == '\n' || c == '\r'

/-- Drop the blanks in front. -/
def skip (text : List Char) : List Char :=
  text.dropWhile isSpace

def isDigit (c : Char) : Bool :=
  '0' ≤ c && c ≤ '9'

def decimal (digits : List Char) : Nat :=
  digits.foldl (fun value c => value * 10 + (c.toNat - 48)) 0

def hexDigit? (c : Char) : Option Nat :=
  if '0' ≤ c && c ≤ '9' then some (c.toNat - 48)
  else if 'a' ≤ c && c ≤ 'f' then some (c.toNat - 87)
  else if 'A' ≤ c && c ≤ 'F' then some (c.toNat - 55)
  else none

/-- The value of four hexadecimal digits. -/
def hexCode? (a b c d : Char) : Option Nat := do
  return (((← hexDigit? a) * 16 + (← hexDigit? b)) * 16 + (← hexDigit? c)) * 16 + (← hexDigit? d)

/-- The character that an escape of one letter stands for. -/
def simpleEscape? (c : Char) : Option Nat :=
  if c == '"' || c == '\\' || c == '/' then some c.toNat
  else if c == 'b' then some 8
  else if c == 'f' then some 12
  else if c == 'n' then some 10
  else if c == 'r' then some 13
  else if c == 't' then some 9
  else none

/-- The first half of a pair of surrogates. -/
def isHighSurrogate (code : Nat) : Bool := 0xD800 ≤ code && code ≤ 0xDBFF

/-- The second half of a pair of surrogates. -/
def isLowSurrogate (code : Nat) : Bool := 0xDC00 ≤ code && code ≤ 0xDFFF

/-- The code point of a pair of surrogates. -/
def joinSurrogates (high low : Nat) : Nat :=
  0x10000 + (high - 0xD800) * 0x400 + (low - 0xDC00)

/-- The second half of a pair whose first half was read, and what follows it.  Another escape after
the first half stays where it is, unless it is no escape at all. -/
def secondHalf (text : List Char) : Except Fault (Option (Nat × List Char)) :=
  match text with
  | '\\' :: 'u' :: a :: b :: c :: d :: next :: rest =>
      match hexCode? a b c d with
      | none => .error (.at .unicodeEscape (text.length - 1))
      | some code =>
          if isLowSurrogate code then .ok (some (code, next :: rest)) else .ok none
  | _ => .ok none

theorem length_of_secondHalf {text rest : List Char} {code : Nat}
    (h : secondHalf text = .ok (some (code, rest))) : rest.length < text.length := by
  unfold secondHalf at h
  split at h
  · split at h
    · cases h
    · split at h
      · injection h with h
        injection h with h
        injection h with _ h
        subst h
        simp only [List.length_cons]
        omega
      · cases h
  · cases h

/-- The code points of a text up to its closing quote, and what follows the quote.  The text began
where `opening` characters remained. -/
def stringBody (opening : Nat) (text : List Char) : Except Fault (List Nat × List Char) :=
  match text with
  | [] => .error (.at .unterminated opening)
  | '"' :: rest => .ok ([], rest)
  | '\\' :: 'u' :: rest =>
      match rest with
      | a :: b :: c :: d :: next :: more =>
          match hexCode? a b c d with
          | none => .error (.at .unicodeEscape (rest.length + 1))
          | some code =>
              if isHighSurrogate code then
                match _ : secondHalf (next :: more) with
                | .error fault => .error fault
                | .ok (some (low, after)) => do
                    let (points, final) ← stringBody opening after
                    return (joinSurrogates code low :: points, final)
                | .ok none => do
                    let (points, final) ← stringBody opening (next :: more)
                    return (code :: points, final)
              else do
                let (points, final) ← stringBody opening (next :: more)
                return (code :: points, final)
      | _ => .error (.at .unicodeEscape (rest.length + 1))
  | '\\' :: c :: rest =>
      match simpleEscape? c with
      | none => .error (.at .escape (rest.length + 2))
      | some code => do
          let (points, final) ← stringBody opening rest
          return (code :: points, final)
  | '\\' :: [] => .error (.at .unterminated opening)
  | c :: rest =>
      if c.toNat < 32 then .error (.at .controlCharacter (rest.length + 1))
      else do
        let (points, final) ← stringBody opening rest
        return (c.toNat :: points, final)
termination_by text.length
decreasing_by
  · have := length_of_secondHalf ‹_›
    simp only [List.length_cons] at *
    omega
  all_goals simp only [List.length_cons]; omega

/-- The digits of a fraction, and what follows them. -/
def fraction (text : List Char) : List Char × List Char :=
  match text with
  | '.' :: first :: rest =>
      if isDigit first then
        (first :: rest.takeWhile isDigit, rest.dropWhile isDigit)
      else ([], text)
  | _ => ([], text)

def exponent (text : List Char) : Option Int × List Char :=
  match text with
  | mark :: rest =>
      if mark == 'e' || mark == 'E' then
        let (negative, digits) :=
          match rest with
          | '-' :: more => (true, more)
          | '+' :: more => (false, more)
          | _ => (false, rest)
        let value := digits.takeWhile isDigit
        if value.isEmpty then (none, text)
        else
          let magnitude : Int := decimal value
          (some (if negative then -magnitude else magnitude), digits.dropWhile isDigit)
      else (none, text)
  | [] => (none, [])

/-- The digits of a whole number: a lone zero, or digits that do not begin with one. -/
def wholeDigits (text : List Char) : List Char × List Char :=
  match text with
  | '0' :: rest => (['0'], rest)
  | _ => (text.takeWhile isDigit, text.dropWhile isDigit)

section

-- the most digits that an integer may have
variable (limit : Nat)

/-- A number without its sign, and what follows it. -/
def number (negative : Bool) (text : List Char) : Except Fault (Option (Json × List Char)) :=
  let (whole, afterWhole) := wholeDigits text
  if whole.isEmpty then .ok none
  else
    let (part, afterFraction) := fraction afterWhole
    let (power, rest) := exponent afterFraction
    if part.isEmpty && power.isNone then
      if limit < whole.length then .error (.longInteger whole.length)
      else
        let value : Int := decimal whole
        .ok (some (.integer (if negative then -value else value), rest))
    else
      let value := Binary64.ofDecimal negative (decimal (whole ++ part))
        (power.getD 0 - part.length)
      .ok (some (.real value, rest))

end

/-- The words that stand for values. -/
def words : List (List Char × Json) :=
  [("null".toList, .null), ("true".toList, .boolean true), ("false".toList, .boolean false),
    ("NaN".toList, .real .notANumber), ("Infinity".toList, .real (.infinite false)),
    ("-Infinity".toList, .real (.infinite true))]

/-- The word at the front of a text, and what follows it. -/
def word? (text : List Char) : Option (Json × List Char) :=
  words.findSome? fun (word, value) =>
    if word.isPrefixOf text then some (value, text.drop word.length) else none

section

variable (limit : Nat)

/-- A word or a number at the front of a text, and what follows it. -/
def scalar (text : List Char) : Except Fault (Json × List Char) :=
  match word? text with
  | some found => .ok found
  | none => do
      let found ← match text with
        | '-' :: rest => number limit true rest
        | _ => number limit false text
      match found with
      | some found => return found
      | none => throw (.at .value text.length)

mutual

/-- The value at the front of a text, and what follows it.  Every call uses up some fuel; twice the
length of the text is enough. -/
def valueAt : (fuel : Nat) → List Char → Except Fault (Json × List Char)
  | 0, source => .error (.at .value source.length)
  | fuel + 1, source =>
      match source with
      | '"' :: rest => do
          let (points, after) ← stringBody source.length rest
          return (.text (LooseText.ofPoints points), after)
      | '{' :: rest =>
          match skip rest with
          | '}' :: after => .ok (.object [], after)
          | inside => do
              let (entries, after) ← entriesAt fuel [] inside
              return (.object entries, after)
      | '[' :: rest =>
          match skip rest with
          | ']' :: after => .ok (.array [], after)
          | inside => do
              let (elements, after) ← elementsAt fuel inside
              return (.array elements, after)
      | _ => scalar limit source

/-- The elements of an array up to its closing bracket, and what follows it. -/
def elementsAt : (fuel : Nat) → List Char → Except Fault (List Json × List Char)
  | 0, source => .error (.at .value source.length)
  | fuel + 1, source => do
      let (first, rest) ← valueAt fuel source
      match skip rest with
      | ']' :: after => return ([first], after)
      | ',' :: more => do
          let (elements, after) ← elementsAt fuel (skip more)
          return (first :: elements, after)
      | other => throw (.at .comma other.length)

/-- The entries of an object up to its closing bracket, after those that were read before. -/
def entriesAt : (fuel : Nat) → List (LooseText × Json) → List Char →
    Except Fault (List (LooseText × Json) × List Char)
  | 0, _, source => .error (.at .name source.length)
  | fuel + 1, earlier, source =>
      match source with
      | '"' :: rest => do
          let (points, afterKey) ← stringBody source.length rest
          match skip afterKey with
          | ':' :: afterColon => do
              let (value, afterValue) ← valueAt fuel (skip afterColon)
              let entries := put earlier (LooseText.ofPoints points) value
              match skip afterValue with
              | '}' :: after => return (entries, after)
              | ',' :: more => entriesAt fuel entries (skip more)
              | other => throw (.at .comma other.length)
          | other => throw (.at .colon other.length)
      | _ => .error (.at .name source.length)

end

/-- The value of a text, or the first fault in it. -/
def whole (text : List Char) : Except Fault Json := do
  if text.head? = some '\uFEFF' then throw (.at .byteOrderMark text.length)
  let (value, rest) ← valueAt limit (2 * text.length + 2) (skip text)
  match skip rest with
  | [] => return value
  | extra => throw (.at .extraData extra.length)

end

def Fault.locate (text : List Char) : Fault → JsonError
  | .longInteger digits => .longInteger digits
  | .at problem remaining =>
      let before := text.take (text.length - remaining)
      let column := (before.reverse.takeWhile (· != '\n')).length + 1
      .malformed problem (before.count '\n' + 1) column before.length

def read (text : String) : Except JsonError Json :=
  match whole Decimal.maxDigits text.toList with
  | .ok value => .ok value
  | .error fault => .error (fault.locate text.toList)

end Json

end SignatureLint

import SignatureLint.Decimal.Limit
import SignatureLint.Setting

/-!
# Scalar values of TOML

Texts, numbers, days and times, as they are written in a TOML document whose
lines end in line feeds.
-/

namespace SignatureLint

/-- Why a TOML document has no value. -/
inductive TomlError where
  | malformed
  /-- An integer with too many digits. -/
  | longInteger (digits : Nat)
  deriving DecidableEq, Repr

namespace Toml

/-- What reading something at the front of a text yields: a value and the rest of the text. -/
abbrev Read (α : Type) := Except TomlError (α × List Char)

/-- A blank inside a line. -/
def isBlank (c : Char) : Bool :=
  c == ' ' || c == '\t'

/-- Drop the blanks in front. -/
def skipBlanks (text : List Char) : List Char :=
  text.dropWhile isBlank

/-- Drop the blanks and the line ends in front. -/
def skipLines (text : List Char) : List Char :=
  text.dropWhile fun c => isBlank c || c == '\n'

/-- A character that is not allowed in a comment or a text of one line. -/
def isControl (c : Char) : Bool :=
  (c.toNat < 32 && c != '\t') || c.toNat == 127

/-- A character that is not allowed in a text of several lines. -/
def isControlInLines (c : Char) : Bool :=
  isControl c && c != '\n'

def isDigit (c : Char) : Bool :=
  '0' ≤ c && c ≤ '9'

/-- The value of a digit in any base up to sixteen. -/
def digitValue (c : Char) : Nat :=
  if isDigit c then c.toNat - 48
  else if 'a' ≤ c && c ≤ 'f' then c.toNat - 87
  else if 'A' ≤ c && c ≤ 'F' then c.toNat - 55
  else 16

def number (base : Nat) (digits : List Char) : Nat :=
  digits.foldl (fun value c => value * base + digitValue c) 0

/-! ## Texts -/

/-- A text in single quotes on one line, after its opening quote. -/
def literalText (text : List Char) : Read (List Char) :=
  let body := text.takeWhile (· != '\x27')
  match text.dropWhile (· != '\x27') with
  | [] => .error .malformed
  | _ :: rest => if body.any isControl then .error .malformed else .ok (body, rest)

/-- The characters before three quotes, and what follows these. -/
def beforeTriple (quote : Char) : List Char → Option (List Char × List Char)
  | [] => none
  | c :: rest =>
      if c == quote && [quote, quote].isPrefixOf rest then some ([], rest.drop 2)
      else (beforeTriple quote rest).map fun (body, after) => (c :: body, after)

/-- Up to two quotes after the three that close a text belong to the text. -/
def withExtraQuotes (quote : Char) (body text : List Char) : List Char × List Char :=
  let extra := (text.take 2).takeWhile (· == quote)
  (body ++ extra, text.drop extra.length)

/-- The character with the code that a number of hexadecimal digits spell. -/
def codeEscape (digits : Nat) (text : List Char) : Read (List Char) :=
  let code := text.take digits
  let value := number 16 code
  if code.length = digits && code.all (digitValue · < 16) && value.isValidChar then
    .ok ([Char.ofNat value], text.drop digits)
  else .error .malformed

def letterEscape? (c : Char) : Option Char :=
  [('b', '\x08'), ('t', '\t'), ('n', '\n'), ('f', '\x0c'), ('r', '\r'), ('"', '"'),
    ('\\', '\\')].lookup c

/-- What an escape stands for, after its backslash.  In a text of several lines a backslash at the
end of a line takes the line end and all blanks after it away. -/
def escape (multiline : Bool) (text : List Char) : Read (List Char) :=
  match text with
  | [] => .error .malformed
  | c :: rest =>
      if multiline && c == '\n' then .ok ([], skipLines rest)
      else if multiline && isBlank c then
        match skipBlanks rest with
        | [] => .ok ([], [])
        | '\n' :: more => .ok ([], skipLines more)
        | _ => .error .malformed
      else if c == 'u' then codeEscape 4 rest
      else if c == 'U' then codeEscape 8 rest
      else
        match letterEscape? c with
        | some letter => .ok ([letter], rest)
        | none => .error .malformed

/-- A text in double quotes, after its opening quotes.  Every step uses up some fuel; the length of
the text is enough. -/
def basicText (multiline : Bool) :
    (fuel : Nat) → List Char → Except TomlError (List Char × List Char)
  | 0, _ => .error .malformed
  | fuel + 1, text =>
      match text with
      | [] => .error .malformed
      | '"' :: rest =>
          if !multiline then .ok ([], rest)
          else
            match rest with
            | '"' :: '"' :: after => .ok ([], after)
            | _ => do
                let (body, after) ← basicText multiline fuel rest
                return ('"' :: body, after)
      | '\\' :: rest => do
          let (characters, more) ← escape multiline rest
          let (body, after) ← basicText multiline fuel more
          return (characters ++ body, after)
      | c :: rest =>
          if (if multiline then isControlInLines c else isControl c) then .error .malformed
          else do
            let (body, after) ← basicText multiline fuel rest
            return (c :: body, after)

/-- A text of one line in double quotes, after its opening quote. -/
def lineText (text : List Char) : Read (List Char) :=
  basicText false (text.length + 1) text

/-- A line end right after the opening quotes does not count. -/
def dropFirstLineEnd : List Char → List Char
  | '\n' :: rest => rest
  | text => text

/-- A text of several lines in double quotes, after its opening quotes. -/
def linesText (text : List Char) : Except TomlError (List Char × List Char) := do
  let (body, rest) ← basicText true (text.length + 1) (dropFirstLineEnd text)
  return withExtraQuotes '"' body rest

/-- A text of several lines in single quotes, after its opening quotes. -/
def literalLinesText (text : List Char) : Read (List Char) :=
  match beforeTriple '\x27' (dropFirstLineEnd text) with
  | none => .error .malformed
  | some (body, rest) =>
      if body.any isControlInLines then .error .malformed
      else .ok (withExtraQuotes '\x27' body rest)

/-! ## Days and times -/

/-- A number of digits at the front of a text, and what follows them. -/
def digits? (count : Nat) (text : List Char) : Option (Nat × List Char) :=
  let front := text.take count
  if front.length = count && front.all isDigit then some (number 10 front, text.drop count)
  else none

/-- A given character at the front of a text. -/
def after? (c : Char) : List Char → Option (List Char)
  | first :: rest => if first == c then some rest else none
  | [] => none

def hoursMinutes? (text : List Char) : Option (Nat × Nat × List Char) := do
  let (hour, rest) ← digits? 2 text
  let rest ← after? ':' rest
  let (minute, rest) ← digits? 2 rest
  if hour ≤ 23 && minute ≤ 59 then some (hour, minute, rest) else none

/-- The millionths that a fraction of a second comes to; further digits are cut off. -/
def microseconds (digits : List Char) : Nat :=
  let six := digits.take 6
  number 10 (six ++ List.replicate (6 - six.length) '0')

/-- The time at the front of a text, and what follows it. -/
def time? (text : List Char) : Option (TimeOfDay × List Char) := do
  let (hour, minute, rest) ← hoursMinutes? text
  let rest ← after? ':' rest
  let (second, rest) ← digits? 2 rest
  if 59 < second then none
  else
    match rest with
    | '.' :: more =>
        let fraction := more.takeWhile isDigit
        if fraction.isEmpty then some (⟨hour, minute, second, 0⟩, rest)
        else some (⟨hour, minute, second, microseconds fraction⟩, more.dropWhile isDigit)
    | _ => some (⟨hour, minute, second, 0⟩, rest)

/-- The offset from universal time at the front of a text, if there is one. -/
def offset (text : List Char) : Option Int × List Char :=
  match text with
  | c :: rest =>
      if c == 'Z' || c == 'z' then (some 0, rest)
      else if c == '+' || c == '-' then
        match hoursMinutes? rest with
        | some (hour, minute, after) =>
            let minutes : Int := hour * 60 + minute
            (some (if c == '-' then -minutes else minutes), after)
        | none => (none, text)
      else (none, text)
  | [] => (none, [])

/-- The day at the front of a text, and what follows it. -/
def date? (text : List Char) : Option (Date × List Char) := do
  let (year, rest) ← digits? 4 text
  let rest ← after? '-' rest
  let (month, rest) ← digits? 2 rest
  let rest ← after? '-' rest
  let (day, rest) ← digits? 2 rest
  if 1 ≤ month && month ≤ 12 && 1 ≤ day && day ≤ 31 then some (⟨year, month, day⟩, rest) else none

/-- The day, with or without a time, at the front of a text, and what follows it. -/
def moment? (text : List Char) : Option (Date × Setting × List Char) := do
  let (date, rest) ← date? text
  let timed : Option (TimeOfDay × List Char) :=
    match rest with
    | c :: more => if c == 'T' || c == 't' || c == ' ' then time? more else none
    | [] => none
  match timed with
  | some (time, rest) =>
      let (offset, rest) := offset rest
      return (date, .moment date time offset, rest)
  | none => return (date, .date date, rest)

/-! ## Numbers -/

/-- Digits, with single underscores allowed between two of them, and what follows them. -/
def digitRun (isDigit : Char → Bool) : List Char → List Char × List Char
  | [] => ([], [])
  | '_' :: c :: rest =>
      if isDigit c then
        let (digits, after) := digitRun isDigit rest
        (c :: digits, after)
      else ([], '_' :: c :: rest)
  | c :: rest =>
      if isDigit c then
        let (digits, after) := digitRun isDigit rest
        (c :: digits, after)
      else ([], c :: rest)

/-- Digits that begin with one, and what follows them. -/
def digitsFrom (isDigit : Char → Bool) (text : List Char) : Option (List Char × List Char) :=
  match text with
  | c :: rest =>
      if isDigit c then
        let (digits, after) := digitRun isDigit rest
        some (c :: digits, after)
      else none
  | [] => none

/-- A number that is written in another base, after the zero in front of it. -/
def otherBase? (text : List Char) : Option (Nat × List Char) := do
  let base (n : Nat) (rest : List Char) : Option (Nat × List Char) := do
    let (digits, after) ← digitsFrom (digitValue · < n) rest
    return (number n digits, after)
  match text with
  | 'x' :: rest => base 16 rest
  | 'b' :: rest => base 2 rest
  | 'o' :: rest => base 8 rest
  | _ => none

/-- The digits of a whole number: a lone zero, or digits that do not begin with one. -/
def wholeDigits? (text : List Char) : Option (List Char × List Char) :=
  match text with
  | '0' :: rest => some (['0'], rest)
  | _ => digitsFrom isDigit text

/-- The digits of a fraction at the front of a text, and what follows them. -/
def fraction (text : List Char) : List Char × List Char :=
  match text with
  | '.' :: rest => (digitsFrom isDigit rest).getD ([], text)
  | _ => ([], text)

def sign (text : List Char) : Bool × List Char :=
  match text with
  | '-' :: rest => (true, rest)
  | '+' :: rest => (false, rest)
  | _ => (false, text)

/-- An exponent at the front of a text, and what follows it. -/
def exponent (text : List Char) : Option Int × List Char :=
  match text with
  | c :: rest =>
      if c == 'e' || c == 'E' then
        let (negative, unsigned) := sign rest
        match digitsFrom isDigit unsigned with
        | some (digits, after) =>
            let magnitude : Int := number 10 digits
            (some (if negative then -magnitude else magnitude), after)
        | none => (none, text)
      else (none, text)
  | [] => (none, [])

/-- A decimal number at the front of a text, and what follows it. -/
def decimal? (text : List Char) : Option (Read Setting) := do
  let (negative, unsigned) := sign text
  let (whole, afterWhole) ← wholeDigits? unsigned
  let (part, afterPart) := fraction afterWhole
  let (power, rest) := exponent afterPart
  if part.isEmpty && power.isNone then
    if Decimal.maxDigits < whole.length then some (.error (.longInteger whole.length))
    else
      let value : Int := number 10 whole
      some (.ok (.integer (if negative then -value else value), rest))
  else
    let exponent := power.getD 0 - part.length
    some (.ok (.real (Binary64.ofDecimal negative (number 10 (whole ++ part)) exponent), rest))

/-- The numbers that have no digits. -/
def words : List (String × Setting) :=
  [("inf", .real (.infinite false)), ("+inf", .real (.infinite false)),
    ("-inf", .real (.infinite true)), ("nan", .real .notANumber), ("+nan", .real .notANumber),
    ("-nan", .real .notANumber)]

/-- A word of a list at the front of a text, and what follows it. -/
def word? (words : List (String × Setting)) (text : List Char) : Option (Setting × List Char) :=
  words.findSome? fun (word, value) =>
    (Text.dropBeginning? word.toList text).map (value, ·)

/-- A day, a time or a number at the front of a text, and what follows it. -/
def scalar (text : List Char) : Read Setting :=
  match moment? text with
  | some (date, value, rest) => if date.isValid then .ok (value, rest) else .error .malformed
  | none =>
      match time? text with
      | some (time, rest) => .ok (.time time, rest)
      | none =>
          let based : Option (Nat × List Char) :=
            match text with
            | '0' :: rest => otherBase? rest
            | _ => none
          match based with
          | some (value, rest) => .ok (.integer value, rest)
          | none =>
              match decimal? text with
              | some found => found
              | none =>
                  match word? words text with
                  | some found => .ok found
                  | none => .error .malformed

end Toml

end SignatureLint

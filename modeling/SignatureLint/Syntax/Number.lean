import SignatureLint.Decimal.Limit
import SignatureLint.Syntax.Token
import SignatureLint.Text.Table

/-!
# Number literals

Integers in four bases, reals and imaginary numbers, with underscores between digits.
-/

namespace SignatureLint.NumberLiteral

def isDigit (c : Char) : Bool := c.isDigit

def isHexDigit (c : Char) : Bool :=
  c.isDigit || ('a' ≤ c && c ≤ 'f') || ('A' ≤ c && c ≤ 'F')

/-- The digits at the front of a text, where an underscore may stand before a digit, and the number
of characters that they take. -/
def digitRun? (isDigit : Char → Bool) : List Char → Option (List Char × Nat)
  | [] => some ([], 0)
  | '_' :: [] => none
  | '_' :: digit :: rest =>
      if isDigit digit then
        (digitRun? isDigit rest).map fun (digits, count) => (digit :: digits, count + 2)
      else none
  | c :: rest =>
      if isDigit c then
        (digitRun? isDigit rest).map fun (digits, count) => (c :: digits, count + 1)
      else some ([], 0)

def value (base : Nat) (digits : List Char) : Nat :=
  digits.foldl (fun value c => value * base + Text.hexDigitValue c) 0

/-- What may follow a number: nothing that could continue a name, except a keyword that can stand
after an operand. -/
def endsHere (rest : List Char) : Bool :=
  ["and", "else", "for", "if", "in", "is", "or", "not"].any
    (fun word => word.toList.isPrefixOf rest) ||
    match rest with
    | [] => true
    | c :: _ => !(c.isAlphanum || c == '_' || c.toNat ≥ 128)

/-- An integer in a base other than ten, after its two-character mark. -/
def radix? (base : Nat) (isDigit : Char → Bool) (rest : List Char) : Option (Constant × Nat) := do
  let (digits, count) ← digitRun? isDigit rest
  if digits.isEmpty || !endsHere (rest.drop count) then none
  else some (.integer (value base digits), count + 2)

/-- The digits of an exponent, after its letter and a sign of `signed` characters: the value and the
number of characters with the letter and the sign. -/
def exponentDigits? (negative : Bool) (signed : Nat) : List Char → Option (Int × Nat)
  | d :: rest =>
      if isDigit d then do
        let (run, count) ← digitRun? isDigit (d :: rest)
        let magnitude : Int := (value 10 run : Nat)
        some (if negative then -magnitude else magnitude, count + signed + 1)
      else if signed = 1 then none else some (0, 0)
  | [] => if signed = 1 then none else some (0, 0)

/-- The exponent at the front of a text: its value and the number of characters. -/
def exponent? : List Char → Option (Int × Nat)
  | e :: rest =>
      if e != 'e' && e != 'E' then some (0, 0)
      else
        match rest with
        | '-' :: digits => exponentDigits? true 1 digits
        | '+' :: digits => exponentDigits? false 1 digits
        | digits => exponentDigits? false 0 digits
  | [] => some (0, 0)

/-- The fraction at the front of a text: its digits and the number of characters. -/
def fraction? : List Char → Option (List Char × Nat)
  | '.' :: d :: rest =>
      if isDigit d then
        (digitRun? isDigit (d :: rest)).map fun (digits, count) => (digits, count + 1)
      else some ([], 1)
  | '.' :: [] => some ([], 1)
  | _ => some ([], 0)

/-- A decimal number without a mark behind it: a real, or an integer, which may not begin with a
needless zero. -/
def unmarked? (whole : List Char) (isReal : Bool) (real : Binary64) (count : Nat) :
    Option (Constant × Nat) :=
  let number := value 10 whole
  if isReal then some (.real real, count)
  else if (whole.head? == some '0' && number != 0) || whole.length > Decimal.maxDigits then none
  else some (.integer number, count)

/-- A decimal number: an integer, a real or an imaginary number. -/
def decimal? (text : List Char) : Option (Constant × Nat) := do
  let (whole, wholeCount) ← digitRun? isDigit text
  let afterWhole := text.drop wholeCount
  let (fraction, fractionCount) ← fraction? afterWhole
  let afterFraction := afterWhole.drop fractionCount
  let (exponent, exponentCount) ← exponent? afterFraction
  let rest := afterFraction.drop exponentCount
  let count := wholeCount + fractionCount + exponentCount
  let real := Binary64.ofDecimal false (value 10 (whole ++ fraction)) (exponent - fraction.length)
  let isReal := fractionCount != 0 || exponentCount != 0
  match rest with
  | c :: more =>
      if c == 'j' || c == 'J' then
        if endsHere more then some (.imaginary real, count + 1) else none
      else if endsHere rest then unmarked? whole isReal real count
      else none
  | [] => unmarked? whole isReal real count

/-- The number at the front of a text that begins with a digit, or with a point and a digit. -/
def scan? : List Char → Option (Constant × Nat)
  | '0' :: mark :: rest =>
      if mark == 'x' || mark == 'X' then radix? 16 isHexDigit rest
      else if mark == 'o' || mark == 'O' then radix? 8 (fun c => '0' ≤ c && c ≤ '7') rest
      else if mark == 'b' || mark == 'B' then radix? 2 (fun c => c == '0' || c == '1') rest
      else decimal? ('0' :: mark :: rest)
  | text => decimal? text

end SignatureLint.NumberLiteral

import SignatureLint.Syntax.Number
import SignatureLint.Text.CharName

/-!
# Escapes in text literals

A backslash and what follows it spell one character, or nothing at the end of a line. A text may
give a character by its name between braces. An unknown escape stands for itself.
-/

namespace SignatureLint.Escape

/-- The character that a one-letter escape spells. -/
def simple? : Char → Option Nat
  | '\\' => some 0x5C
  | '\x27' => some 0x27
  | '"' => some 0x22
  | 'a' => some 7
  | 'b' => some 8
  | 'f' => some 12
  | 'n' => some 10
  | 'r' => some 13
  | 't' => some 9
  | 'v' => some 11
  | _ => none

def isOctal (c : Char) : Bool := '0' ≤ c && c ≤ '7'

/-- The octal digits, at most three, at the front of a text. -/
def octalRun (text : List Char) : List Char :=
  (text.take 3).takeWhile isOctal

/-- The value of exactly `count` hexadecimal digits. -/
def hexRun? (count : Nat) (text : List Char) : Option Nat :=
  let digits := text.take count
  if digits.length = count && digits.all NumberLiteral.isHexDigit then
    some (NumberLiteral.value 16 digits)
  else none

/-- The character named between braces at the front of a text, and the number of characters of the
name and its braces. The name ends at the first closing brace. -/
def named? : List Char → Option (Nat × Nat)
  | '\x7b' :: rest =>
      let name := rest.takeWhile (· != '\x7d')
      if name.length < rest.length then
        (CharName.find? name).map fun code => (code, name.length + 2)
      else none
  | _ => none

/-- The escape after a backslash: the code points that it spells and the number of characters, or
nothing if it is malformed. -/
def text? : List Char → Option (List Nat × Nat)
  | [] => some ([0x5C], 0)
  | '\n' :: _ => some ([], 1)
  | c :: rest =>
      match simple? c with
      | some code => some ([code], 1)
      | none =>
          if isOctal c then
            let digits := octalRun (c :: rest)
            some ([NumberLiteral.value 8 digits], digits.length)
          else if c == 'x' then (hexRun? 2 rest).map fun code => ([code], 3)
          else if c == 'u' then (hexRun? 4 rest).map fun code => ([code], 5)
          else if c == 'U' then
            (hexRun? 8 rest).bind fun code => if code < 0x110000 then some ([code], 9) else none
          else if c == 'N' then (named? rest).map fun (code, count) => ([code], count + 1)
          else some ([0x5C, c.toNat], 1)

/-- The escape after a backslash in a literal of octets. -/
def octets? : List Char → Option (List Nat × Nat)
  | [] => some ([0x5C], 0)
  | '\n' :: _ => some ([], 1)
  | c :: rest =>
      match simple? c with
      | some code => some ([code], 1)
      | none =>
          if isOctal c then
            let digits := octalRun (c :: rest)
            some ([NumberLiteral.value 8 digits % 256], digits.length)
          else if c == 'x' then (hexRun? 2 rest).map fun code => ([code], 3)
          else some ([0x5C, c.toNat], 1)

/-- The code points that a text with escapes spells. -/
def decode (escape? : List Char → Option (List Nat × Nat)) : List Char → Option (List Nat)
  | [] => some []
  | c :: rest =>
      if c == '\\' then do
        let (codes, count) ← escape? rest
        let more ← decode escape? (rest.drop count)
        some (codes ++ more)
      else (decode escape? rest).map (c.toNat :: ·)
termination_by text => text.length
decreasing_by all_goals simp only [List.length_drop, List.length_cons]; omega

/-- The code points of the body of a text literal. -/
def textBody? (isRaw : Bool) (body : List Char) : Option (List Nat) :=
  if isRaw then some (body.map Char.toNat) else decode text? body

def octetBody? (isRaw : Bool) (body : List Char) : Option (List UInt8) :=
  if body.any (fun c => c.toNat ≥ 128) then none
  else (if isRaw then some (body.map Char.toNat) else decode octets? body).map fun codes =>
    codes.map Nat.toUInt8

end SignatureLint.Escape

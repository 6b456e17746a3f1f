import SignatureLint.Decimal.Limit
import SignatureLint.Json

/-!
# Writing JSON

A value is written on one line with every character outside ASCII escaped, or on
several lines, where only what must be escaped is.
-/

namespace SignatureLint.Json

def hexDigit (value : Nat) : Char :=
  if value < 10 then Char.ofNat (48 + value) else Char.ofNat (87 + value)

/-- The escape of a code point of at most sixteen bits. -/
def unicodeEscape (code : Nat) : List Char :=
  ['\\', 'u', hexDigit (code / 4096 % 16), hexDigit (code / 256 % 16), hexDigit (code / 16 % 16),
    hexDigit (code % 16)]

def shortEscape? (code : Nat) : Option (List Char) :=
  if code = 0x22 then some ['\\', '"']
  else if code = 0x5C then some ['\\', '\\']
  else if code = 8 then some ['\\', 'b']
  else if code = 12 then some ['\\', 'f']
  else if code = 10 then some ['\\', 'n']
  else if code = 13 then some ['\\', 'r']
  else if code = 9 then some ['\\', 't']
  else none

def asciiPoint (code : Nat) : List Char :=
  match shortEscape? code with
  | some escape => escape
  | none =>
      if 32 ≤ code && code < 127 then [Char.ofNat code]
      else if code < 0x10000 then unicodeEscape code
      else
        unicodeEscape (0xD800 + (code - 0x10000) / 0x400) ++
          unicodeEscape (0xDC00 + (code - 0x10000) % 0x400)

/-- A code point in a text, escaped only if it must be. -/
def plainPoint (code : Nat) : List Char :=
  match shortEscape? code with
  | some escape => escape
  | none => if code < 32 then unicodeEscape code else [Char.ofNat code]

def quoted (point : Nat → List Char) (text : LooseText) : List Char :=
  '"' :: (text.points.flatMap point ++ ['"'])

/-- A number with a fraction. -/
def realText : Binary64 → List Char
  | .infinite negative => (if negative then "-Infinity" else "Infinity").toList
  | .notANumber => "NaN".toList
  | value => value.text

/-- A value that holds no others; of the others, nothing. -/
def scalarText (point : Nat → List Char) : Json → List Char
  | .null => "null".toList
  | .boolean value => (if value then "true" else "false").toList
  | .integer value => (toString value).toList
  | .real value => realText value
  | .text value => quoted point value
  | .array _ | .object _ => []

mutual

/-- A value on one line. -/
def compact : Json → List Char
  | .array elements => '[' :: (compactElements elements ++ [']'])
  | .object entries => '\x7b' :: (compactEntries entries ++ ['\x7d'])
  | other => scalarText asciiPoint other

/-- The elements of an array on one line. -/
def compactElements : List Json → List Char
  | [] => []
  | [last] => compact last
  | first :: rest => compact first ++ ", ".toList ++ compactElements rest

/-- The entries of an object on one line. -/
def compactEntries : List (LooseText × Json) → List Char
  | [] => []
  | [(key, value)] => quoted asciiPoint key ++ ": ".toList ++ compact value
  | (key, value) :: rest =>
      quoted asciiPoint key ++ ": ".toList ++ compact value ++ ", ".toList ++ compactEntries rest

end

/-- A line end and the indentation of a depth. -/
def lineAt (depth : Nat) : List Char :=
  '\n' :: List.replicate (2 * depth) ' '

mutual

/-- A value on several lines. -/
def spread (depth : Nat) : Json → List Char
  | .array [] => ['[', ']']
  | .array elements => '[' :: (spreadElements (depth + 1) elements ++ lineAt depth ++ [']'])
  | .object [] => ['\x7b', '\x7d']
  | .object entries =>
      '\x7b' :: (spreadEntries (depth + 1) entries ++ lineAt depth ++ ['\x7d'])
  | other => scalarText plainPoint other

/-- The elements of an array on lines of their own. -/
def spreadElements (depth : Nat) : List Json → List Char
  | [] => []
  | [last] => lineAt depth ++ spread depth last
  | first :: rest => lineAt depth ++ spread depth first ++ [','] ++ spreadElements depth rest

/-- The entries of an object on lines of their own. -/
def spreadEntries (depth : Nat) : List (LooseText × Json) → List Char
  | [] => []
  | [(key, value)] => lineAt depth ++ quoted plainPoint key ++ ": ".toList ++ spread depth value
  | (key, value) :: rest =>
      lineAt depth ++ quoted plainPoint key ++ ": ".toList ++ spread depth value ++ [','] ++
        spreadEntries depth rest

end

mutual

/-- Whether no integer in a value has more digits than some number. -/
def keepsTo (limit : Nat) : Json → Bool
  | .integer value => (Nat.toDigits 10 value.natAbs).length ≤ limit
  | .array elements => elementsKeepTo limit elements
  | .object entries => entriesKeepTo limit entries
  | _ => true

/-- Whether no integer in some elements has more digits than some number. -/
def elementsKeepTo (limit : Nat) : List Json → Bool
  | [] => true
  | first :: rest => keepsTo limit first && elementsKeepTo limit rest

/-- Whether no integer in some entries has more digits than some number. -/
def entriesKeepTo (limit : Nat) : List (LooseText × Json) → Bool
  | [] => true
  | (_, value) :: rest => keepsTo limit value && entriesKeepTo limit rest

end

/-- Whether a value can be written: not if an integer in it has too many digits. -/
def isWritable (value : Json) : Bool :=
  keepsTo Decimal.maxDigits value

def line (value : Json) : String :=
  String.ofList (compact value)

def lines (value : Json) : String :=
  String.ofList (spread 0 value)

end SignatureLint.Json

import SignatureLint.Text.Class
import SignatureLint.Text.Search

/-!
# Quoted texts

A text or a sequence of octets is shown between quotes: single quotes unless it holds a single quote
and no double quote. Invisible characters, backslashes and the enclosing quote are escaped.
-/

namespace SignatureLint.Quoted

/-- A number in hexadecimal, filled up with zeros to a number of digits. -/
def hex (digits value : Nat) : List Char :=
  let text := Nat.toDigits 16 value
  List.replicate (digits - text.length) '0' ++ text

/-- The escape of a code point, whether or not it needs one. -/
def escape (code : Nat) : List Char :=
  if code = 0x5C then ['\\', '\\']
  else if code = 10 then ['\\', 'n']
  else if code = 13 then ['\\', 'r']
  else if code = 9 then ['\\', 't']
  else if code < 0x100 then '\\' :: 'x' :: hex 2 code
  else if code < 0x10000 then '\\' :: 'u' :: hex 4 code
  else '\\' :: 'U' :: hex 8 code

def doubleQuote : Nat := 0x22

def singleQuote : Nat := 0x27

def enclosing (points : List Nat) : Nat :=
  if points.contains singleQuote && !points.contains doubleQuote then doubleQuote else singleQuote

/-- One code point inside the given quotes. -/
def point (visible : Nat → Bool) (quote code : Nat) : List Char :=
  if code = quote then ['\\', Char.ofNat code]
  else if code = 0x5C || !visible code then escape code
  else [Char.ofNat code]

def between (visible : Nat → Bool) (points : List Nat) : List Char :=
  let quote := enclosing points
  Char.ofNat quote :: (points.flatMap (point visible quote) ++ [Char.ofNat quote])

def points (text : List Nat) : List Char :=
  between Text.isPrintable text

def string (text : String) : String :=
  String.ofList (points (text.toList.map Char.toNat))

/-- Octets between quotes, with the letter that marks them. -/
def octets (data : List UInt8) : List Char :=
  'b' :: between (fun code => 32 ≤ code && code < 127) (data.map UInt8.toNat)

end SignatureLint.Quoted

/-!
# Lines

The line conventions in use: reading a text file turns every line end into a line feed, source
segments keep the line ends of each line, and reports count lines of octets.
-/

namespace SignatureLint.Text

/-- Turn every line end, `\r\n` or a lone `\r`, into a line feed. -/
def normalizeNewlines : List Char → List Char
  | [] => []
  | '\r' :: '\n' :: rest => '\n' :: normalizeNewlines rest
  | '\r' :: rest => '\n' :: normalizeNewlines rest
  | c :: rest => c :: normalizeNewlines rest

/-- Put a character at the front of the first line. -/
def consLine {α : Type} (c : α) : List (List α) → List (List α)
  | [] => [[c]]
  | line :: lines => (c :: line) :: lines

/-- The lines of a text, each with its line end; a text that ends in a line end has no empty line
after it. -/
def linesWithEnds : List Char → List (List Char)
  | [] => []
  | '\r' :: '\n' :: rest => ['\r', '\n'] :: linesWithEnds rest
  | '\r' :: rest => ['\r'] :: linesWithEnds rest
  | '\n' :: rest => ['\n'] :: linesWithEnds rest
  | c :: rest => consLine c (linesWithEnds rest)

/-- The lines of a sequence of octets, without their line ends. -/
def octetLines : List UInt8 → List (List UInt8)
  | [] => []
  | 13 :: 10 :: rest => [] :: octetLines rest
  | 13 :: rest => [] :: octetLines rest
  | 10 :: rest => [] :: octetLines rest
  | b :: rest => consLine b (octetLines rest)

end SignatureLint.Text

import SignatureLint.Syntax.Position
import SignatureLint.Text.Lines
import SignatureLint.Text.Utf8

/-!
# Source texts by lines

A source text is kept as its lines with their line ends, so that the part in any
range can be cut out.
-/

namespace SignatureLint

/-- A source text as its lines, each with its line end. -/
structure Source where
  lines : Array (List Char)
  deriving Repr, Inhabited

namespace Source

def ofText (text : List Char) : Source :=
  ⟨(Text.linesWithEnds text).toArray⟩

/-- Split a text after a number of octets; a character that the number cuts goes to the second
part. -/
def splitOctets : Nat → List Char → List Char × List Char
  | _, [] => ([], [])
  | count, c :: rest =>
      if Utf8.charWidth c ≤ count then
        let (before, after) := splitOctets (count - Utf8.charWidth c) rest
        (c :: before, after)
      else ([], c :: rest)

def line (source : Source) (number : Nat) : List Char :=
  source.lines.getD (number - 1) []

def segment (source : Source) (range : Range) : List Char :=
  let first := source.line range.start.line
  let last := source.line range.stop.line
  if range.start.line = range.stop.line then
    (splitOctets (range.stop.column - range.start.column)
      (splitOctets range.start.column first).2).1
  else
    let between := (source.lines.toList.take (range.stop.line - 1)).drop range.start.line
    (splitOctets range.start.column first).2 ++ between.flatten ++
      (splitOctets range.stop.column last).1

end Source

end SignatureLint

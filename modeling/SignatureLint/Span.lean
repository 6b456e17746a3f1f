import SignatureLint.Syntax.Position

/-!
# Spans

A part of a named file.  Lines count from one, columns are octets from zero, and
the end is not included.  A span that was handed in from elsewhere need not fit
any text, so its numbers are arbitrary.
-/

namespace SignatureLint

/-- A part of a file. -/
structure Span where
  path : String
  startLine : Int
  startColumn : Int
  endLine : Int
  endColumn : Int
  deriving DecidableEq, Repr, Inhabited

namespace Span

def ofRange (path : String) (range : Range) : Span :=
  ⟨path, range.start.line, range.start.column, range.stop.line, range.stop.column⟩

/-- The place where a span begins, as people count. -/
def display (span : Span) : String :=
  s!"{span.path}:{span.startLine}:{span.startColumn + 1}"

end Span

end SignatureLint

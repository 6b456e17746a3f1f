import SignatureLint.Issue
import SignatureLint.Span

/-!
# Diagnostics

One reported problem, and the edit that would mend it.
-/

namespace SignatureLint

/-- Put a replacement in the place of the text that is expected there. -/
structure Edit where
  span : Span
  expected : String
  replacement : String
  name : String
  /-- Whether the edit may be applied without asking. -/
  autoFix : Bool
  deriving DecidableEq, Repr, Inhabited

/-- One reported problem. -/
structure Diagnostic where
  issue : Issue
  location : Span
  message : String
  fix : Option Edit := none
  deriving DecidableEq, Repr, Inhabited

namespace Diagnostic

/-- The edit of a diagnostic, if it may be applied without asking. -/
def autoFix? (diagnostic : Diagnostic) : Option Edit :=
  diagnostic.fix.filter (·.autoFix)

/-- The edits that may be applied without asking. -/
def fixableEdits (diagnostics : List Diagnostic) : List Edit :=
  diagnostics.filterMap autoFix?

end Diagnostic

end SignatureLint

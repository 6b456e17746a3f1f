import SignatureLint.Span

/-!
# The order of places

The places of a file are ordered by their lines, and on one line by their columns.  A span is in
order if it does not end before it begins.
-/

namespace SignatureLint.Span

/-- A line and a column that do not come after others. -/
def NotAfter (line column line' column' : Int) : Prop :=
  line < line' ∨ line = line' ∧ column ≤ column'

/-- A span that does not end before it begins. -/
def Forward (span : Span) : Prop :=
  NotAfter span.startLine span.startColumn span.endLine span.endColumn

/-- A span of which lines count from one and columns from zero. -/
structure Counted (span : Span) : Prop where
  startLine : 1 ≤ span.startLine
  startColumn : 0 ≤ span.startColumn
  endLine : 1 ≤ span.endLine
  endColumn : 0 ≤ span.endColumn

/-- A span that lies within another one of the same file. -/
structure Within (inner outer : Span) : Prop where
  path : inner.path = outer.path
  start : NotAfter outer.startLine outer.startColumn inner.startLine inner.startColumn
  stop : NotAfter inner.endLine inner.endColumn outer.endLine outer.endColumn

theorem NotAfter.refl (line column : Int) : NotAfter line column line column :=
  .inr ⟨rfl, Int.le_refl _⟩

instance (line column line' column' : Int) : Decidable (NotAfter line column line' column') :=
  inferInstanceAs (Decidable (line < line' ∨ line = line' ∧ column ≤ column'))

instance (span : Span) : Decidable span.Forward :=
  inferInstanceAs (Decidable (NotAfter ..))

end SignatureLint.Span

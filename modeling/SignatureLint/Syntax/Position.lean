/-!
# Positions in a source text

Lines count from one and columns from zero; a column is a number of UTF-8 octets.
-/

namespace SignatureLint

/-- A place between two characters of a source text. -/
structure Position where
  line : Nat
  column : Nat
  deriving DecidableEq, Repr, Inhabited

/-- The part of a source text between two places. -/
structure Range where
  start : Position
  stop : Position
  deriving DecidableEq, Repr, Inhabited

/-- A value with the part of the source text that spells it. -/
structure Located (α : Type) where
  value : α
  range : Range
  deriving Repr, Inhabited

end SignatureLint

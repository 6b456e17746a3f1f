/-!
# Parts of a sequence of octets

A part is given by two bounds.  A negative bound counts from the end, and a bound
beyond an end is that end.
-/

namespace SignatureLint.Octets

/-- A bound in a sequence of some length; a negative one counts from the end. -/
def bound (length : Nat) (index : Int) : Nat :=
  if index < 0 then (index + length).toNat else min index.toNat length

def before (data : List UInt8) (stop : Int) : List UInt8 :=
  data.take (bound data.length stop)

def after (data : List UInt8) (start : Int) : List UInt8 :=
  data.drop (bound data.length start)

/-- The octets between two bounds. -/
def slice (data : List UInt8) (start stop : Int) : List UInt8 :=
  (before data stop).drop (bound data.length start)

end SignatureLint.Octets

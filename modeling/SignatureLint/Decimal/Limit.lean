/-!
# The length of integers

An integer with very many digits is neither read from a text nor written to one.
-/

namespace SignatureLint.Decimal

/-- The most digits that an integer in a text may have. -/
def maxDigits : Nat := 4300

/-- Whether an integer has no more digits than an integer in a text may have. -/
def isShort (value : Int) : Bool :=
  (Nat.toDigits 10 value.natAbs).length ≤ maxDigits

/-- The advice at the end of a complaint about an integer that is too long. -/
def tooLongAdvice : String :=
  "use sys.set_int_max_str_digits() to increase the limit"

/-- The complaint about an integer that is too long to be read. -/
def tooLongToRead (digits : Nat) : String :=
  s!"Exceeds the limit ({maxDigits} digits) for integer string conversion: " ++
    s!"value has {digits} digits; " ++ tooLongAdvice

/-- The complaint about an integer that is too long to be written. -/
def tooLongToWrite : String :=
  s!"Exceeds the limit ({maxDigits} digits) for integer string conversion; " ++ tooLongAdvice

end SignatureLint.Decimal

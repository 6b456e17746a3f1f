/-!
# Binary floating-point numbers

A decimal numeral is read as the nearest number of 53 significant bits, ties to even, and a number
is written with the fewest decimal digits that read back as it. All steps are exact.
-/

namespace SignatureLint

/-- A floating-point number: `significand * 2 ^ exponent` with a sign, an infinity, or no number. -/
inductive Binary64 where
  | finite (negative : Bool) (significand : Nat) (exponent : Int)
  | infinite (negative : Bool)
  | notANumber
  deriving DecidableEq, Repr, Inhabited

namespace Binary64

def minExponent : Int := -1074

def maxExponent : Int := 971

/-- A quotient rounded to the nearest integer, ties to even. -/
def roundQuotient (numerator denominator : Nat) : Nat :=
  let quotient := numerator / denominator
  let twice := 2 * (numerator % denominator)
  if twice < denominator then quotient
  else if denominator < twice then quotient + 1
  else quotient + quotient % 2

/-- `numerator / (denominator * 2 ^ exponent)` as a quotient of natural numbers. -/
def scale (numerator denominator : Nat) (exponent : Int) : Nat × Nat :=
  match exponent with
  | .ofNat n => (numerator, denominator * Nat.pow 2 n)
  | .negSucc n => (numerator * Nat.pow 2 (n + 1), denominator)

/-- The number nearest to a positive quotient. -/
def ofQuotient (negative : Bool) (numerator denominator : Nat) : Binary64 :=
  let guess : Int := max ((numerator.log2 : Int) - denominator.log2 - 53) minExponent
  let (high, low) := scale numerator denominator guess
  let exponent := if high / low < Nat.pow 2 53 then guess else guess + 1
  let (high, low) := scale numerator denominator exponent
  let rounded := roundQuotient high low
  let (significand, exponent) :=
    if rounded < Nat.pow 2 53 then (rounded, exponent) else (Nat.pow 2 52, exponent + 1)
  if exponent > maxExponent then infinite negative else finite negative significand exponent

/-- The number nearest to `digits * 10 ^ exponent`. -/
def ofDecimal (negative : Bool) (digits : Nat) (exponent : Int) : Binary64 :=
  let magnitude : Int := (Nat.toDigits 10 digits).length + exponent
  if digits = 0 || magnitude < -330 then finite negative 0 minExponent
  else if magnitude > 310 then infinite negative
  else match exponent with
    | .ofNat n => ofQuotient negative (digits * Nat.pow 10 n) 1
    | .negSucc n => ofQuotient negative digits (Nat.pow 10 (n + 1))

/-- The value as a quotient, without the sign. -/
def magnitude (significand : Nat) (exponent : Int) : Nat × Nat :=
  scale significand 1 (-exponent)

def toInt? : Binary64 → Option Int
  | finite negative significand exponent =>
      let (numerator, denominator) := magnitude significand exponent
      if numerator % denominator = 0 then
        let value : Int := (numerator / denominator : Nat)
        some (if negative then -value else value)
      else none
  | _ => none

/-- The decimal digits of a number and the position of the point: `0.digits * 10 ^ point`. -/
structure Digits where
  digits : List Char
  point : Int
  deriving DecidableEq, Repr

/-- A comparison of quotients of natural numbers. -/
def quotientLe (a b : Nat × Nat) : Bool :=
  a.1 * b.2 ≤ b.1 * a.2

/-- The bounds of the reals that round to `significand * 2 ^ exponent`, as quotients. -/
def roundingInterval (significand : Nat) (exponent : Int) : (Nat × Nat) × (Nat × Nat) :=
  let low :=
    if significand = Nat.pow 2 52 && exponent > minExponent then
      magnitude (4 * significand - 1) (exponent - 2)
    else magnitude (2 * significand - 1) (exponent - 1)
  (low, magnitude (2 * significand + 1) (exponent - 1))

def roundsTo (significand : Nat) (exponent : Int) (value : Nat × Nat) : Bool :=
  let (low, high) := roundingInterval significand exponent
  if significand % 2 = 0 then quotientLe low value && quotientLe value high
  else !quotientLe value low && !quotientLe high value

def decimalQuotient (count : Nat) (exponent : Int) : Nat × Nat :=
  match exponent with
  | .ofNat n => (count * Nat.pow 10 n, 1)
  | .negSucc n => (count, Nat.pow 10 (n + 1))

/-- The decimal position of a quotient: the least `point` with `value < 10 ^ point`, searched
upwards from a lower bound. -/
def decimalPoint (value : Nat × Nat) : (steps : Nat) → (point : Int) → Int
  | 0, point => point
  | steps + 1, point =>
      if quotientLe (decimalQuotient 1 point) value then decimalPoint value steps (point + 1)
      else point

/-- The neighbours of a value on the grid of multiples of `10 ^ exponent`; of those that round back
the nearer one, the even one of two equally near ones. -/
def gridChoice? (significand : Nat) (exponent : Int) (value : Nat × Nat) (grid : Int) :
    Option Nat :=
  let (unit, unitDenominator) := decimalQuotient 1 grid
  let numerator := value.1 * unitDenominator
  let denominator := value.2 * unit
  let below := numerator / denominator
  let rest := numerator % denominator
  let fits (count : Nat) : Bool :=
    count != 0 && roundsTo significand exponent (decimalQuotient count grid)
  let first := if 2 * rest < denominator || (2 * rest = denominator && below % 2 = 0)
    then below else below + 1
  let second := if first = below then below + 1 else below
  if fits first then some first else if fits second then some second else none

/-- The first grid, from `digits` significant digits on, that has a point that rounds back. -/
def shortestFrom (significand : Nat) (exponent : Int) (value : Nat × Nat) (point : Int) :
    (tries digits : Nat) → Nat × Int
  | 0, digits => (0, point - digits)
  | tries + 1, digits =>
      match gridChoice? significand exponent value (point - digits) with
      | some count => (count, point - digits)
      | none => shortestFrom significand exponent value point tries (digits + 1)

/-- The fewest digits that read back, of those the nearest. -/
def shortest (significand : Nat) (exponent : Int) : Digits :=
  if significand = 0 then ⟨['0'], 1⟩
  else
    let value := magnitude significand exponent
    let guess : Int := (((value.1.log2 : Int) - value.2.log2 - 1) * 30103) / 100000 - 1
    let point := decimalPoint value 8 guess
    let (count, grid) := shortestFrom significand exponent value point 18 1
    let digits := Nat.toDigits 10 count
    let trimmed := (digits.reverse.dropWhile (· == '0')).reverse
    ⟨trimmed, digits.length + grid⟩

/-- How a number is laid out: whether whole numbers show a fraction. -/
structure Style where
  /-- Whole numbers end in `.0`. -/
  wholeFraction : Bool

/-- An exponent: a sign and at least two digits. -/
def exponentText (exponent : Int) : List Char :=
  let digits := Nat.toDigits 10 exponent.natAbs
  'e' :: (if exponent < 0 then '-' else '+') ::
    (if digits.length < 2 then '0' :: digits else digits)

/-- Digits laid out: positional from `10 ^ -4` below `10 ^ 16`, with an exponent elsewhere. -/
def Digits.layout (style : Style) (value : Digits) : List Char :=
  if -4 < value.point && value.point ≤ 16 then
    if value.point ≤ 0 then
      '0' :: '.' :: (List.replicate (-value.point).toNat '0' ++ value.digits)
    else
      let whole := value.point.toNat
      let padded := value.digits ++ List.replicate (whole - value.digits.length) '0'
      let fraction := padded.drop whole
      padded.take whole ++
        (if fraction.isEmpty then if style.wholeFraction then ['.', '0'] else []
          else '.' :: fraction)
  else
    match value.digits with
    | [] => []
    | first :: rest =>
        (if rest.isEmpty then [first] else first :: '.' :: rest) ++ exponentText (value.point - 1)

/-- The text of a number. -/
def layout (style : Style) : Binary64 → List Char
  | finite negative significand exponent =>
      (if negative then ['-'] else []) ++ (shortest significand exponent).layout style
  | infinite negative => if negative then "-inf".toList else "inf".toList
  | notANumber => "nan".toList

/-- The text of a real number: whole numbers end in `.0`. -/
def text (value : Binary64) : List Char :=
  value.layout ⟨true⟩

end Binary64

end SignatureLint

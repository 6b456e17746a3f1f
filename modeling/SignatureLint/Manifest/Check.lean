import SignatureLint.Decimal.Limit
import SignatureLint.Json

/-!
# Checking JSON values

A check turns a JSON value into a value of the expected kind or tells everything
that is wrong with it, with the place of each fault.  Numbers and truth values
may be written in several ways, texts only as texts.
-/

namespace SignatureLint

/-- A step on the way to a part of a JSON value. -/
inductive Step where
  | field (name : String)
  | index (position : Nat)
  deriving DecidableEq, Repr

/-- What is wrong with a part of a JSON value. -/
inductive Fault where
  | missing
  | notRecord (kind : String)
  | notList
  | notText
  | notUnicode
  | notInteger
  | notIntegerText
  | notWhole
  | integerSize
  | notFinite
  | tooSmall (least : Int)
  | notBoolean
  | notBooleanText
  deriving DecidableEq, Repr

namespace Fault

def kind : Fault → String
  | missing => "missing"
  | notRecord _ => "model_type"
  | notList => "list_type"
  | notText => "string_type"
  | notUnicode => "string_unicode"
  | notInteger => "int_type"
  | notIntegerText => "int_parsing"
  | notWhole => "int_from_float"
  | integerSize => "int_parsing_size"
  | notFinite => "finite_number"
  | tooSmall _ => "greater_than_equal"
  | notBoolean => "bool_type"
  | notBooleanText => "bool_parsing"

def message : Fault → String
  | missing => "Field required"
  | notRecord kind => "Input should be a valid dictionary or instance of " ++ kind
  | notList => "Input should be a valid list"
  | notText => "Input should be a valid string"
  | notUnicode => "Input should be a valid string, unable to parse raw data as a unicode string"
  | notInteger => "Input should be a valid integer"
  | notIntegerText => "Input should be a valid integer, unable to parse string as an integer"
  | notWhole => "Input should be a valid integer, got a number with a fractional part"
  | integerSize => "Unable to parse input string as an integer, exceeded maximum size"
  | notFinite => "Input should be a finite number"
  | tooSmall least => s!"Input should be greater than or equal to {least}"
  | notBoolean => "Input should be a valid boolean"
  | notBooleanText => "Input should be a valid boolean, unable to interpret input"

end Fault

/-- A fault with its place. -/
structure Complaint where
  place : List Step
  fault : Fault
  deriving DecidableEq, Repr

/-- A checked value, or everything that is wrong with it. -/
inductive Checked (α : Type) where
  | valid (value : α)
  | invalid (complaints : List Complaint)
  deriving DecidableEq, Repr

namespace Checked

def fail {α : Type} (fault : Fault) : Checked α :=
  invalid [⟨[], fault⟩]

def map {α β : Type} (change : α → β) : Checked α → Checked β
  | valid value => valid (change value)
  | invalid complaints => invalid complaints

/-- Give a checked function its checked argument; the faults of both count. -/
def apply {α β : Type} (function : Checked (α → β)) (argument : Checked α) : Checked β :=
  match function, argument with
  | valid function, valid value => valid (function value)
  | valid _, invalid complaints => invalid complaints
  | invalid complaints, valid _ => invalid complaints
  | invalid first, invalid second => invalid (first ++ second)

/-- The faults of a part are faults of the whole, one step further away. -/
def under {α : Type} (step : Step) : Checked α → Checked α
  | valid value => valid value
  | invalid complaints =>
      invalid (complaints.map fun complaint => { complaint with place := step :: complaint.place })

end Checked

namespace Json

/-! ## Numbers -/

/-- A blank around a number in a text. -/
def isWhiteSpace (c : Char) : Bool :=
  let code := c.toNat
  (9 ≤ code && code ≤ 13) || (0x2000 ≤ code && code ≤ 0x200A) ||
    [0x20, 0x85, 0xA0, 0x1680, 0x2028, 0x2029, 0x202F, 0x205F, 0x3000].contains code

/-- Drop the blanks at both ends. -/
def trimWhiteSpace (text : List Char) : List Char :=
  ((text.dropWhile isWhiteSpace).reverse.dropWhile isWhiteSpace).reverse

/-- The value of a text of decimal digits that begins with no needless zero. -/
def plainNatural? (text : List Char) : Option Nat :=
  let digits (characters : List Char) : Bool := characters.all fun c => '0' ≤ c && c ≤ '9'
  match text with
  | ['0'] => some 0
  | '0' :: _ | [] => none
  | _ =>
      if digits text then
        some (text.foldl (fun value c => value * 10 + (c.toNat - 48)) 0)
      else none

/-- The value of an integer as it is written plainly. -/
def plainInteger? (text : List Char) : Option Int :=
  match text with
  | '-' :: rest => (plainNatural? rest).map fun value => -(value : Int)
  | _ => (plainNatural? text).map fun value => (value : Int)

/-- The number of characters of a text up to the end of the digits in front, with a sign. -/
def digitExtent (text : List Char) : Nat :=
  let isDigit (c : Char) : Bool := '0' ≤ c && c ≤ '9'
  match text with
  | '-' :: '0' :: _ | '0' :: _ => 1
  | '-' :: rest => (rest.takeWhile isDigit).length + 1
  | _ => (text.takeWhile isDigit).length

/-- Drop the zeros in front of a number, with the underscores among them.  A number that is nothing
else, or that has a fraction, keeps the last of them. -/
def dropZeros (before : Char) : List Char → Option (List Char)
  | [] => some [before]
  | c :: rest =>
      if c == '0' || c == '_' then dropZeros c rest
      else if '1' ≤ c && c ≤ '9' then some (c :: rest)
      else if c == '.' then some (before :: c :: rest)
      else none

/-- A number without needless zeros in front. -/
def withoutLeadingZeros (text : List Char) : Option (List Char) :=
  match text with
  | '0' :: rest => dropZeros '0' rest
  | c :: _ => if ('1' ≤ c && c ≤ '9') || c == '-' then some text else none
  | [] => none

/-- A number without a fraction that is zero. -/
def withoutFraction (text : List Char) : Option (List Char) :=
  match text.dropWhile (· != '.') with
  | [] => some text
  | _ :: fraction =>
      if fraction.isEmpty || fraction.any (· != '0') then none
      else some (text.takeWhile (· != '.'))

/-- Whether two underscores stand side by side. -/
def hasDoubleUnderscore : List Char → Bool
  | '_' :: '_' :: _ => true
  | _ :: rest => hasDoubleUnderscore rest
  | [] => false

/-- A number without the underscores between its digits. -/
def withoutUnderscores (text : List Char) : List Char :=
  if text.head? = some '_' || text.getLast? = some '_' || hasDoubleUnderscore text then text
  else text.filter (· != '_')

/-- A number that is written loosely, in its plain form. -/
def cleanInteger (text : List Char) : Option (List Char) := do
  let trimmed := trimWhiteSpace text
  let unsigned ← match trimmed with
    | '+' :: '-' :: _ => none
    | '+' :: rest => some rest
    | _ => some trimmed
  let whole ← withoutFraction (← withoutLeadingZeros unsigned)
  return withoutUnderscores whole

def integerOfText (text : List Char) : Checked Int :=
  if Decimal.maxDigits < digitExtent text then .fail .integerSize
  else
    match plainInteger? text with
    | some value => .valid value
    | none =>
        match cleanInteger text with
        | none => .fail .notIntegerText
        | some clean =>
            if Decimal.maxDigits < digitExtent clean then .fail .notIntegerText
            else
              match plainInteger? clean with
              | some value => .valid value
              | none => .fail .notIntegerText

/-- The bound, the 63rd power of two, below which whole numbers with a fraction are taken for
integers. -/
def wholeBound : Int := 9223372036854775808

/-- The integer that a number with a fraction is. -/
def integerOfReal (value : Binary64) : Checked Int :=
  match value with
  | .finite .. =>
      match value.toInt? with
      | none => .fail .notWhole
      | some whole =>
          if -wholeBound < whole && whole < wholeBound then .valid whole else .fail .integerSize
  | _ => .fail .notFinite

def checkInteger : Json → Checked Int
  | .boolean value => .valid (if value then 1 else 0)
  | .integer value => .valid value
  | .real value => integerOfReal value
  | .text (.clean string) => integerOfText string.toList
  | .text (.broken _) => .fail .notUnicode
  | _ => .fail .notInteger

/-- An integer that is not less than a bound. -/
def checkAtLeast (least : Int) (json : Json) : Checked Int :=
  match checkInteger json with
  | .valid value => if value < least then .fail (.tooSmall least) else .valid value
  | failed => failed

/-! ## Truth values -/

/-- The texts of the truth values. -/
def booleanTexts : List (String × Bool) :=
  [("0", false), ("off", false), ("f", false), ("false", false), ("n", false), ("no", false),
    ("1", true), ("on", true), ("t", true), ("true", true), ("y", true), ("yes", true)]

/-- The truth value that an integer stands for. -/
def booleanOfInteger (value : Int) : Checked Bool :=
  if value = 0 then .valid false
  else if value = 1 then .valid true
  else if -wholeBound ≤ value && value < wholeBound then .fail .notBooleanText
  else .fail .notBoolean

/-- A truth value. -/
def checkBoolean : Json → Checked Bool
  | .boolean value => .valid value
  | .integer value => booleanOfInteger value
  | .real value =>
      match integerOfReal value with
      | .valid whole => booleanOfInteger whole
      | .invalid _ => .fail .notBoolean
  | .text (.clean string) =>
      match booleanTexts.lookup (String.ofList (string.toList.map Char.toLower)) with
      | some value => .valid value
      | none => .fail .notBooleanText
  | .text (.broken _) => .fail .notUnicode
  | _ => .fail .notBoolean

/-! ## Texts, lists and records -/

def checkText : Json → Checked String
  | .text (.clean string) => .valid string
  | .text (.broken _) => .fail .notUnicode
  | _ => .fail .notText

/-- A value that may be absent. -/
def checkOptional {α : Type} (check : Json → Checked α) : Json → Checked (Option α)
  | .null => .valid none
  | json => (check json).map some

def checkElements {α : Type} (check : Json → Checked α) (position : Nat) :
    List Json → Checked (List α)
  | [] => .valid []
  | first :: rest =>
      Checked.apply (((check first).under (.index position)).map List.cons)
        (checkElements check (position + 1) rest)

def checkList {α : Type} (check : Json → Checked α) : Json → Checked (List α)
  | .array elements => checkElements check 0 elements
  | _ => .fail .notList

def checkRecord {α : Type} (kind : String) (check : List (LooseText × Json) → Checked α) :
    Json → Checked α
  | .object entries => check entries
  | _ => .fail (.notRecord kind)

/-- A field that must be there. -/
def required {α : Type} (name : String) (check : Json → Checked α)
    (entries : List (LooseText × Json)) : Checked α :=
  match lookup? name entries with
  | none => (Checked.fail .missing).under (.field name)
  | some json => (check json).under (.field name)

def withDefault {α : Type} (name : String) (default : α) (check : Json → Checked α)
    (entries : List (LooseText × Json)) : Checked α :=
  match lookup? name entries with
  | none => .valid default
  | some json => (check json).under (.field name)

end Json

end SignatureLint

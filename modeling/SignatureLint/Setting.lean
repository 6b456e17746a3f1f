import SignatureLint.Calendar
import SignatureLint.Decimal.Limit
import SignatureLint.Json
import SignatureLint.Text.Quoted

/-!
# Settings

The values that a configuration is written in.  A setting has a plain text, and
an exact one in which texts are quoted, unless an integer in it is too long.
-/

namespace SignatureLint

/-- A value of a configuration. -/
inductive Setting where
  | absent
  | boolean (value : Bool)
  | integer (value : Int)
  | real (value : Binary64)
  | text (value : String)
  | date (day : Date)
  | time (clock : TimeOfDay)
  /-- A day and a time, with an offset in minutes from universal time. -/
  | moment (day : Date) (clock : TimeOfDay) (offset : Option Int)
  | list (elements : List Setting)
  | table (entries : List (String × Setting))
  deriving Inhabited

namespace Setting

/-- The name of the kind of a setting, with the module that it belongs to. -/
def kindPath : Setting → String
  | absent => "NoneType"
  | boolean _ => "bool"
  | integer _ => "int"
  | real _ => "float"
  | text _ => "str"
  | date _ => "datetime.date"
  | time _ => "datetime.time"
  | moment .. => "datetime.datetime"
  | list _ => "list"
  | table _ => "dict"

def kind (setting : Setting) : String :=
  String.ofList (Text.lastSegment setting.kindPath.toList)

/-- Numbers with commas between them. -/
def numbers (values : List Nat) : String :=
  String.intercalate ", " (values.map fun value => toString value)

mutual

def exact : Setting → String
  | .absent => "None"
  | .boolean value => if value then "True" else "False"
  | .integer value => toString value
  | .real value => String.ofList value.text
  | .text value => Quoted.string value
  | .date day => "datetime.date(" ++ numbers day.parts ++ ")"
  | .time clock => "datetime.time(" ++ numbers clock.parts ++ ")"
  | .moment day clock offset =>
      let zone := match offset with
        | none => ""
        | some minutes => ", tzinfo=" ++ Calendar.spellOffset minutes
      "datetime.datetime(" ++ numbers (day.parts ++ clock.parts) ++ zone ++ ")"
  | .list elements => "[" ++ exactElements elements ++ "]"
  | .table entries => "\x7b" ++ exactEntries entries ++ "\x7d"

def exactElements : List Setting → String
  | [] => ""
  | [last] => exact last
  | first :: rest => exact first ++ ", " ++ exactElements rest

/-- The exact texts of the entries of a table. -/
def exactEntries : List (String × Setting) → String
  | [] => ""
  | [(key, value)] => Quoted.string key ++ ": " ++ exact value
  | (key, value) :: rest =>
      Quoted.string key ++ ": " ++ exact value ++ ", " ++ exactEntries rest

end

mutual

/-- Whether a setting has a text at all: it has none if an integer in it has too many digits. -/
def isWritable : Setting → Bool
  | .integer value => Decimal.isShort value
  | .list elements => areWritable elements
  | .table entries => haveWritable entries
  | _ => true

/-- Whether all elements of a list have texts. -/
def areWritable : List Setting → Bool
  | [] => true
  | first :: rest => isWritable first && areWritable rest

/-- Whether the values of all entries of a table have texts. -/
def haveWritable : List (String × Setting) → Bool
  | [] => true
  | (_, value) :: rest => isWritable value && haveWritable rest

end

/-- The plain text of a setting. -/
def display : Setting → String
  | .text value => value
  | .date day => day.display
  | .time clock => clock.display
  | .moment day clock offset =>
      let zone := match offset with
        | none => ""
        | some minutes => Calendar.displayOffset minutes
      day.display ++ " " ++ clock.display ++ zone
  | other => other.exact

mutual

/-- The setting that a JSON value stands for. -/
def ofJson : Json → Setting
  | .null => .absent
  | .boolean value => .boolean value
  | .integer value => .integer value
  | .real value => .real value
  | .text value => .text value.display
  | .array elements => .list (ofElements elements)
  | .object entries => .table (ofEntries entries)

/-- The settings that the elements of a JSON array stand for. -/
def ofElements : List Json → List Setting
  | [] => []
  | first :: rest => ofJson first :: ofElements rest

/-- The settings that the entries of a JSON object stand for. -/
def ofEntries : List (LooseText × Json) → List (String × Setting)
  | [] => []
  | (key, value) :: rest => (key.display, ofJson value) :: ofEntries rest

end

end Setting

end SignatureLint

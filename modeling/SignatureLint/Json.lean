import SignatureLint.Decimal.Binary64
import SignatureLint.Text.Loose

/-!
# JSON values

The values of a JSON text.  The entries of an object keep their order, and no
two of them have the same key.
-/

namespace SignatureLint

inductive Json where
  | null
  | boolean (value : Bool)
  | integer (value : Int)
  | real (value : Binary64)
  | text (value : LooseText)
  | array (elements : List Json)
  | object (entries : List (LooseText × Json))
  deriving Inhabited

namespace Json

def string (value : String) : Json := .text (.clean value)

/-- The object with the given entries. -/
def record (entries : List (String × Json)) : Json :=
  .object (entries.map fun (key, value) => (LooseText.clean key, value))

/-- The value of a text that may be missing. -/
def optional {α : Type} (value : α → Json) : Option α → Json
  | none => .null
  | some inner => value inner

/-- The value at a key of a list of entries. -/
def lookup? (key : String) : List (LooseText × Json) → Option Json
  | [] => none
  | (name, value) :: rest => if name = .clean key then some value else lookup? key rest

/-- Set the value at a key: in its place if the key is there, at the end otherwise. -/
def put (entries : List (LooseText × Json)) (key : LooseText) (value : Json) :
    List (LooseText × Json) :=
  match entries with
  | [] => [(key, value)]
  | (name, old) :: rest =>
      if name = key then (name, value) :: rest else (name, old) :: put rest key value

end Json

end SignatureLint

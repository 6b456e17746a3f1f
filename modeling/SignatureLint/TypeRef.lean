import SignatureLint.NameSet
import SignatureLint.Span
import SignatureLint.Text.Search

/-!
# Type references

What a parameter's declared type comes to: the name that decides its family, its
arguments, whether it admits an absent value, and the markers on it.
-/

namespace SignatureLint

structure TypeRef where
  /-- The type as written. -/
  text : String
  /-- The last segment of the type's name. -/
  rawName : String
  arguments : List TypeRef := []
  nullable : Bool := false
  /-- The markers on the type, such as `Immutable`. -/
  markers : NameSet := ∅
  span : Option Span := none
  /-- The type without nullability and markers. -/
  coreText : String := ""

namespace TypeRef

/-- The part of a text from the first opening bracket to the last closing one. -/
def bracketed? (opening closing : Char) (text : List Char) : Option (List Char) :=
  let fromOpening := text.dropWhile (· != opening)
  let upToClosing := (fromOpening.reverse.dropWhile (· != closing)).reverse
  match fromOpening, upToClosing with
  | _ :: _, _ :: _ => some upToClosing
  | _, _ => none

/-- The arguments of a type as written, with their brackets. -/
def argumentText (type : TypeRef) : String :=
  let core := if type.coreText.isEmpty then type.text else type.coreText
  let trimmed := Text.trim core.toList
  match bracketed? '<' '>' trimmed with
  | some group => String.ofList group
  | none => String.ofList ((bracketed? '[' ']' trimmed).getD [])

end TypeRef

end SignatureLint

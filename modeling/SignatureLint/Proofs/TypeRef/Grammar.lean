import SignatureLint.TypeRef.Text

/-!
# The grammar of written types

A written type is a tree: markers, a dotted name, arguments in either kind of
brackets, and either sign of an absent value.  Every part carries the proof that
its characters are allowed there, so that each tree has a text and describes a
type.
-/

namespace SignatureLint.TypeRef

/-- A segment of a dotted name. -/
structure Segment where
  letters : List Char
  nonempty : letters ≠ []
  areWord : ∀ c ∈ letters, Text.isWord c = true

/-- Segments with full stops between them. -/
structure DottedName where
  /-- The segments before the last one. -/
  qualifiers : List Segment
  last : Segment

def DottedName.text (name : DottedName) : List Char :=
  name.qualifiers.flatMap (fun segment => segment.letters ++ ['.']) ++ name.last.letters

/-- A round, square or angle bracket. -/
def isBracket (c : Char) : Bool :=
  ['(', ')', '[', ']', '<', '>'].contains c

/-- What stands in the round brackets of a marker. -/
structure MarkerArgument where
  letters : List Char
  notBrackets : ∀ c ∈ letters, isBracket c = false

def MarkerArgument.text : Option MarkerArgument → List Char
  | none => []
  | some argument => '(' :: argument.letters ++ [')']

structure Marker where
  name : DottedName
  argument : Option MarkerArgument

/-- The text of a marker with the blank after it. -/
def Marker.text (marker : Marker) : List Char :=
  '@' :: marker.name.text ++ MarkerArgument.text marker.argument ++ [' ']

/-- The brackets around the arguments of a type. -/
inductive Brackets where
  | angle | square
  deriving DecidableEq, Repr

namespace Brackets

def opening : Brackets → Char
  | angle => '<'
  | square => '['

def closing : Brackets → Char
  | angle => '>'
  | square => ']'

/-- Some arguments in brackets; where there are none, there are no brackets. -/
def enclose (brackets : Brackets) : List (List Char) → List Char
  | [] => []
  | parts => brackets.opening :: Text.join [',', ' '] parts ++ [brackets.closing]

end Brackets

/-- The sign that an absent value is admitted. -/
inductive NullSign where
  | questionMark | alternative
  deriving DecidableEq, Repr

def NullSign.text : Option NullSign → List Char
  | none => []
  | some .questionMark => ['?']
  | some .alternative => ' ' :: "| None".toList

inductive TypeTree where
  | node (markers : List Marker) (name : DottedName) (brackets : Brackets)
      (arguments : List TypeTree) (sign : Option NullSign)

namespace TypeTree

mutual

def text : TypeTree → List Char
  | node markers name brackets arguments sign =>
      markers.flatMap Marker.text ++ (name.text ++ brackets.enclose (texts arguments)) ++
        NullSign.text sign

def texts : List TypeTree → List (List Char)
  | [] => []
  | first :: rest => first.text :: texts rest

end

/-- The text of a type without its markers and its sign of an absent value. -/
def core : TypeTree → List Char
  | node _ name brackets arguments _ => name.text ++ brackets.enclose (texts arguments)

mutual

def described : TypeTree → TypeRef
  | node markers name brackets arguments sign =>
      { text := String.ofList (node markers name brackets arguments sign).text
        rawName := String.ofList name.last.letters
        arguments := describedAll arguments
        nullable := sign.isSome
        markers :=
          NameSet.ofList (markers.map fun marker => String.ofList marker.name.last.letters)
        coreText := String.ofList (node markers name brackets arguments sign).core }

def describedAll : List TypeTree → List TypeRef
  | [] => []
  | first :: rest => first.described :: describedAll rest

end

end TypeTree

end SignatureLint.TypeRef

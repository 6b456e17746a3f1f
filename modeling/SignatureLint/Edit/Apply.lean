import SignatureLint.Diagnostic
import SignatureLint.Text.Octets
import SignatureLint.Text.Quoted
import SignatureLint.Text.Utf8

/-!
# Applying edits

Edits are applied to the octets of a text from the last one to the first one, so
that none moves another.  An edit whose expected text is not in its place, or
that overlaps another one, is refused together with all the others.
-/

namespace SignatureLint

/-- A conflict between an edit and the text, or between two edits. -/
inductive EditConflict where
  | lineOutside (line : Int)
  | unexpected (span : Span) (expected found : String)
  | overlap (offset : Int)
  deriving DecidableEq, Repr

def EditConflict.message : EditConflict → String
  | lineOutside line => s!"Line {line} is outside the source"
  | unexpected span expected found =>
      s!"{span.display}: expected {Quoted.string expected}, found {Quoted.string found}"
  | overlap offset => s!"Overlapping edits at byte offset {offset}"

/-- Why edits could not be applied. -/
inductive EditError where
  | conflict (conflict : EditConflict)
  /-- What the edits leave is no text. -/
  | malformed (error : Utf8.DecodeError)
  deriving DecidableEq, Repr

/-- The wording of a failure to apply edits. -/
def EditError.message : EditError → String
  | conflict found => found.message
  | malformed error => error.message

namespace Edit

/-- The offsets at which lines begin, given the offset of the octets to come. -/
def lineStartsFrom (offset : Nat) : List UInt8 → List Nat
  | [] => []
  | b :: rest =>
      if b = 10 then (offset + 1) :: lineStartsFrom (offset + 1) rest
      else lineStartsFrom (offset + 1) rest

/-- The offsets at which the lines of a text begin. -/
def lineStarts (data : List UInt8) : List Nat :=
  0 :: lineStartsFrom 0 data

def offset (starts : Array Nat) (line column : Int) : Except EditConflict Int :=
  if line < 1 then .error (.lineOutside line)
  else
    match starts[(line - 1).toNat]? with
    | none => .error (.lineOutside line)
    | some start => .ok (start + column)

/-- An edit with the octets that it replaces. -/
structure Placed where
  start : Int
  stop : Int
  edit : Edit
  deriving DecidableEq, Repr

/-- Find the octets that an edit replaces, and compare them with what it expects. -/
def place (data : List UInt8) (starts : Array Nat) (edit : Edit) :
    Except EditConflict Placed := do
  let start ← offset starts edit.span.startLine edit.span.startColumn
  let stop ← offset starts edit.span.endLine edit.span.endColumn
  let current := String.ofList (Utf8.decodeLenient (Octets.slice data start stop))
  if current = edit.expected then return ⟨start, stop, edit⟩
  else throw (.unexpected edit.span edit.expected current)

/-- The edits from the last start to the first one; equal starts keep their order. -/
def descending (placed : List Placed) : List Placed :=
  placed.mergeSort fun left right => right.start ≤ left.start

/-- Refuse an edit that reaches into the one after it. -/
def checkOverlap : List Placed → Except EditConflict Unit
  | later :: earlier :: rest =>
      if later.start < earlier.stop then .error (.overlap later.start)
      else checkOverlap (earlier :: rest)
  | _ => .ok ()

def replaceOctets (data : List UInt8) (placed : Placed) : List UInt8 :=
  Octets.before data placed.start ++ Utf8.encode placed.edit.replacement.toList ++
    Octets.after data placed.stop

/-- The octets that edits leave of a sequence of octets. -/
def applyOctets (data : List UInt8) (edits : List Edit) : Except EditConflict (List UInt8) := do
  let starts := (lineStarts data).toArray
  let placed ← edits.mapM (place data starts)
  let sorted := descending placed
  checkOverlap sorted
  return sorted.foldl replaceOctets data

/-- The text that edits leave of a text. -/
def applyAll (source : String) (edits : List Edit) : Except EditError String :=
  match applyOctets (Utf8.encode source.toList) edits with
  | .error conflict => .error (.conflict conflict)
  | .ok data =>
      match Utf8.decode data with
      | .error error => .error (.malformed error)
      | .ok text => .ok (String.ofList text)

end Edit

end SignatureLint

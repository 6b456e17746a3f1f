import SignatureLint.Edit.Apply
import SignatureLint.FileTree

/-!
# Mending files

The edits of diagnostics are applied file by file, in the order in which the
files first appear.  Files that were mended before a failure stay mended.
-/

namespace SignatureLint

/-- Why a file could not be mended. -/
inductive FixError where
  | io (error : IoError)
  | encoding (error : Utf8.DecodeError)
  | edit (error : EditError)
  deriving DecidableEq, Repr

/-- The wording of a failure to mend a file. -/
def FixError.message : FixError → String
  | io error => error.message
  | encoding error => error.message
  | edit error => error.message

namespace Edit

/-- Add an edit to the group of its file, which is put at the end if there is none. -/
def insertByFile (edit : Edit) : List (String × List Edit) → List (String × List Edit)
  | [] => [(edit.span.path, [edit])]
  | (path, edits) :: rest =>
      if path = edit.span.path then (path, edits ++ [edit]) :: rest
      else (path, edits) :: insertByFile edit rest

/-- The edits of each file, in the order in which the files first appear. -/
def byFile (edits : List Edit) : List (String × List Edit) :=
  edits.foldl (fun groups edit => edit.insertByFile groups) []

/-- The octets that edits leave of the octets of a file.  A mark in front stays where it is. -/
def applyToFile (octets : List UInt8) (edits : List Edit) : Except FixError (List UInt8) := do
  let (mark, rest) := Utf8.splitMark octets
  let text ← (Utf8.decode rest).mapError .encoding
  let edited ← (applyAll (String.ofList text) edits).mapError .edit
  return mark ++ Utf8.encode edited.toList

end Edit

namespace FileTree

def fixFile (tree : FileTree) (path : String) (edits : List Edit) : Except FixError FileTree := do
  let path := Pathname.ofString path
  let octets ← (tree.read path).mapError .io
  let edited ← Edit.applyToFile octets edits
  (tree.write path edited).mapError .io

/-- Apply the edits of each file, and tell how many were applied to it. -/
def fixFiles (tree : FileTree) :
    List (String × List Edit) → FileTree × Except FixError (List (String × Nat))
  | [] => (tree, .ok [])
  | (path, edits) :: rest =>
      match tree.fixFile path edits with
      | .error error => (tree, .error error)
      | .ok next =>
          let (final, applied) := next.fixFiles rest
          (final, applied.map ((path, edits.length) :: ·))

/-- Apply the edits of diagnostics that may be applied without asking. -/
def fix (tree : FileTree) (diagnostics : List Diagnostic) :
    FileTree × Except FixError (List (String × Nat)) :=
  tree.fixFiles (Edit.byFile (Diagnostic.fixableEdits diagnostics))

end FileTree

end SignatureLint

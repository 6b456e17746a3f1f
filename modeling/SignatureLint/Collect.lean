import SignatureLint.FileTree

/-!
# Collecting files

A directory stands for the files of source code below it, apart from those in
directories that hold other things.  No file is collected twice, even if several
path names lead to it.
-/

namespace SignatureLint

namespace Collect

/-- Names of directories that are left out. -/
def skippedDirectories : List String :=
  ["venv", ".venv", "__pycache__", "node_modules", "build", "dist"]

/-- Whether a directory of some name is left out. -/
def isSkipped (name : String) : Bool :=
  name.toList.head? == some '.' || skippedDirectories.contains name

/-- The ending of names of source files. -/
def isSourceName (name : String) : Bool :=
  ['.', 'p', 'y'].isSuffixOf name.toList

/-- Whether a place below a directory is that of a source file outside directories that are left
out. -/
def isCandidate (place : Place) : Bool :=
  (place.getLast?.any isSourceName) && !place.dropLast.any isSkipped

/-- The order of places: by the first name that differs. -/
def precedes : (left right : Place) → Bool
  | [], _ => true
  | _ :: _, [] => false
  | name :: left, other :: right =>
      if name = other then precedes left right else decide (name < other)

/-- The path names that one path name stands for. -/
def candidates (tree : FileTree) (path : Pathname) : List Pathname :=
  match tree.directory? path with
  | none => [path]
  | some directory =>
      let places := ((tree.below directory).filter isCandidate).mergeSort precedes
      places.map path.descend

/-- Keep the path names that lead to places that are not among those seen before. -/
def unseen (tree : FileTree) : (seen : List Place) → List Pathname → List Pathname
  | _, [] => []
  | seen, path :: rest =>
      let place := tree.resolve path
      if seen.contains place then unseen tree seen rest
      else path :: unseen tree (place :: seen) rest

end Collect

/-- The path names of the source files that path names stand for, in order and without
repetition. -/
def FileTree.collect (tree : FileTree) (paths : List Pathname) : List Pathname :=
  Collect.unseen tree [] (paths.flatMap (Collect.candidates tree))

/-- The path names of the source files that path names stand for, or why the place of one of them
cannot be told. -/
def FileTree.collectChecked (tree : FileTree) (paths : List Pathname) :
    Except PlaceError (List Pathname) :=
  match (paths.flatMap (Collect.candidates tree)).findSome? tree.placeError? with
  | some error => .error error
  | none => .ok (tree.collect paths)

end SignatureLint

/-!
# Path names

A path name is a root and the names on the way.  Empty names and single full
stops say nothing and are left out; two full stops are kept.
-/

namespace SignatureLint

structure Pathname where
  /-- The slashes in front: none, one, or exactly two. -/
  root : String
  names : List String
  deriving DecidableEq, Repr, Inhabited

namespace Pathname

/-- Cut a text at every slash. -/
def segments : List Char → List Char × List (List Char)
  | [] => ([], [])
  | c :: rest =>
      let (first, later) := segments rest
      if c == '/' then ([], first :: later) else (c :: first, later)

/-- Read a path name. -/
def ofString (text : String) : Pathname :=
  let characters := text.toList
  let slashes := (characters.takeWhile (· == '/')).length
  let root := if slashes = 0 then "" else if slashes = 2 then "//" else "/"
  let (first, later) := segments characters
  let names := (first :: later).map String.ofList
  ⟨root, names.filter fun name => name != "" && name != "."⟩

/-- The text of a path name; the name of the current directory is a full stop. -/
def display (path : Pathname) : String :=
  let body := String.intercalate "/" path.names
  if path.root.isEmpty && path.names.isEmpty then "." else path.root ++ body

/-- The path name of something that further names lead to. -/
def descend (path : Pathname) (names : List String) : Pathname :=
  { path with names := path.names ++ names }

/-- Whether a path name holds a null character. -/
def hasNull (path : Pathname) : Bool :=
  path.names.any (·.toList.contains '\x00')

end Pathname

end SignatureLint

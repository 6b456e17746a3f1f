import SignatureLint.Command
import Std.Time.DateTime.Timestamp

/-!
# The program

Files are read into a file tree, the program runs on it, and what it changed is
written back.
-/

namespace SignatureLint.Main

/-- The place of a path name without links. -/
def placeOf (path : String) : Place :=
  (Pathname.ofString path).names

/-- The text of the path name of a place. -/
def pathOf (place : Place) : String :=
  Pathname.display ⟨"/", place⟩

/-- A place where nothing stands, for links that lead nowhere. -/
def nowhere : Pathname := ⟨"/", [""]⟩

/-- Read a file; one that cannot be read is left out. -/
def readFile (tree : FileTree) (path : String) : IO FileTree := do
  try
    let octets ← IO.FS.readBinFile path
    return tree.set (placeOf path) (.file octets.toList)
  catch _ => return tree

def readLink (tree : FileTree) (path : String) : IO FileTree := do
  try
    let target ← IO.FS.realPath path
    return tree.set (placeOf path) (.link (Pathname.ofString target.toString))
  catch _ => return tree.set (placeOf path) (.link nowhere)

/-- Read a directory and everything below it, apart from directories that are never searched. -/
partial def readDirectory (tree : FileTree) (path : String) : IO FileTree := do
  let mut tree := tree.set (placeOf path) .directory
  for entry in ← (← IO.FS.realPath path).readDir do
    let below := entry.path.toString
    match (← entry.path.symlinkMetadata).type with
    | .dir =>
        if Collect.isSkipped entry.fileName then tree := tree.set (placeOf below) .directory
        else tree ← readDirectory tree below
    | .file => tree ← readFile tree below
    | .symlink => tree ← readLink tree below
    | .other => pure ()
  return tree

def withDirectoriesAbove (tree : FileTree) (place : Place) : FileTree :=
  (List.range place.length).foldl (fun tree count =>
    match tree.node? (place.take count) with
    | none => tree.set (place.take count) .directory
    | some _ => tree) tree

/-- Read what an argument names, if it names anything on the disk. -/
def readArgument (tree : FileTree) (argument : String) : IO FileTree := do
  try
    let real ← IO.FS.realPath argument
    let path := real.toString
    let tree := withDirectoriesAbove tree (placeOf path)
    if (tree.node? (placeOf path)).any (· != .directory) then return tree
    else if ← real.isDir then readDirectory tree path
    else readFile tree path
  catch _ => return tree

/-- Read the current directory and what the arguments name. -/
def readFiles (arguments : List String) : IO FileTree := do
  let here := (← IO.currentDir).toString
  let start : FileTree := { current := placeOf here }
  let tree ← readDirectory (withDirectoriesAbove start (placeOf here)) here
  arguments.foldlM readArgument tree

/-- Write the files and make the directories that changed. -/
def writeChanges (before after : FileTree) : IO Unit := do
  let changed := after.nodes.filter fun (place, node) => before.node? place != some node
  for (place, node) in changed do
    match node with
    | .directory => IO.FS.createDirAll (pathOf place)
    | _ => pure ()
  for (place, node) in changed do
    match node with
    | .file octets => IO.FS.writeBinFile (pathOf place) ⟨octets.toArray⟩
    | _ => pure ()

/-- What the clock says, for a run that began at some count of milliseconds. -/
def readClock (begun : Nat) : IO Clock := do
  let now ← Std.Time.Timestamp.now
  let microseconds := now.toNanosecondsSinceUnixEpoch.val.toNat / 1000
  return {
    today := Date.ofDays (microseconds / 86400000000)
    time := TimeOfDay.ofMicroseconds (microseconds % 86400000000)
    elapsed := (← IO.monoMsNow) - begun }

end SignatureLint.Main

section

attribute [local instance] SignatureLint.Wordings.short

open SignatureLint in
/-- Run the program with the arguments of the command line. -/
def main (arguments : List String) : IO UInt32 := do
  let begun ← IO.monoMsNow
  let before ← Main.readFiles arguments
  let outcome := Command.execute arguments before (← Main.readClock begun)
  Main.writeChanges before outcome.tree
  IO.print outcome.output
  match outcome.failure with
  | none => pure ()
  | some failure => IO.eprintln failure.message
  return outcome.exitCode.toUInt32

end

import SignatureLint.FileTree
import SignatureLint.Report

/-!
# Lines of reported files

The columns of a report are counted in the lines of the files as they are when
the report is made.
-/

namespace SignatureLint

def FileTree.lines? (tree : FileTree) (path : String) :
    Option (String × Array (List UInt8)) :=
  match tree.find? (Pathname.ofString path) with
  | some (.file octets) => some (path, SourceLines.ofOctets octets)
  | _ => none

def FileTree.sourceLines (tree : FileTree) (diagnostics : List Diagnostic) : SourceLines :=
  let paths := diagnostics.map (·.location.path)
  ⟨paths.eraseDups.filterMap tree.lines?⟩

end SignatureLint

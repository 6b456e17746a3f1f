import SignatureLint.FileTree
import SignatureLint.Manifest
import SignatureLint.Text.Lines
import SignatureLint.Text.Utf8

/-!
# Manifest files

A manifest is read from a file of UTF-8 text.
-/

namespace SignatureLint

/-- Why a file holds no manifest. -/
inductive ManifestFileError where
  | unreadable (path : Pathname) (error : IoError)
  /-- The path name of the file holds a null character. -/
  | nullCharacter
  | encoding (error : Utf8.DecodeError)
  | manifest (path : Pathname) (text : String) (failure : ManifestFailure)

/-- The wording of a failure to read a manifest file. -/
def ManifestFileError.message [Wordings] : ManifestFileError → String
  | unreadable path error => "Cannot read manifest " ++ path.display ++ ": " ++ error.message
  | nullCharacter => IoFault.nullCharacter.message
  | encoding error => error.message
  | manifest path text failure => failure.message path.display text

/-- The outlines of the files that the manifest in a file describes. -/
def FileTree.manifest (tree : FileTree) (path : Pathname) :
    Except ManifestFileError (List FileOutline) := do
  let octets ← (tree.read path).mapError fun error =>
    if error.fault = .nullCharacter then .nullCharacter else .unreadable path error
  let characters ← (Utf8.decode octets).mapError .encoding
  let text := String.ofList (Text.normalizeNewlines characters)
  (Manifest.read text).mapError (.manifest path text)

end SignatureLint

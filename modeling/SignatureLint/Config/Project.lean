import SignatureLint.Config.Mapping
import SignatureLint.FileTree
import SignatureLint.Text.Utf8
import SignatureLint.Toml.Document
import SignatureLint.Wordings

/-!
# Configuration files

A configuration file is a TOML document in which one table describes the
configuration.  Without that table everything has its default.
-/

namespace SignatureLint

/-- Why a file holds no configuration. -/
inductive ProjectError where
  | unreadable (path : Pathname) (error : IoError)
  /-- The path name of the file holds a null character. -/
  | nullCharacter
  | encoding (error : Utf8.DecodeError)
  /-- The text of the file is no TOML. -/
  | malformed (path : Pathname) (text : List Char)
  /-- An integer has too many digits to be read. -/
  | longInteger (digits : Nat)
  /-- The table of tools is no table, but a setting of the named kind. -/
  | tools (kind : String)
  /-- The table for this program is no table. -/
  | table
  | entry (error : ConfigError)

/-- The wording of a failure to read a configuration file. -/
def ProjectError.message [Wordings] : ProjectError → String
  | unreadable path error => "Cannot read " ++ path.display ++ ": " ++ error.message
  | nullCharacter => IoFault.nullCharacter.message
  | encoding error => error.message
  | malformed path text => "Invalid TOML in " ++ path.display ++ ": " ++ Wordings.document text
  | longInteger digits => Decimal.tooLongToRead digits
  | tools kind => Quoted.string kind ++ " object has no attribute 'get'"
  | table => "[tool.compose-lint] must be a table"
  | entry error => error.message

namespace Config

def ofProject (settings : List (String × Setting)) : Except ProjectError Config :=
  match settings.lookup "tool" with
  | none => .ok {}
  | some (.table tools) =>
      match tools.lookup "compose-lint" with
      | none => .ok {}
      | some (.table entries) => (ofTable entries).mapError .entry
      | some _ => .error .table
  | some other => .error (.tools other.kindPath)

/-- The configuration in a TOML document that is read from a path. -/
def ofDocument (path : Pathname) (octets : List UInt8) : Except ProjectError Config := do
  let text ← (Utf8.decode octets).mapError .encoding
  match Toml.read text with
  | .error .malformed => throw (.malformed path text)
  | .error (.longInteger digits) => throw (.longInteger digits)
  | .ok settings => ofProject settings

end Config

namespace FileTree

def config (tree : FileTree) (path : Pathname) : Except ProjectError Config := do
  let octets ← (tree.read path).mapError fun error =>
    if error.fault = .nullCharacter then .nullCharacter else .unreadable path error
  Config.ofDocument path octets

def projectFile : Pathname := ⟨"", ["pyproject.toml"]⟩

/-- The configuration in a file that was asked for, or else in the file of the current directory,
if there is one. -/
def configOrDefault (tree : FileTree) : Option Pathname → Except ProjectError Config
  | some path => tree.config path
  | none => if tree.isFile projectFile then tree.config projectFile else .ok {}

end FileTree

end SignatureLint

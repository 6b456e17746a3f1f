/-!
# Wordings

What the language and its libraries say of a text that they refuse.  Nothing here
depends on the words, but they are printed, and what is printed is markup.
-/

namespace SignatureLint

/-- The wordings for texts that are refused. -/
class Wordings where
  /-- Why the text of a file is no program. -/
  program (path : String) (text : List Char) : String
  /-- A text that is no program is never refused without a word. -/
  program_ne_empty (path : String) (text : List Char) : program path text ≠ ""
  /-- Why a text is no TOML. -/
  document (text : List Char) : String
  /-- What is wrong with a JSON text that is no manifest, one entry after the other. -/
  manifest (text : String) : String
  /-- Why a text is no literal. -/
  literal (text : List Char) : String

/-- Wordings that say next to nothing. -/
@[reducible]
def Wordings.short : Wordings where
  program _ _ := "<syntax error>"
  program_ne_empty _ _ := by decide
  document _ := ""
  manifest _ := ""
  literal _ := ""

end SignatureLint

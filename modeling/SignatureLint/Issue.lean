import SignatureLint.Text.Case

/-!
# Issues

The kinds of problems that are reported, with their documentation.
-/

namespace SignatureLint

/-- How serious a problem is. -/
inductive Severity where
  | error | warning | informational | ignore
  deriving DecidableEq, Repr, Inhabited

namespace Severity

def name : Severity → String
  | error => "error"
  | warning => "warning"
  | informational => "informational"
  | ignore => "ignore"

def ofName? (name : String) : Option Severity :=
  [error, warning, informational, ignore].find? (·.name = name)

end Severity

inductive Issue where
  | modifierWithoutDefault
  | unstableCollections
  deriving DecidableEq, Repr, Inhabited

namespace Issue

/-- Every issue, in the order in which rules run. -/
def all : List Issue := [modifierWithoutDefault, unstableCollections]

def id : Issue → String
  | modifierWithoutDefault => "ComposeModifierWithoutDefault"
  | unstableCollections => "ComposeUnstableCollections"

/-- An issue in a few words. -/
def brief : Issue → String
  | modifierWithoutDefault => "Missing Modifier default value"
  | unstableCollections => "Immutable collections should be used in Composables"

/-- What is wrong and what to do about it. -/
def explanation : Issue → String
  | modifierWithoutDefault =>
      "This @Composable function has a modifier parameter but it doesn't have a default value." ++
        "\n\nSee https://twitter.github.io/compose-rules/rules/" ++
        "#modifiers-should-have-default-parameters for more information."
  | unstableCollections =>
      "The Compose Compiler cannot infer the stability of a parameter typed as a raw collection," ++
        " even if the item type is stable. Use an immutable collection type or an @Immutable" ++
        " wrapper class instead.\n\n" ++
        "See https://twitter.github.io/compose-rules/rules/#avoid-using-unstable-collections" ++
        " for more information."

/-- The group that an issue belongs to. -/
def category (_ : Issue) : String := "productivity"

/-- How serious an issue is unless a configuration says otherwise. -/
def severity (_ : Issue) : Severity := .error

/-- The rank of an issue among others. -/
def priority (_ : Issue) : Nat := 5

/-- Two identifiers that differ at most in case. -/
def sameId (left right : String) : Bool :=
  Text.lower left == Text.lower right

/-- The issue with a given identifier, whatever its case. -/
def find? (id : String) : Option Issue :=
  all.find? (sameId ·.id id)

end Issue

/-- No issue has the given identifier. -/
structure UnknownIssue where
  id : String
  deriving DecidableEq, Repr

/-- The wording of a failed search for an issue. -/
def UnknownIssue.message (error : UnknownIssue) : String :=
  "Unknown issue id: " ++ error.id

/-- The issue with a given identifier, or the failure to find it. -/
def Issue.get (id : String) : Except UnknownIssue Issue :=
  match Issue.find? id with
  | some issue => .ok issue
  | none => .error ⟨id⟩

end SignatureLint

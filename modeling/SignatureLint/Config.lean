import SignatureLint.Issue
import SignatureLint.Pathname
import SignatureLint.Registry

/-!
# Configuration

The names that the rules go by, and how results are to be shown.
-/

namespace SignatureLint

/-- How many files may be examined at a time.  The plain answer "yes" stands for one. -/
inductive Workers where
  | count (number : Nat)
  | yes
  deriving DecidableEq, Repr, Inhabited

structure Config where
  /-- Markers of components. -/
  componentMarkers : NameSet := NameSet.ofList ["Composable", "composable"]
  /-- Classes whose direct subclasses are interfaces. -/
  interfaceBases : NameSet := NameSet.ofList ["Protocol"]
  abstractMarkers : NameSet :=
    NameSet.ofList
      ["abstractmethod", "abstractproperty", "abstractclassmethod", "abstractstaticmethod"]
  platformMarkers : NameSet := NameSet.ofList ["expect", "actual"]
  overrideMarkers : NameSet := NameSet.ofList ["override"]
  registry : Registry := {}
  /-- The default to give to a modifier. -/
  defaultModifier : String := "Modifier"
  /-- The identifiers of the issues that are not looked for. -/
  disabledIssues : NameSet := ∅
  /-- Severities by identifier of an issue, the first match counts. -/
  severityOverrides : List (String × Severity) := []
  workers : Workers := .count 4
  logDirectory : Option Pathname := none
  deriving DecidableEq, Repr, Inhabited

namespace Config

/-- How serious an issue is under a configuration. -/
def severityFor (config : Config) (issue : Issue) : Severity :=
  match config.severityOverrides.find? (Issue.sameId ·.1 issue.id) with
  | some (_, severity) => severity
  | none => issue.severity

def disables (config : Config) (issue : Issue) : Bool :=
  config.disabledIssues.toList.any (Issue.sameId issue.id)

end Config

end SignatureLint

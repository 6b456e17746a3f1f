import SignatureLint.Config
import SignatureLint.Declaration
import SignatureLint.Diagnostic

/-!
# Rules

A rule looks at the parameters of a component whose signature may be changed and
reports each one that breaks it.
-/

namespace SignatureLint

namespace Declaration

def isComponent (declaration : Declaration) (markers : NameSet) : Bool :=
  declaration.markers.meets markers

/-- A component whose signature may be changed. -/
def isEligible (declaration : Declaration) (markers : NameSet) : Bool :=
  declaration.isComponent markers && !declaration.bindings.constrained

end Declaration

namespace ModifierDefault

/-- The edit that gives a parameter a default: it lengthens the last word of the parameter. -/
def edit (config : Config) (parameter : DeclaredParameter) : Edit where
  span := parameter.lastLexeme.span
  expected := parameter.lastLexeme.text
  replacement := parameter.lastLexeme.text ++ " = " ++ config.defaultModifier
  name := "Add '= " ++ config.defaultModifier ++ "' default value."
  autoFix := parameter.acceptsDefault

/-- A modifier without a default. -/
def check (config : Config) (parameter : DeclaredParameter) : Option Diagnostic :=
  if !parameter.hasDefault && config.registry.classifies (some .modifier) parameter.type then
    some
      { issue := .modifierWithoutDefault
        location := parameter.span
        message := Issue.modifierWithoutDefault.explanation
        fix := some (edit config parameter) }
  else none

end ModifierDefault

namespace UnstableCollections

/-- What to say about a parameter whose type is a collection that can change. -/
def message (typeText rawType parameter immutableType : String) : String :=
  let wrapper := Text.capitalized parameter ++ Text.capitalized rawType
  "The Compose Compiler cannot infer the stability of a parameter if a " ++ typeText ++
    " is used in it, even if the item type is stable.\n" ++
    "You should use Kotlinx Immutable Collections instead: `" ++ parameter ++ ": " ++
    immutableType ++ "` or create an `@Immutable` wrapper for this class: `@Immutable data class " ++ wrapper ++
    "(val items: " ++ typeText ++ ")`\n\n" ++
    "See https://twitter.github.io/compose-rules/rules/#avoid-using-unstable-collections" ++
    " for more information."

/-- The type to recommend in place of a collection that can change. -/
def recommended (type : TypeRef) : String :=
  Collections.immutableCounterpart type.rawName ++ type.argumentText

/-- The name of a collection that was not written down. -/
def unnamed : String := "List/Set/Map"

/-- A collection that can change. -/
def check (config : Config) (parameter : DeclaredParameter) : Option Diagnostic :=
  match parameter.type with
  | none => none
  | some type =>
      if config.registry.includes .unstableCollection type then
        let typeText := if type.text.isEmpty then unnamed else type.text
        some
          { issue := .unstableCollections
            location := type.span.getD parameter.span
            message := message typeText type.rawName parameter.name (recommended type) }
      else none

end UnstableCollections

namespace Issue

/-- What the rule behind an issue has to say about one parameter. -/
def check (issue : Issue) (config : Config) (parameter : DeclaredParameter) : Option Diagnostic :=
  match issue with
  | modifierWithoutDefault => ModifierDefault.check config parameter
  | unstableCollections => UnstableCollections.check config parameter

end Issue

/-- Work that reports diagnostics to a sink as it goes. -/
abbrev Reporting := StateM (Array Diagnostic)

namespace Reporting

def emit (diagnostic : Diagnostic) : Reporting Diagnostic := do
  modify (·.push diagnostic)
  return diagnostic

/-- Report what a check finds, parameter by parameter. -/
def checkParameters (check : DeclaredParameter → Option Diagnostic) :
    List DeclaredParameter → Reporting (List Diagnostic)
  | [] => return []
  | parameter :: rest => do
      match check parameter with
      | none => checkParameters check rest
      | some diagnostic =>
          let first ← emit diagnostic
          return first :: (← checkParameters check rest)

/-- Run the rule behind an issue over one declaration. -/
def runRule (config : Config) (issue : Issue) (declaration : Declaration) :
    Reporting (List Diagnostic) :=
  if declaration.isEligible config.componentMarkers then
    checkParameters (issue.check config) declaration.parameters
  else return []

end Reporting

end SignatureLint

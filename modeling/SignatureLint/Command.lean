import SignatureLint.Command.Check
import SignatureLint.Command.Issues

/-!
# Commands

The whole program as a function: from its arguments and a file tree to what it
prints, the changed file tree and how it ends.
-/

namespace SignatureLint

/-- What a run leaves behind. -/
structure Outcome where
  exitCode : Nat
  output : String
  tree : FileTree
  /-- The error that ended the run, unless a command dealt with it. -/
  failure : Option Failure := none

namespace Command

/-- How the program is called. -/
def usage : String :=
  "Usage: compose-lint check [PATHS] [--manifest FILE] [--json] [--fix] [--disable ISSUE]\n" ++
    "                          [--workers N] [--config FILE] [--log-dir DIRECTORY]\n" ++
    "       compose-lint rules\n" ++
    "       compose-lint explain ISSUE\n"

def run [Wordings] : Command → Run Unit
  | check options => Check.run options
  | rules => Issues.list
  | explain id => Issues.explain id
  | help => Run.print usage

/-- Run the program with some arguments. -/
def execute [Wordings] (arguments : List String) (tree : FileTree) (clock : Clock) : Outcome :=
  match ofArguments arguments with
  | none => { exitCode := 2, output := "", tree := tree }
  | some command =>
      let (result, state) := ExceptT.run command.run { tree := tree, clock := clock }
      let (exitCode, failure) : Nat × Option Failure := match result with
        | .ok _ => (0, none)
        | .error (.exit code) => (code, none)
        | .error (.failure error) => (1, some error)
      { exitCode, output := state.output, tree := state.tree, failure }

end Command

end SignatureLint

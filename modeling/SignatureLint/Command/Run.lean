import SignatureLint.Analysis.Files
import SignatureLint.Config.Project
import SignatureLint.Console.Markup
import SignatureLint.Console.Table
import SignatureLint.Edit.Files
import SignatureLint.Manifest.File
import SignatureLint.RunLog

/-!
# Runs of the program

A run reads and changes a file tree, prints, and may stop before its end.  What
it has printed and changed by then stays.
-/

namespace SignatureLint

/-- An error in some part of the program. -/
inductive Failure where
  | io (error : IoError)
  | project (error : ProjectError)
  | analysis (error : AnalysisError)
  | manifest (error : ManifestFileError)
  | fix (error : FixError)
  | markup (error : Console.MarkupError)
  /-- An integer in an event has too many digits to be written. -/
  | longInteger
  /-- An error from outside of this program, with its text. -/
  | foreign (text : LooseText)

namespace Failure

def message [Wordings] : Failure → String
  | io error => error.message
  | project error => error.message
  | analysis error => error.message
  | manifest error => error.message
  | fix error => error.message
  | markup error => error.message
  | longInteger => Decimal.tooLongToWrite
  | foreign text => text.display

/-- The wording of an error as a text that may hold lone surrogates. -/
def text [Wordings] : Failure → LooseText
  | foreign text => text
  | error => .clean error.message

/-- Whether a failure to read a configuration file is one that commands report. -/
def reportsProject : ProjectError → Bool
  | .unreadable .. | .malformed .. | .table => true
  | .entry (.directory _) | .entry .longInteger => false
  | .entry _ => true
  | .nullCharacter | .encoding _ | .longInteger _ | .tools _ => false

/-- Whether a failure to read a manifest is one that commands report. -/
def reportsManifest : ManifestFileError → Bool
  | .manifest _ _ (.json (.longInteger _)) => false
  | .manifest .. | .unreadable .. => true
  | .nullCharacter | .encoding _ => false

/-- Whether commands report an error; the others end the run at once. -/
def isReported : Failure → Bool
  | project error => reportsProject error
  | manifest error => reportsManifest error
  | fix (.edit (.conflict _)) => true
  | _ => false

end Failure

inductive Stop where
  | exit (code : Nat)
  | failure (error : Failure)

/-- The wording of the reason why a run stopped.  There is none for an exit. -/
def Stop.text [Wordings] : Stop → LooseText
  | exit _ => .clean ""
  | failure error => error.text

/-- The wording of the reason why a run stopped, if it did. -/
def Stop.reason? [Wordings] {α : Type} : Except Stop α → Option LooseText
  | .ok _ => none
  | .error stop => some stop.text

structure Surroundings where
  tree : FileTree
  clock : Clock
  output : String := ""
  /-- The data of every event that has begun.  A run refers to its own by their number. -/
  events : List (List (LooseText × Json)) := []

def Surroundings.data (state : Surroundings) (event : Nat) : List (LooseText × Json) :=
  state.events[event]?.getD []

/-- A run that yields a value unless it stops. -/
abbrev Run (α : Type) := ExceptT Stop (StateM Surroundings) α

namespace Run

def exit {α : Type} (code : Nat) : Run α :=
  throw (.exit code)

def files : Run FileTree :=
  return (← get).tree

def print (text : String) : Run Unit :=
  modify fun state => { state with output := state.output ++ text }

def printLines (lines : List Console.Line) : Run Unit :=
  print (Console.ofLines lines)

/-- The value of something that may fail; a failure stops the run. -/
def orFail {α ε : Type} (failure : ε → Failure) : Except ε α → Run α
  | .ok value => return value
  | .error error => throw (.failure (failure error))

/-- Print a markup text. -/
def say (markup : String) : Run Unit := do
  let text ← orFail .markup (Console.render markup)
  printLines (Console.wrap .fold Console.consoleWidth text)

/-- The value of something that may fail.  An error that is reported is printed after a heading. -/
def orReport [Wordings] {α ε : Type} (heading : String) (failure : ε → Failure) : Except ε α → Run α
  | .ok value => return value
  | .error error => do
      let error := failure error
      if error.isReported then
        say (heading ++ " " ++ error.message)
        exit 2
      else throw (.failure error)

/-- Begin an event with some data, and yield its number. -/
def beginEvent (data : List (LooseText × Json)) : Run Nat := do
  let state ← get
  set { state with events := state.events ++ [data] }
  return state.events.length

/-- Set a value in the data of an event. -/
def note (event : Nat) (key : String) (value : Json) : Run Unit :=
  modify fun state =>
    { state with events := state.events.modify event (RunEvent.put · key value) }

/-- How a run ends. -/
def outcome {α : Type} (run : Run α) : Run (Except Stop α) :=
  fun state =>
    let (result, state) := ExceptT.run run state
    (.ok result, state)

/-- Make the directory of a log, unless it is there. -/
def openLog (log : RunLog) : Run Unit := do
  let tree ← orFail .io ((← files).openLog log)
  modify fun state => { state with tree := tree }

def logEvent (log : RunLog) (event : RunEvent) : Run Unit := do
  let state ← get
  let tree ← orFail .io (state.tree.logEvent log state.clock event)
  set { state with tree := tree }
  if !event.isWritable then throw (.failure .longInteger)

/-- Log a run as one event, with its data as the run leaves them.  The event is written however the
run ends. -/
def timed [Wordings] {α : Type} (log : RunLog) (kind : LooseText) (run : Nat → Run α) : Run α := do
  let event ← beginEvent RunEvent.started
  let result ← outcome (run event)
  let state ← get
  let ended := RunEvent.finished state.clock kind (state.data event) (Stop.reason? result)
  set { state with events := state.events.set event ended.data }
  logEvent log ended
  match result with
  | .ok value => return value
  | .error stop => throw stop

def logged [Wordings] {α : Type} (log : Option RunLog) (kind : LooseText) (run : Nat → Run α) :
    Run α :=
  match log with
  | none => do run (← beginEvent [])
  | some log => do
      openLog log
      timed log kind run

end Run

end SignatureLint

import SignatureLint.Calendar
import SignatureLint.FileTree
import SignatureLint.Json.Writer
import SignatureLint.Text.Utf8

/-!
# Run logs

A log is a directory with one file a day.  Every event is one line at the end of
the file of its day.
-/

namespace SignatureLint

/-- What the clock says when events are logged. -/
structure Clock where
  today : Date
  time : TimeOfDay
  /-- How many milliseconds a run has taken. -/
  elapsed : Nat
  deriving DecidableEq, Repr, Inhabited

/-- An event, with the milliseconds it took if it has a duration. -/
structure RunEvent where
  kind : LooseText
  data : List (LooseText × Json)
  duration : Option Int := none

namespace RunEvent

/-- The moment of an event in universal time. -/
def timestamp (clock : Clock) : String :=
  clock.today.display ++ "T" ++ clock.time.display ++ "+00:00"

def toJson (clock : Clock) (event : RunEvent) : Json :=
  .record
    [("event_type", .text event.kind), ("data", .object event.data),
      ("duration_ms", .optional Json.integer event.duration),
      ("timestamp", .string (timestamp clock))]

/-- Whether an event can be written: not if an integer in it has too many digits. -/
def isWritable (event : RunEvent) : Bool :=
  (Json.object event.data).isWritable && (Json.optional Json.integer event.duration).isWritable

/-- What an event adds to its file: its line, or nothing if it cannot be written. -/
def octets (clock : Clock) (event : RunEvent) : List UInt8 :=
  if event.isWritable then Utf8.encode ((event.toJson clock).compact ++ ['\n']) else []

/-- Set the value at a key of the data of an event. -/
def put (data : List (LooseText × Json)) (key : String) (value : Json) :
    List (LooseText × Json) :=
  Json.put data (.clean key) value

/-- The data of something that has begun. -/
def started : List (LooseText × Json) :=
  [(.clean "status", .string "started")]

/-- The data of something that has ended, well or with a failure. -/
def settled (data : List (LooseText × Json)) : Option LooseText → List (LooseText × Json)
  | none => put data "status" (.string "success")
  | some failure => put (put data "status" (.string "error")) "error" (.text failure)

/-- The event of something that has ended. -/
def finished (clock : Clock) (kind : LooseText) (data : List (LooseText × Json))
    (failure : Option LooseText) : RunEvent :=
  { kind, data := settled data failure, duration := some clock.elapsed }

end RunEvent

/-- A log, given by its directory. -/
structure RunLog where
  directory : Pathname
  deriving DecidableEq, Repr

namespace RunLog

def file (log : RunLog) (day : Date) : Pathname :=
  log.directory.descend ["compose-lint-" ++ day.display ++ ".jsonl"]

end RunLog

namespace FileTree

/-- Make the directory of a log, unless it is there. -/
def openLog (tree : FileTree) (log : RunLog) : Except IoError FileTree :=
  tree.makeDirectories true log.directory

/-- Add the line of an event to the file of its day.  The file is made even if the event cannot be
written. -/
def logEvent (tree : FileTree) (log : RunLog) (clock : Clock) (event : RunEvent) :
    Except IoError FileTree :=
  tree.append (log.file clock.today) (event.octets clock)

end FileTree

end SignatureLint

import SignatureLint.Proofs.Command.Returning
import SignatureLint.Proofs.FileTree.Growing
import SignatureLint.Proofs.Json.Lines

/-!
# Run logs

Each use of a log adds one line at the end of the file of the day, and nothing else happens to the
file.  The line is read back as the event: its kind, its data and its duration, with the halves of
pairs joined in texts.  A block that is timed is logged with its own data as it left them, whether
it returned or was ended by an error, and the error ends what is around it too.  An event in which
an integer is too long to be written is an error itself and adds no line.
-/

namespace SignatureLint

open LooseText (IsProper)

/-! ## Events -/

namespace RunEvent

structure IsFractionless (event : RunEvent) : Prop where
  kind : event.kind.IsProper
  data : Json.Fractionless IsProper (.object event.data)

structure IsSpelledBy (event : RunEvent) (line : List Char) : Prop where
  noLineFeed : '\n' ∉ line
  read : ∃ entries, Json.read (String.ofList line) = .ok (.object entries) ∧
    Json.lookup? "event_type" entries = some (.text event.kind.rejoined) ∧
    Json.lookup? "data" entries = some (Json.object event.data).rejoined ∧
    Json.lookup? "duration_ms" entries = some (.optional Json.integer event.duration)

variable {event : RunEvent}

theorem IsFractionless.toJson (fractionless : event.IsFractionless) (clock : Clock) :
    Json.Fractionless IsProper (event.toJson clock) := by
  have duration : Json.Fractionless IsProper (.optional Json.integer event.duration) := by
    cases event.duration with
    | none => exact .null
    | some elapsed => exact .integer elapsed
  refine .object ?_ ?_ ?_
  · exact show [LooseText.clean "event_type", .clean "data", .clean "duration_ms",
      .clean "timestamp"].Nodup by decide
  · simp only [List.map_cons, List.map_nil, List.forall_mem_cons]
    exact ⟨.clean _, .clean _, .clean _, .clean _, nofun⟩
  · simp only [List.map_cons, List.map_nil, List.forall_mem_cons]
    exact ⟨.text fractionless.kind, fractionless.data, duration, .text (.clean _), nofun⟩

theorem isWritable_toJson (event : RunEvent) (clock : Clock) :
    (event.toJson clock).isWritable = event.isWritable := by
  rw [RunEvent.toJson, Json.record, Json.isWritable, Json.keepsTo]
  simp only [List.map_cons, List.map_nil, Json.entriesKeepTo, Json.string, Json.keepsTo_text,
    Bool.and_true, Bool.true_and]
  rfl

theorem rejoined_toJson (event : RunEvent) (clock : Clock) :
    (event.toJson clock).rejoined =
      .record
        [("event_type", .text event.kind.rejoined), ("data", (Json.object event.data).rejoined),
          ("duration_ms", .optional Json.integer event.duration),
          ("timestamp", .string (timestamp clock))] := by
  have clean (text : String) : (LooseText.clean text).rejoined = .clean text :=
    (LooseText.Readable.clean text).rejoined_eq
  have duration : (Json.optional Json.integer event.duration).rejoined =
      .optional Json.integer event.duration := by
    cases event.duration <;> rw [Json.optional, Json.rejoined] <;> intros <;> contradiction
  have time : (Json.string (timestamp clock)).rejoined = .string (timestamp clock) := by
    rw [Json.string, Json.rejoined, clean]
  rw [RunEvent.toJson, Json.record, Json.rejoined]
  simp only [List.map_cons, List.map_nil, Json.rejoinedEntries, clean, duration, time]
  rw [Json.rejoined]
  rfl

theorem IsFractionless.isSpelledBy (fractionless : event.IsFractionless)
    (writable : event.isWritable = true) (clock : Clock) :
    event.IsSpelledBy (event.toJson clock).compact where
  noLineFeed := (fractionless.toJson clock).no_lineFeed
  read := by
    rw [← isWritable_toJson event clock] at writable
    have read := (fractionless.toJson clock).read_line writable
    rw [rejoined_toJson] at read
    exact ⟨_, read, rfl, rfl, rfl⟩

end RunEvent

/-! ## Uses of a log -/

/-- What a log is used for: an event, or a block that is timed and knows the number of its event. -/
inductive LogTask where
  | event (event : RunEvent)
  | block (kind : LooseText) (run : Nat → Run Unit)

def LogTask.run [Wordings] (log : RunLog) : LogTask → Run Unit
  | .event found => Run.logEvent log found
  | .block kind inner => Run.timed log kind inner

/-- A use of a log at some time, maybe after the log was opened again. -/
structure LogCall where
  clock : Clock
  reopens : Bool
  task : LogTask

def LogCall.run [Wordings] (log : RunLog) (call : LogCall) : Run Unit := do
  modify fun state => { state with clock := call.clock }
  if call.reopens then Run.openLog log
  call.task.run log

/-- A use of a log as it happened. -/
structure LogStep where
  call : LogCall
  before : Surroundings
  result : Except Stop Unit

/-- Uses of a log one after the other.  An error ends no more than the use in which it happens. -/
def LogCall.runAll [Wordings] (log : RunLog) :
    List LogCall → Surroundings → List LogStep × Surroundings
  | [], state => ([], state)
  | call :: rest, state =>
      let (result, after) := call.run log state
      let (steps, last) := runAll log rest after
      (⟨call, state, result⟩ :: steps, last)

/-! ## What is logged -/

section

variable (log : RunLog) (day : Date)

/-- The file of a log holds some octets more than before. -/
def Surroundings.Adds (before after : Surroundings) (added : List UInt8) : Prop :=
  ∃ octets, before.tree.Holds (log.file day) octets ∧
    after.tree.Holds (log.file day) (octets ++ added)

/-- A run during a day that only adds to the end of the file of a log. -/
def Run.Grows {α : Type} (run : Run α) : Prop :=
  ∀ state octets, state.clock.today = day → state.tree.Holds (log.file day) octets →
    (run state).2.clock.today = day ∧
      ∃ added, (run state).2.tree.Holds (log.file day) (octets ++ added)

/-- The event that is logged, what is added to the file before that, and how the use of the log ends
by itself.  A block has its own data, whatever others were timed in it. -/
inductive LogTask.Logs [Wordings] (state : Surroundings) :
    LogTask → RunEvent → List UInt8 → Except Stop Unit → Prop where
  | event (event : RunEvent) : Logs state (.event event) event [] (.ok ())
  | returned {kind : LooseText} {run : Nat → Run Unit} {after : Surroundings} {added : List UInt8}
      (ends : run state.events.length (Run.begun state) = (.ok (), after))
      (adds : state.Adds log day after added) :
      Logs state (.block kind run)
        { kind
          data := Json.put (after.data state.events.length) (.clean "status") (.string "success")
          duration := some after.clock.elapsed }
        added (.ok ())
  | raised {kind : LooseText} {run : Nat → Run Unit} {stop : Stop} {after : Surroundings}
      {added : List UInt8} (ends : run state.events.length (Run.begun state) = (.error stop, after))
      (adds : state.Adds log day after added) :
      Logs state (.block kind run)
        { kind
          data := Json.put
            (Json.put (after.data state.events.length) (.clean "status") (.string "error"))
            (.clean "error") (.text stop.text)
          duration := some after.clock.elapsed }
        added (.error stop)

/-- The octets that a use of a log adds to the file: one line, behind what a block has added to the
file itself, unless an integer in the event is too long to be written. -/
inductive LogStep.Adds [Wordings] (step : LogStep) : List UInt8 → Prop where
  | line {event : RunEvent} {added : List UInt8} {line : List Char}
      (logs : step.call.task.Logs log day { step.before with clock := step.call.clock } event added
        step.result)
      (writable : event.isWritable = true)
      (spelled : event.IsFractionless → event.IsSpelledBy line) :
      Adds step (added ++ Utf8.encode (line ++ ['\n']))
  | refused {event : RunEvent} {added : List UInt8} {result : Except Stop Unit}
      (logs : step.call.task.Logs log day { step.before with clock := step.call.clock } event added
        result)
      (long : event.isWritable = false)
      (stops : step.result = .error (.failure .longInteger)) : Adds step added

/-- A use of a log on a day.  A block may do anything but change the file of the log other than at
its end, or wait for another day. -/
structure LogCall.IsProper (call : LogCall) : Prop where
  today : call.clock.today = day
  block : ∀ kind run, call.task = .block kind run → ∀ event, Run.Grows log day (run event)

end

section

variable {log : RunLog} {day : Date} {octets : List UInt8} {state : Surroundings}

theorem exists_logEvent (holds : state.tree.Holds (log.file day) octets)
    (today : state.clock.today = day) (event : RunEvent) :
    ∃ tree, Run.logEvent log event state =
        (if event.isWritable then .ok () else .error (.failure .longInteger),
          { state with tree := tree }) ∧
      tree.Holds (log.file day) (octets ++ event.octets state.clock) := by
  obtain ⟨tree, added, longer, -⟩ := holds.append (event.octets state.clock)
  rw [← today] at added
  exact ⟨tree, Run.logEvent_of_ok added, longer⟩

theorem LogStep.adds_of_logs [Wordings] {step : LogStep} {event : RunEvent} {added : List UInt8}
    {result : Except Stop Unit}
    (logs : step.call.task.Logs log day { step.before with clock := step.call.clock } event added
      result)
    (ends : step.result = if event.isWritable then result else .error (.failure .longInteger))
    (clock : Clock) : step.Adds log day (added ++ event.octets clock) := by
  cases writable : event.isWritable with
  | false =>
      rw [writable] at ends
      rw [RunEvent.octets, writable, if_neg Bool.false_ne_true, List.append_nil]
      exact .refused logs writable ends
  | true =>
      rw [writable, if_pos rfl] at ends
      rw [RunEvent.octets, writable, if_pos rfl]
      exact .line (ends ▸ logs) writable fun fractionless =>
        fractionless.isSpelledBy writable clock

theorem openLog_of_holds (holds : state.tree.Holds (log.file day) octets) :
    Run.openLog log state = (.ok (), state) :=
  Run.openLog_eq_ok_iff.mpr
    ⟨state.tree, FileTree.makeDirectories_of_isDirectory holds.isDirectory, rfl⟩

namespace Run

theorem exists_timed [Wordings] {α : Type} {kind : LooseText} {run : Nat → Run α}
    {result : Except Stop α} {after : Surroundings}
    (ends : run state.events.length (begun state) = (result, after))
    (today : after.clock.today = day) (holds : after.tree.Holds (log.file day) octets) :
    ∃ tree, timed log kind run state =
        (if (ended kind state after result).isWritable then result
          else .error (.failure .longInteger),
          { settled state after (ended kind state after result) with tree := tree }) ∧
      tree.Holds (log.file day)
        (octets ++ (ended kind state after result).octets after.clock) := by
  obtain ⟨tree, logs, longer⟩ :=
    @exists_logEvent log day octets (settled state after (ended kind state after result)) holds
      today (ended kind state after result)
  refine ⟨tree, ?_, longer⟩
  rw [timed_eq ends]
  cases writable : (ended kind state after result).isWritable with
  | false =>
      rw [writable] at logs
      rw [bind_of_error logs]
      rfl
  | true =>
      rw [writable, if_pos rfl] at logs
      rw [bind_of_ok logs, if_pos rfl]
      cases result <;> rfl

end Run

theorem LogCall.run_eq [Wordings] {call : LogCall}
    (holds : state.tree.Holds (log.file day) octets) :
    call.run log state = call.task.run log { state with clock := call.clock } := by
  rw [run, Run.bind_of_ok (Run.modify_eq _ _)]
  by_cases reopens : call.reopens = true
  · rw [if_pos reopens]
    exact Run.bind_of_ok (openLog_of_holds holds)
  · rw [if_neg reopens]

/-- A use of a log adds to the file of the day, and the day goes on. -/
theorem LogCall.exists_adds [Wordings] {call : LogCall}
    (holds : state.tree.Holds (log.file day) octets) (proper : call.IsProper log day) :
    ∃ part, (LogStep.mk call state (call.run log state).1).Adds log day part ∧
      (call.run log state).2.tree.Holds (log.file day) (octets ++ part) := by
  have same : call.run log state = _ := run_eq holds
  cases task : call.task with
  | event event =>
      obtain ⟨tree, ends, longer⟩ :=
        @exists_logEvent log day octets { state with clock := call.clock } holds proper.today event
      rw [same, task, LogTask.run, ends]
      refine ⟨[] ++ _, LogStep.adds_of_logs ?_ rfl call.clock, longer⟩
      change call.task.Logs log day _ _ _ _
      rw [task]
      exact .event event
  | block kind run =>
      have begins := proper.block kind run task state.events.length
        (Run.begun { state with clock := call.clock }) octets proper.today holds
      cases ends : run state.events.length (Run.begun { state with clock := call.clock }) with
      | mk result after =>
          rw [ends] at begins
          obtain ⟨today, added, grown⟩ := begins
          obtain ⟨tree, timed, longer⟩ :=
            @Run.exists_timed log day _ { state with clock := call.clock } _ Unit kind run result
              after ends today grown
          rw [same, task, LogTask.run, timed]
          have adds : Surroundings.Adds log day { state with clock := call.clock } after added :=
            ⟨octets, holds, grown⟩
          refine ⟨added ++ _, LogStep.adds_of_logs ?_ rfl after.clock, ?_⟩
          · change call.task.Logs log day _ _ _ _
            rw [task]
            cases result with
            | ok value => exact .returned ends adds
            | error stop => exact .raised ends adds
          · rw [← List.append_assoc]
            exact longer

end

/-- The file of a log holds what it held before and what each use of the log has added to it, in
order: one line for each that could be written, which is read as the event of the use. -/
theorem runAll_appends [Wordings] {log : RunLog} {day : Date} {octets : List UInt8}
    {state : Surroundings} (holds : state.tree.Holds (log.file day) octets) {calls : List LogCall}
    (proper : ∀ call ∈ calls, call.IsProper log day) :
    ∃ parts : List (List UInt8),
      (LogCall.runAll log calls state).1.map LogStep.call = calls ∧
      List.Forall₂ (LogStep.Adds log day) (LogCall.runAll log calls state).1 parts ∧
      (LogCall.runAll log calls state).2.tree.Holds (log.file day) (octets ++ parts.flatten) := by
  induction calls generalizing state octets with
  | nil =>
      refine ⟨[], rfl, .nil, ?_⟩
      rw [List.flatten_nil, List.append_nil]
      exact holds
  | cons call rest ih =>
      obtain ⟨here, later⟩ := List.forall_mem_cons.mp proper
      obtain ⟨part, adds, longer⟩ := LogCall.exists_adds holds here
      obtain ⟨parts, calls, addsAll, longest⟩ := ih longer later
      refine ⟨part :: parts, ?_, .cons adds addsAll, ?_⟩
      · exact congrArg (call :: ·) calls
      · rw [List.flatten_cons, ← List.append_assoc]
        exact longest

/-! ## Blocks that use the log -/

namespace Run

variable {α β : Type} {log : RunLog} {day : Date}

theorem grows_of_keeps {run : Run α}
    (keeps : ∀ state, (run state).2.tree = state.tree ∧ (run state).2.clock = state.clock) :
    Grows log day run := by
  intro state octets today holds
  rw [(keeps state).1, (keeps state).2]
  exact ⟨today, [], by rwa [List.append_nil]⟩

theorem Grows.bind {first : Run α} {next : α → Run β} (grows : Grows log day first)
    (grows' : ∀ value, Grows log day (next value)) : Grows log day (first >>= next) := by
  intro state octets today holds
  obtain ⟨today', added, longer⟩ := grows state octets today holds
  cases begins : first state with
  | mk result after =>
      rw [begins] at today' longer
      cases result with
      | error stop =>
          rw [bind_of_error begins]
          exact ⟨today', added, longer⟩
      | ok value =>
          obtain ⟨today'', more, longest⟩ := grows' value after _ today' longer
          rw [bind_of_ok begins]
          exact ⟨today'', added ++ more, by rwa [← List.append_assoc]⟩

theorem logEvent_grows (event : RunEvent) : Grows log day (logEvent log event) := by
  intro state octets today holds
  obtain ⟨tree, ends, longer⟩ := exists_logEvent holds today event
  rw [ends]
  exact ⟨today, _, longer⟩

theorem timed_grows [Wordings] {kind : LooseText} {run : Nat → Run α}
    (grows : ∀ event, Grows log day (run event)) : Grows log day (timed log kind run) := by
  intro state octets today holds
  cases ends : run state.events.length (begun state) with
  | mk result after =>
      have begins := grows state.events.length (begun state) octets today holds
      rw [ends] at begins
      obtain ⟨today', added, longer⟩ := begins
      obtain ⟨tree, timed, longest⟩ := @exists_timed log day _ state _ α kind run _ _ ends today'
        longer
      rw [timed]
      exact ⟨today', added ++ _, by rwa [← List.append_assoc]⟩

end Run

/-! ## A sample -/

namespace LogCall

/-- A log in a directory of its own. -/
def sampleLog : RunLog :=
  ⟨⟨"", ["logs"]⟩⟩

def sampleDay : Date := ⟨2024, 5, 1⟩

/-- A clock that shows the same at all times. -/
def sampleClock : Clock where
  today := sampleDay
  time := ⟨12, 30, 0, 0⟩
  elapsed := 7

/-- The directory of the log, which is empty. -/
def sampleSurroundings : Surroundings where
  tree := { nodes := [(["logs"], .directory)] }
  clock := sampleClock

/-- A block that notes something, times a part of itself, logs an event, notes something else and
ends the program. -/
def sampleBlock [Wordings] (event : Nat) : Run Unit := do
  Run.note event "files" (.integer 3)
  Run.timed sampleLog (.clean "part") fun part => Run.note part "files" (.integer 1)
  Run.logEvent sampleLog { kind := .clean "note", data := [] }
  Run.note event "diagnostics" (.integer 5)
  Run.exit 2

/-- An event with a text that JSON has to escape, and a block that is ended by an error. -/
def sampleCalls [Wordings] : List LogCall :=
  [⟨sampleClock, true,
      .event { kind := .clean "note", data := [(.clean "text", .string "a\n\"é")] }⟩,
    ⟨sampleClock, false, .block (.clean "check") sampleBlock⟩]

/-- The place of the file of the day. -/
def samplePlace : Place :=
  ["logs", "compose-lint-2024-05-01.jsonl"]

theorem locate_sample :
    sampleSurroundings.tree.locate true (sampleLog.file sampleDay) = .ok samplePlace ∧
      sampleSurroundings.tree.node? samplePlace = none := by
  have name : sampleLog.file sampleDay = ⟨"", samplePlace⟩ := by decide
  have below : sampleSurroundings.tree.node? ["logs"] = some .directory := by decide
  refine ⟨?_, rfl⟩
  rw [name, FileTree.locate_eq_ok_iff]
  refine ⟨by decide, ?_⟩
  have passed (target : Pathname) : FileNode.directory ≠ .link target := by rintro ⟨⟩
  exact (FileTree.walk_to_other rfl (by decide) below passed).trans
    (FileTree.walk_to_empty below (by decide) rfl)

theorem holds_sample : sampleSurroundings.tree.Holds (sampleLog.file sampleDay) [] :=
  ⟨samplePlace, locate_sample.1, .inr ⟨locate_sample.2, rfl⟩⟩

theorem sampleBlock_grows [Wordings] (event : Nat) :
    Run.Grows sampleLog sampleDay (sampleBlock event) := by
  have note (event : Nat) (key : String) (value : Json) :
      Run.Grows sampleLog sampleDay (Run.note event key value) :=
    Run.grows_of_keeps fun _ => ⟨rfl, rfl⟩
  exact (note _ _ _).bind fun _ => (Run.timed_grows fun _ => note _ _ _).bind fun _ =>
    (Run.logEvent_grows _).bind fun _ => (note _ _ _).bind fun _ =>
      Run.grows_of_keeps fun _ => ⟨rfl, rfl⟩

theorem sampleCalls_proper [Wordings] :
    ∀ call ∈ sampleCalls, call.IsProper sampleLog sampleDay := by
  refine List.forall_mem_cons.mpr ⟨⟨rfl, nofun⟩, List.forall_mem_singleton.mpr ⟨rfl, ?_⟩⟩
  rintro _ _ ⟨⟩
  exact sampleBlock_grows

end LogCall

open LogCall (sampleLog sampleDay sampleCalls sampleSurroundings)

section

attribute [local instance] Wordings.short

/-- The sample calls add what they should. -/
theorem runAll_appends_sample :
    sampleSurroundings.tree.Holds (sampleLog.file sampleDay) [] ∧
      (∀ call ∈ sampleCalls, call.IsProper sampleLog sampleDay) ∧
      ∃ parts : List (List UInt8),
        (LogCall.runAll sampleLog sampleCalls sampleSurroundings).1.map LogStep.call = sampleCalls ∧
          List.Forall₂ (LogStep.Adds sampleLog sampleDay)
            (LogCall.runAll sampleLog sampleCalls sampleSurroundings).1 parts ∧
          (LogCall.runAll sampleLog sampleCalls sampleSurroundings).2.tree.Holds
            (sampleLog.file sampleDay) ([] ++ parts.flatten) :=
  ⟨LogCall.holds_sample, LogCall.sampleCalls_proper,
    runAll_appends LogCall.holds_sample LogCall.sampleCalls_proper⟩

end

/-! ## What a line does not keep -/

namespace LogCall

/-- An event with an integer of one digit more than can be written. -/
def longEvent : RunEvent :=
  { kind := .clean "note", data := [(.clean "n", .integer (Nat.pow 10 Decimal.maxDigits))] }

/-- A use of the log for this event. -/
def longCall : LogCall :=
  ⟨sampleClock, false, .event longEvent⟩

/-- An event with both halves of a pair, one after the other. -/
def pairEvent : RunEvent :=
  { kind := .clean "note", data := [(.clean "text", .text (.broken [0xD83D, 0xDE00]))] }

/-- The directory of the log, with a line in the file of the day. -/
def writtenSurroundings : Surroundings :=
  { sampleSurroundings with tree := sampleSurroundings.tree.set samplePlace (.file [0x61, 0x0A]) }

/-- A block that empties the file of the log. -/
def emptyingCall : LogCall :=
  ⟨sampleClock, false, .block (.clean "check") fun _ =>
    modify fun state => { state with tree := state.tree.set samplePlace (.file []) }⟩

end LogCall

theorem FileTree.set_set (tree : FileTree) (place : Place) (node node' : FileNode) :
    (tree.set place node).set place node' = tree.set place node' := by
  simp [FileTree.set]

theorem FileTree.holds_set {tree : FileTree} {path : Pathname} {place : Place}
    (found : tree.locate true path = .ok place) (empty : tree.node? place = none)
    (octets : List UInt8) : (tree.set place (.file octets)).Holds path octets := by
  obtain ⟨noNull, walked⟩ := locate_eq_ok_iff.mp found
  refine ⟨place, locate_eq_ok_iff.mpr ⟨noNull, walk_set_of_empty empty _ walked⟩, .inl ?_⟩
  rw [node?_set (ne_nil_of_node?_none empty), if_pos rfl]

theorem FileTree.Holds.unique {tree : FileTree} {path : Pathname} {octets other : List UInt8}
    (holds : tree.Holds path octets) (holds' : tree.Holds path other) : octets = other := by
  obtain ⟨place, found, here⟩ := holds
  obtain ⟨place', found', there⟩ := holds'
  obtain rfl := Except.ok.inj (found.symm.trans found')
  rcases here with here | ⟨none, rfl⟩ <;> rcases there with there | ⟨none', rfl⟩
  · exact FileNode.file.inj (Option.some.inj (here.symm.trans there))
  · cases here.symm.trans none'
  · cases none.symm.trans there
  · rfl

namespace LogCall

theorem longCall_refused [Wordings] :
    (longCall.run sampleLog sampleSurroundings).1 = .error (.failure .longInteger) ∧
      (longCall.run sampleLog sampleSurroundings).2.tree.Holds (sampleLog.file sampleDay) [] := by
  have long (limit : Nat) (positive : limit ≠ 0) :
      Json.keepsTo limit (.integer (Nat.pow 10 limit)) = false := by
    rw [Bool.eq_false_iff, Ne, Json.keepsTo_integer_iff positive, Int.natAbs_natCast]
    exact Nat.lt_irrefl _
  have unwritable : longEvent.isWritable = false := by
    rw [RunEvent.isWritable, Json.isWritable, longEvent, Json.keepsTo, Json.entriesKeepTo,
      long _ (by decide)]
    rfl
  obtain ⟨tree, ends, longer⟩ := @exists_logEvent sampleLog sampleDay []
    { sampleSurroundings with clock := sampleClock } holds_sample rfl longEvent
  rw [unwritable] at ends
  rw [RunEvent.octets, unwritable] at longer
  rw [run_eq holds_sample, longCall, LogTask.run, ends]
  exact ⟨rfl, longer⟩

theorem pairEvent_joined : ∃ entries,
    Json.read (String.ofList (pairEvent.toJson sampleClock).compact) = .ok (.object entries) ∧
      Json.lookup? "data" entries = some (.object [(.clean "text", .string "😀")]) := by
  have most : ∀ point ∈ [0xD83D, 0xDE00], point < 0x110000 := by
    intro point found
    simp only [List.mem_cons, List.not_mem_nil, or_false] at found
    omega
  have fractionless : pairEvent.IsFractionless :=
    ⟨.clean _, .object (by decide) (List.forall_mem_singleton.mpr (.clean _))
      (List.forall_mem_singleton.mpr (.text (.broken (by decide) most)))⟩
  have writable : pairEvent.isWritable = true := by
    rw [RunEvent.isWritable, Json.isWritable, pairEvent, Json.keepsTo, Json.entriesKeepTo,
      Json.keepsTo_text]
    rfl
  have joined : (LooseText.broken [0xD83D, 0xDE00]).rejoined = .clean "😀" := by
    rfl
  obtain ⟨entries, read, -, data, -⟩ := (fractionless.isSpelledBy writable sampleClock).read
  refine ⟨entries, read, data.trans ?_⟩
  rw [pairEvent, Json.rejoined, Json.rejoinedEntries, Json.rejoinedEntries, Json.rejoined, joined,
    (LooseText.Readable.clean "text").rejoined_eq]
  rfl

theorem emptyingCall_forgets [Wordings] (line : List UInt8) :
    ¬(emptyingCall.run sampleLog writtenSurroundings).2.tree.Holds (sampleLog.file sampleDay)
      ([0x61, 0x0A] ++ line) := by
  have written := FileTree.holds_set locate_sample.1 locate_sample.2 [0x61, 0x0A]
  have emptied : (writtenSurroundings.tree.set samplePlace (.file [])).Holds
      (sampleLog.file sampleDay) [] := by
    rw [writtenSurroundings, FileTree.set_set]
    exact FileTree.holds_set locate_sample.1 locate_sample.2 []
  obtain ⟨tree, timed, holds⟩ := @Run.exists_timed sampleLog sampleDay []
    { writtenSurroundings with clock := sampleClock } _ Unit (.clean "check")
    (fun _ => modify fun state => { state with tree := state.tree.set samplePlace (.file []) })
    (.ok ()) _ (Run.modify_eq _ _) rfl emptied
  have ran : emptyingCall.run sampleLog writtenSurroundings = _ := (run_eq written).trans timed
  rw [ran]
  intro kept
  have same := kept.unique holds
  rw [RunEvent.octets] at same
  split at same
  · cases same
  · cases same

end LogCall

open LogCall (sampleClock longCall pairEvent writtenSurroundings emptyingCall)

attribute [local instance] Wordings.short

/-- An event with an integer of too many digits adds no line, halves of a pair do not come back as
they were, and a block can change what the file of the log held before. -/
theorem not_appends_sample :
    ((longCall.run sampleLog sampleSurroundings).1 = .error (.failure .longInteger) ∧
      (longCall.run sampleLog sampleSurroundings).2.tree.Holds (sampleLog.file sampleDay) []) ∧
    ((∃ entries,
      Json.read (String.ofList (pairEvent.toJson sampleClock).compact) = .ok (.object entries) ∧
        Json.lookup? "data" entries = some (.object [(.clean "text", .string "😀")])) ∧
      Json.string "😀" ≠ .text (.broken [0xD83D, 0xDE00])) ∧
    writtenSurroundings.tree.Holds (sampleLog.file sampleDay) [0x61, 0x0A] ∧
      ∀ line, ¬(emptyingCall.run sampleLog writtenSurroundings).2.tree.Holds
        (sampleLog.file sampleDay) ([0x61, 0x0A] ++ line) := by
  refine ⟨LogCall.longCall_refused, ⟨LogCall.pairEvent_joined, nofun⟩, ?_,
    LogCall.emptyingCall_forgets⟩
  exact FileTree.holds_set LogCall.locate_sample.1 LogCall.locate_sample.2 [0x61, 0x0A]

end SignatureLint

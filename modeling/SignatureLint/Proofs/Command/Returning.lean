import SignatureLint.Proofs.Command.Run

/-!
# Runs that return

A run that is made of steps returns only if each of its steps does, and then it is known what each
step did.  A step that does not return ends the run at once, with a failure or with the exit code
for errors that are reported.
-/

namespace SignatureLint

/-- The end of a run that comes to nothing: a failure, or the exit code for an error that is
reported. -/
def Stop.IsAbrupt : Stop → Prop
  | exit code => code = 2
  | failure _ => True

namespace Run

variable {α β : Type} {state after last : Surroundings} {run : Run α}

/-! ## Runs that return or come to nothing -/

/-- A run that returns unless it comes to nothing. -/
def Thorough (run : Run α) : Prop :=
  ∀ state stop after, run state = (.error stop, after) → stop.IsAbrupt

theorem thorough_of_returns (returns : ∀ state, ∃ value after, run state = (.ok value, after)) :
    Thorough run := by
  intro state stop after stops
  obtain ⟨value, after', returns⟩ := returns state
  rw [returns] at stops
  cases stops

theorem thorough_pure (value : α) : Thorough (pure value : Run α) :=
  thorough_of_returns fun state => ⟨value, state, rfl⟩

theorem Thorough.bind {first : Run α} {next : α → Run β} (thorough : Thorough first)
    (thorough' : ∀ value, Thorough (next value)) : Thorough (first >>= next) := by
  intro state stop last stops
  cases begins : first state with
  | mk result after =>
      cases result with
      | ok value =>
          rw [bind_of_ok begins] at stops
          exact thorough' value after stop last stops
      | error stop' =>
          rw [bind_of_error begins] at stops
          cases stops
          exact thorough state stop last begins

theorem Thorough.ite {condition : Prop} [Decidable condition] {first second : Run α}
    (thorough : condition → Thorough first) (thorough' : ¬condition → Thorough second) :
    Thorough (if condition then first else second) := by
  split
  · exact thorough ‹_›
  · exact thorough' ‹_›

theorem Thorough.exists_of_bind {first : Run α} {next : α → Run β} {result : Except Stop β}
    (thorough : Thorough first) (h : (first >>= next) state = (result, last))
    (orderly : ∀ stop, result = .error stop → ¬stop.IsAbrupt) :
    ∃ value after, first state = (.ok value, after) ∧ next value after = (result, last) := by
  cases begins : first state with
  | mk result' after =>
      cases result' with
      | ok value => exact ⟨value, after, rfl, (bind_of_ok begins).symm.trans h⟩
      | error stop =>
          rw [bind_of_error begins] at h
          cases h
          exact absurd (thorough state stop last begins) (orderly stop rfl)

theorem exists_of_bind_eq_ok {first : Run α} {next : α → Run β} {value : β}
    (h : (first >>= next) state = (.ok value, last)) :
    ∃ value' after, first state = (.ok value', after) ∧ next value' after = (.ok value, last) := by
  cases begins : first state with
  | mk result after =>
      cases result with
      | ok value' => exact ⟨value', after, rfl, (bind_of_ok begins).symm.trans h⟩
      | error stop =>
          rw [bind_of_error begins] at h
          cases h

/-! ## Simple steps -/

theorem files_eq (state : Surroundings) : files state = (.ok state.tree, state) := rfl

theorem get_eq (state : Surroundings) : (get : Run Surroundings) state = (.ok state, state) := rfl

theorem modify_eq (change : Surroundings → Surroundings) (state : Surroundings) :
    (modify change : Run Unit) state = (.ok (), change state) := rfl

theorem note_eq (event : Nat) (key : String) (value : Json) (state : Surroundings) :
    note event key value state = (.ok (),
      { state with events := state.events.modify event (RunEvent.put · key value) }) :=
  rfl

theorem beginEvent_eq (data : List (LooseText × Json)) (state : Surroundings) :
    beginEvent data state =
      (.ok state.events.length, { state with events := state.events ++ [data] }) :=
  rfl

theorem data_modify {events : List (List (LooseText × Json))} {begun : List (LooseText × Json)}
    {change : List (LooseText × Json) → List (LooseText × Json)} {tree : FileTree} {clock : Clock}
    {output : String} :
    (Surroundings.mk tree clock output ((events ++ [begun]).modify events.length change)).data
      events.length = change begun := by
  rw [Surroundings.data, List.getElem?_modify, List.getElem?_concat_length]
  change (if events.length = events.length then change begun else begun) = _
  rw [if_pos rfl]

section

variable {ε : Type} {failure : ε → Failure} {given : Except ε α} {heading : String} {value : α}

theorem files_thorough : Thorough files :=
  thorough_of_returns fun state => ⟨_, _, files_eq state⟩

theorem modify_thorough (change : Surroundings → Surroundings) :
    Thorough (modify change : Run Unit) :=
  thorough_of_returns fun state => ⟨_, _, modify_eq change state⟩

theorem orFail_thorough : Thorough (orFail failure given) := by
  intro state stop after stops
  cases given with
  | ok value => cases stops
  | error error =>
      cases stops
      exact trivial

theorem orFail_eq_ok_iff :
    orFail failure given state = (.ok value, after) ↔ given = .ok value ∧ after = state := by
  cases given with
  | error error => exact iff_of_false nofun nofun
  | ok found =>
      constructor
      · rintro ⟨⟩
        exact ⟨rfl, rfl⟩
      · rintro ⟨⟨⟩, rfl⟩
        rfl

theorem say_thorough (markup : String) : Thorough (say markup) :=
  orFail_thorough.bind fun _ => modify_thorough _

theorem exit_thorough : Thorough (exit 2 : Run α) := by
  rintro state stop after ⟨⟩
  rfl

theorem orReport_thorough [Wordings] : Thorough (orReport heading failure given) := by
  cases given with
  | ok value => exact thorough_pure value
  | error error =>
      rw [orReport]
      refine .ite (fun _ => (say_thorough _).bind fun _ => exit_thorough) fun _ => ?_
      exact @orFail_thorough α ε failure (.error error)

theorem orReport_eq_ok_iff [Wordings] :
    orReport heading failure given state = (.ok value, after) ↔
      given = .ok value ∧ after = state := by
  cases given with
  | ok found => exact @orFail_eq_ok_iff α state after ε failure (.ok found) value
  | error error =>
      refine iff_of_false (fun h => ?_) nofun
      rw [orReport] at h
      split at h
      · obtain ⟨_, _, -, h⟩ := exists_of_bind_eq_ok h
        cases h
      · cases h

theorem each_thorough {step : α → Run Unit} (thorough : ∀ a, Thorough (step a)) (list : List α) :
    Thorough (each list step) := by
  induction list with
  | nil => exact thorough_pure ()
  | cons a list ih =>
      rw [each_cons]
      exact (thorough a).bind fun _ => ih

end

/-! ## Logged runs -/

variable {log : RunLog} {kind : LooseText} {value : α}

theorem openLog_eq_ok_iff :
    openLog log state = (.ok (), after) ↔
      ∃ tree, state.tree.openLog log = .ok tree ∧ after = { state with tree := tree } := by
  rw [openLog, bind_of_ok (files_eq state)]
  constructor
  · intro h
    obtain ⟨tree, after', opened, ends⟩ := exists_of_bind_eq_ok h
    obtain ⟨opened, rfl⟩ := orFail_eq_ok_iff.mp opened
    cases ends
    exact ⟨tree, opened, rfl⟩
  · rintro ⟨tree, opened, rfl⟩
    rw [bind_of_ok (orFail_eq_ok_iff.mpr ⟨opened, rfl⟩)]
    rfl

theorem logEvent_of_ok {event : RunEvent} {tree : FileTree}
    (added : state.tree.logEvent log state.clock event = .ok tree) :
    logEvent log event state =
      (if event.isWritable then .ok () else .error (.failure .longInteger),
        { state with tree := tree }) := by
  rw [logEvent, bind_of_ok (get_eq state), bind_of_ok (orFail_eq_ok_iff.mpr ⟨added, rfl⟩)]
  cases event.isWritable <;> rfl

theorem logEvent_eq_ok_iff {event : RunEvent} :
    logEvent log event state = (.ok (), after) ↔
      event.isWritable = true ∧ ∃ tree, state.tree.logEvent log state.clock event = .ok tree ∧
        after = { state with tree := tree } := by
  constructor
  · intro h
    have steps := h
    rw [logEvent, bind_of_ok (get_eq state)] at steps
    obtain ⟨tree, after', added, -⟩ := exists_of_bind_eq_ok steps
    obtain ⟨added, rfl⟩ := orFail_eq_ok_iff.mp added
    rw [logEvent_of_ok added] at h
    split at h <;> cases h
    exact ⟨‹_›, tree, added, rfl⟩
  · rintro ⟨writable, tree, added, rfl⟩
    rw [logEvent_of_ok added, if_pos writable]

/-- The surroundings of a block that is timed when it begins. -/
def begun (state : Surroundings) : Surroundings :=
  { state with events := state.events ++ [RunEvent.started] }

/-- The event of a block that is timed and has the next number. -/
def ended [Wordings] {α : Type} (kind : LooseText) (state after : Surroundings)
    (result : Except Stop α) : RunEvent :=
  RunEvent.finished after.clock kind (after.data state.events.length) (Stop.reason? result)

/-- The surroundings with the data of an event that has ended. -/
def settled (state after : Surroundings) (event : RunEvent) : Surroundings :=
  { after with events := after.events.set state.events.length event.data }

theorem timed_eq [Wordings] {run : Nat → Run α} {result : Except Stop α}
    (ends : run state.events.length (begun state) = (result, after)) :
    timed log kind run state =
      (logEvent log (ended kind state after result) >>= fun _ => match result with
        | .ok value => return value
        | .error stop => throw stop)
      (settled state after (ended kind state after result)) := by
  have done : (outcome (run state.events.length) : Run (Except Stop α)) (begun state) =
      (.ok result, after) := by
    change (Except.ok (run state.events.length (begun state)).1,
      (run state.events.length (begun state)).2) = _
    rw [ends]
  rw [timed, bind_of_ok (beginEvent_eq _ _)]
  change ((outcome (run state.events.length) : Run (Except Stop α)) >>= _) (begun state) = _
  rw [bind_of_ok done, bind_of_ok (get_eq _)]
  rfl

theorem logEvent_thorough (event : RunEvent) : Thorough (logEvent log event) := by
  refine (thorough_of_returns fun state => ⟨_, _, get_eq state⟩).bind fun _ =>
    orFail_thorough.bind fun _ => (modify_thorough _).bind fun _ => .ite (fun _ => ?_) fun _ => ?_
  · rintro state stop after ⟨⟩
    exact trivial
  · exact thorough_pure ()

theorem timed_thorough [Wordings] {run : Nat → Run α} (thorough : ∀ event, Thorough (run event)) :
    Thorough (timed log kind run) := by
  intro state stop last stops
  cases ends : run state.events.length (begun state) with
  | mk result after =>
      rw [timed_eq ends] at stops
      refine ((logEvent_thorough _).bind fun _ => ?_) _ stop last stops
      cases result with
      | ok value => exact thorough_pure value
      | error stop' =>
          rintro _ _ _ ⟨⟩
          exact thorough _ _ stop' after ends

theorem logged_thorough [Wordings] {run : Nat → Run α} (thorough : ∀ event, Thorough (run event))
    (log : Option RunLog) : Thorough (logged log kind run) := by
  cases log with
  | none => exact (thorough_of_returns fun state => ⟨_, _, beginEvent_eq _ state⟩).bind thorough
  | some log =>
      exact (files_thorough.bind fun _ => orFail_thorough.bind fun _ => modify_thorough _).bind
        fun _ => timed_thorough thorough

theorem exists_of_timed_eq_ok [Wordings] {run : Nat → Run α}
    (h : timed log kind run state = (.ok value, last)) :
    ∃ after tree, run state.events.length (begun state) = (.ok value, after) ∧
      after.tree.logEvent log after.clock
        (RunEvent.finished after.clock kind (after.data state.events.length) none) = .ok tree ∧
      last.tree = tree ∧ last.output = after.output := by
  cases ends : run state.events.length (begun state) with
  | mk result after =>
      rw [timed_eq ends] at h
      obtain ⟨_, after', logged, h⟩ := exists_of_bind_eq_ok h
      obtain ⟨-, tree, added, rfl⟩ := logEvent_eq_ok_iff.mp logged
      cases result with
      | error stop => cases h
      | ok value' =>
          cases h
          exact ⟨after, tree, rfl, added, rfl, rfl⟩

end Run

/-- The files once the directory of a log is there, if there is a log. -/
inductive FileTree.Opens (tree : FileTree) : Option RunLog → FileTree → Prop where
  | unlogged : Opens tree none tree
  | log {log : RunLog} {opened : FileTree} (opens : tree.openLog log = .ok opened) :
      Opens tree (some log) opened

/-- The files once an event is written to a log, if there is one. -/
inductive FileTree.Logs (tree : FileTree) (clock : Clock) (event : RunEvent) :
    Option RunLog → FileTree → Prop where
  | unlogged : Logs tree clock event none tree
  | log {log : RunLog} {logged : FileTree} (writes : tree.logEvent log clock event = .ok logged) :
      Logs tree clock event (some log) logged

theorem FileTree.Logs.congr {tree logged : FileTree} {clock : Clock} {event event' : RunEvent}
    {log : Option RunLog} (logs : tree.Logs clock event log logged)
    (same : log.isSome = true → event = event') : tree.Logs clock event' log logged := by
  cases logs with
  | unlogged => exact .unlogged
  | log writes =>
      rw [same rfl] at writes
      exact .log writes

namespace Run

variable {α : Type} {state last : Surroundings} {kind : LooseText} {value : α}

/-- A run that returns did so in the files with the directory of the log, and if there is a log it
has its line in it.  Its event has the next number. -/
theorem exists_of_logged_eq_ok [Wordings] {log : Option RunLog} {run : Nat → Run α}
    (h : logged log kind run state = (.ok value, last)) :
    ∃ opened begun after, state.tree.Opens log opened ∧
      (log.isSome = true → begun = RunEvent.started) ∧
      run state.events.length
          { state with tree := opened, events := state.events ++ [begun] } = (.ok value, after) ∧
      after.tree.Logs after.clock
        (RunEvent.finished after.clock kind (after.data state.events.length) none) log last.tree ∧
      last.output = after.output := by
  cases log with
  | none =>
      rw [logged, bind_of_ok (beginEvent_eq _ _)] at h
      exact ⟨_, _, last, .unlogged, nofun, h, .unlogged, rfl⟩
  | some log =>
      obtain ⟨_, _, first, timed⟩ := exists_of_bind_eq_ok h
      obtain ⟨opened, opens, rfl⟩ := openLog_eq_ok_iff.mp first
      obtain ⟨after, tree, ends, added, same, output⟩ := exists_of_timed_eq_ok timed
      rw [← same] at added
      exact ⟨opened, _, after, .log opens, fun _ => rfl, ends, .log added, output⟩

end Run

end SignatureLint

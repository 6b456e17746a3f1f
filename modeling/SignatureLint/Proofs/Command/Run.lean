import SignatureLint.Command.Run

/-!
# What runs print

A run that prints only adds to what was printed before.  A run stops if a step of it does.
-/

namespace SignatureLint.Run

variable {α β : Type} {state : Surroundings}

/-! ## Steps -/

theorem bind_of_ok {first : Run α} {next : α → Run β} {value : α} {after : Surroundings}
    (h : first state = (.ok value, after)) : (first >>= next) state = next value after := by
  change ExceptT.bindCont next (first state).1 (first state).2 = _
  rw [h]
  rfl

theorem bind_of_error {first : Run α} {next : α → Run β} {stop : Stop} {after : Surroundings}
    (h : first state = (.error stop, after)) : (first >>= next) state = (.error stop, after) := by
  change ExceptT.bindCont next (first state).1 (first state).2 = _
  rw [h]
  rfl

/-! ## Runs that stop -/

/-- A run that stops wherever it begins. -/
def Stops (run : Run α) : Prop :=
  ∀ state, ∃ stop after, run state = (.error stop, after)

theorem orFail_stops {ε : Type} (failure : ε → Failure) (error : ε) :
    Stops (orFail failure (.error error) : Run α) :=
  fun state => ⟨_, state, rfl⟩

theorem Stops.bind {first : Run α} (stops : Stops first) (next : α → Run β) :
    Stops (first >>= next) := by
  intro state
  obtain ⟨stop, after, h⟩ := stops state
  exact ⟨stop, after, bind_of_error h⟩

theorem stops_bind (first : Run α) {next : α → Run β} (stops : ∀ value, Stops (next value)) :
    Stops (first >>= next) := by
  intro state
  cases h : first state with
  | mk result after =>
      cases result with
      | ok value =>
          obtain ⟨stop, last, later⟩ := stops value after
          exact ⟨stop, last, (bind_of_ok h).trans later⟩
      | error stop => exact ⟨stop, after, bind_of_error h⟩

/-! ## Runs that print -/

/-- A run that prints some lines and does nothing else. -/
def Prints (run : Run Unit) (lines : List Console.Line) : Prop :=
  ∀ state, run state =
    (.ok (), { state with output := state.output ++ Console.ofLines lines })

theorem Prints.bind {first : Run Unit} {next : Unit → Run Unit} {lines more : List Console.Line}
    (prints : Prints first lines) (prints' : Prints (next ()) more) :
    Prints (first >>= next) (lines ++ more) := by
  intro state
  rw [bind_of_ok (prints state), prints']
  have joined : Console.ofLines (lines ++ more) =
      Console.ofLines lines ++ Console.ofLines more := by
    rw [Console.ofLines, List.flatMap_append, String.ofList_append]
    rfl
  rw [joined, String.append_assoc]

theorem printLines_prints (lines : List Console.Line) : Prints (printLines lines) lines :=
  fun _ => rfl

theorem say_prints {markup : String} {text : List Char}
    (shown : Console.render markup = .ok text) :
    Prints (say markup) (Console.wrap .fold Console.consoleWidth text) := by
  intro state
  rw [say, shown]
  rfl

theorem say_stops {markup : String} (unreadable : ∀ text, Console.render markup ≠ .ok text) :
    Stops (say markup) := by
  rw [say]
  cases h : Console.render markup with
  | error error => exact (orFail_stops _ error).bind _
  | ok text => exact absurd h (unreadable text)

/-! ## Runs through lists -/

def each (list : List α) (step : α → Run Unit) : Run Unit :=
  forIn list () fun a _ => do
    step a
    return .yield ()

theorem each_cons (a : α) (list : List α) (step : α → Run Unit) :
    each (a :: list) step = step a >>= fun _ => each list step := by
  simp only [each, List.forIn_cons, bind_assoc, pure_bind]

theorem each_stops {list : List α} {step : α → Run Unit} (stops : ∃ a ∈ list, Stops (step a)) :
    Stops (each list step) := by
  obtain ⟨a, found, stops⟩ := stops
  induction list with
  | nil => cases found
  | cons b list ih =>
      rw [each_cons]
      rcases List.mem_cons.mp found with rfl | found
      · exact stops.bind _
      · exact stops_bind (step b) fun _ => ih found

theorem each_prints {list : List α} {step : α → Run Unit} {lines : α → List Console.Line}
    (prints : ∀ a ∈ list, Prints (step a) (lines a)) :
    Prints (each list step) (list.flatMap lines) := by
  induction list with
  | nil =>
      intro state
      change _ = (Except.ok (), { state with output := state.output ++ "" })
      rw [String.append_empty]
      rfl
  | cons a list ih =>
      obtain ⟨first, prints⟩ := List.forall_mem_cons.mp prints
      rw [each_cons, List.flatMap_cons]
      exact first.bind (ih prints)

end SignatureLint.Run

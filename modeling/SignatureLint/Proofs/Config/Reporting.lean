import SignatureLint.Config.Project
import SignatureLint.Proofs.Command.Agreement
import SignatureLint.Proofs.Config.Entries
import SignatureLint.Proofs.FileTree.Faults
import SignatureLint.Proofs.Text.Readings

/-!
# Which errors of a configuration are reported

Most of what is wrong with a configuration is reported.  What is not ends a run at once: a directory
for the log that is no text, an integer that is too long to be written or read, tools that are no
table, and a file that is no UTF-8.  A reported error ends a check with an exit code of its own, if
its wording can be read as markup.
-/

namespace SignatureLint

/-! ## Long integers -/

namespace Setting

/-- A setting with an integer in it that is too long to be written. -/
inductive HoldsLong : Setting → Prop where
  | integer {value : Int} (long : Decimal.maxDigits < (Nat.toDigits 10 value.natAbs).length) :
      HoldsLong (.integer value)
  | element {element : Setting} {elements : List Setting} (found : element ∈ elements)
      (long : HoldsLong element) : HoldsLong (.list elements)
  | value {key : String} {value : Setting} {entries : List (String × Setting)}
      (found : (key, value) ∈ entries) (long : HoldsLong value) : HoldsLong (.table entries)

mutual

theorem isWritable_eq_false_iff : (setting : Setting) →
    (isWritable setting = false ↔ HoldsLong setting)
  | .integer value => by
      rw [isWritable, Decimal.isShort, decide_eq_false_iff_not, Nat.not_le]
      exact ⟨.integer, fun h => by cases h; assumption⟩
  | .list elements => by
      rw [isWritable, areWritable_eq_false_iff elements]
      constructor
      · rintro ⟨element, found, long⟩
        exact .element found long
      · rintro (_ | ⟨found, long⟩)
        exact ⟨_, found, long⟩
  | .table entries => by
      rw [isWritable, haveWritable_eq_false_iff entries]
      constructor
      · rintro ⟨key, value, found, long⟩
        exact .value found long
      · rintro (_ | _ | ⟨found, long⟩)
        exact ⟨_, _, found, long⟩
  | .absent | .boolean _ | .real _ | .text _ | .date _ | .time _ | .moment .. =>
      iff_of_false nofun nofun

theorem areWritable_eq_false_iff : (elements : List Setting) →
    (areWritable elements = false ↔ ∃ element ∈ elements, HoldsLong element)
  | [] => iff_of_false nofun (by rintro ⟨_, ⟨⟩, -⟩)
  | first :: rest => by
      rw [areWritable, Bool.and_eq_false_iff, isWritable_eq_false_iff first,
        areWritable_eq_false_iff rest, List.exists_mem_cons_iff]

theorem haveWritable_eq_false_iff : (entries : List (String × Setting)) →
    (haveWritable entries = false ↔ ∃ key value, (key, value) ∈ entries ∧ HoldsLong value)
  | [] => iff_of_false nofun (by rintro ⟨_, _, ⟨⟩, -⟩)
  | (name, first) :: rest => by
      rw [haveWritable, Bool.and_eq_false_iff, isWritable_eq_false_iff first,
        haveWritable_eq_false_iff rest]
      constructor
      · rintro (long | ⟨key, value, found, long⟩)
        · exact ⟨name, first, List.mem_cons_self, long⟩
        · exact ⟨key, value, List.mem_cons_of_mem _ found, long⟩
      · rintro ⟨key, value, found, long⟩
        rcases List.mem_cons.mp found with same | found
        · cases same
          exact .inl long
        · exact .inr ⟨key, value, found, long⟩

end

end Setting

/-! ## Entries and tables -/

namespace Config

open Failure (reportsProject)

variable {entry : String × Setting} {entries : List (String × Setting)} {field : Field}

/-- What is refused for a field without being reported: a directory for the log that is no text, and
a long integer in a list of names or in the place of the number of workers. -/
inductive Field.Escapes : Field → Setting → Prop where
  | directory {value : Setting} (other : ∀ path, value ≠ .text path) : Escapes .logDirectory value
  | names {field : NameField} {element : Setting} {elements : List Setting}
      (found : element ∈ elements) (long : element.HoldsLong) :
      Escapes (.names field) (.list elements)
  | workers {value : Setting} (refused : ∀ number, value = .integer number → number < 1)
      (long : value.HoldsLong) : Escapes .workers value

/-- An entry of a field that is refused without being reported. -/
def EntryEscapes (entry : String × Setting) : Prop :=
  ∃ field, Field.ofKey? entry.1 = some field ∧ field.Escapes entry.2

/-- A table whose first entry that is refused is refused without being reported. -/
def TableEscapes (entries : List (String × Setting)) : Prop :=
  ∃ before entry after, entries = before ++ entry :: after ∧
    (∀ earlier ∈ before, ∃ alone, ofTable [earlier] = .ok alone) ∧ EntryEscapes entry

theorem reports_severities {overrides : List (String × Setting)} {error : ConfigError}
    (h : severities overrides = .error error) : reportsProject (.entry error) = true := by
  induction overrides with
  | nil => cases h
  | cons first rest ih =>
      obtain ⟨id, setting⟩ := first
      rw [severities] at h
      split at h
      · dsimp only at h
        split at h
        · cases h
          rfl
        · cases later : severities rest with
          | ok more =>
              rw [later] at h
              cases h
          | error fault =>
              rw [later] at h
              cases h
              exact ih later
      · cases h
        rfl

theorem reports_workersError_iff {value : Setting} :
    reportsProject (.entry (workersError value)) = false ↔ value.HoldsLong := by
  rw [← Setting.isWritable_eq_false_iff, workersError]
  cases value.isWritable with
  | true => exact iff_of_false nofun nofun
  | false => exact iff_of_true rfl rfl

/-- A number of workers is refused without a report exactly if it cannot be written. -/
theorem setWorkers_escapes_iff {config : Config} {key : String} {value : Setting} :
    (∃ error, config.setField key value .workers = .error error ∧
      reportsProject (.entry error) = false) ↔ Field.workers.Escapes value := by
  -- what is no number of workers is refused in the same way whatever it is
  have refused (other : ∀ number, value = .integer number → number < 1)
      (h : config.setField key value .workers = .error (workersError value)) :
      (∃ error, config.setField key value .workers = .error error ∧
        reportsProject (.entry error) = false) ↔ Field.workers.Escapes value := by
    rw [h]
    constructor
    · rintro ⟨_, ⟨⟩, unreported⟩
      exact .workers other (reports_workersError_iff.mp unreported)
    · rintro (_ | _ | ⟨-, long⟩)
      exact ⟨_, rfl, reports_workersError_iff.mpr long⟩
  cases value with
  | integer number =>
      by_cases few : number < 1
      · exact refused (by rintro _ ⟨⟩; exact few) (if_pos few)
      · have accepted : config.setField key (.integer number) .workers =
            .ok { config with workers := .count number.toNat } := if_neg few
        rw [accepted]
        refine iff_of_false (by rintro ⟨_, ⟨⟩, -⟩) ?_
        rintro (_ | _ | ⟨other, -⟩)
        exact few (other number rfl)
  | boolean yes =>
      cases yes with
      | true => exact iff_of_false (by rintro ⟨_, ⟨⟩, -⟩) (by rintro (_ | _ | ⟨-, ⟨⟩⟩))
      | false => exact refused nofun rfl
  | _ => exact refused nofun rfl

theorem setNames_escapes_iff {config : Config} {key : String} {value : Setting}
    {field : NameField} :
    (∃ error, config.setField key value (.names field) = .error error ∧
      reportsProject (.entry error) = false) ↔ (Field.names field).Escapes value := by
  cases value with
  | list elements =>
      rw [setField]
      cases writable : Setting.areWritable elements with
      | true =>
          refine iff_of_false (by rintro ⟨_, ⟨⟩, -⟩) ?_
          rintro (_ | ⟨found, long⟩)
          have unwritable := (Setting.areWritable_eq_false_iff _).mpr ⟨_, found, long⟩
          rw [writable] at unwritable
          cases unwritable
      | false =>
          obtain ⟨element, found, long⟩ := (Setting.areWritable_eq_false_iff _).mp writable
          exact iff_of_true ⟨_, rfl, rfl⟩ (.names found long)
  | _ => exact iff_of_false (by rintro ⟨_, ⟨⟩, ⟨⟩⟩) (by rintro ⟨⟩)

theorem setLogDirectory_escapes_iff {config : Config} {key : String} {value : Setting} :
    (∃ error, config.setField key value .logDirectory = .error error ∧
      reportsProject (.entry error) = false) ↔ Field.logDirectory.Escapes value := by
  cases value with
  | text path =>
      refine iff_of_false (by rintro ⟨_, ⟨⟩, -⟩) ?_
      rintro ⟨other⟩
      exact other path rfl
  | _ => exact iff_of_true ⟨_, rfl, rfl⟩ (.directory (by rintro _ ⟨⟩))

theorem reports_setDefaultModifier {config : Config} {key : String} {value : Setting}
    {error : ConfigError} (h : config.setField key value .defaultModifier = .error error) :
    reportsProject (.entry error) = true := by
  cases value with
  | text expression =>
      rw [setField] at h
      split at h
      · cases h
        rfl
      · cases h
  | _ =>
      cases h
      rfl

theorem reports_setSeverityOverrides {config : Config} {key : String} {value : Setting}
    {error : ConfigError} (h : config.setField key value .severityOverrides = .error error) :
    reportsProject (.entry error) = true := by
  cases value with
  | table overrides =>
      rw [setField] at h
      cases read : severities overrides with
      | ok found =>
          rw [read] at h
          cases h
      | error fault =>
          rw [read] at h
          cases h
          exact reports_severities read
  | _ =>
      cases h
      rfl

theorem setField_escapes_iff (config : Config) (key : String) (value : Setting) (field : Field) :
    (∃ error, config.setField key value field = .error error ∧
      reportsProject (.entry error) = false) ↔ field.Escapes value := by
  cases field with
  | names field => exact setNames_escapes_iff
  | defaultModifier =>
      refine iff_of_false ?_ (by rintro ⟨⟩)
      rintro ⟨error, refused, unreported⟩
      exact absurd (reports_setDefaultModifier refused) (Bool.eq_false_iff.mp unreported)
  | severityOverrides =>
      refine iff_of_false ?_ (by rintro ⟨⟩)
      rintro ⟨error, refused, unreported⟩
      exact absurd (reports_setSeverityOverrides refused) (Bool.eq_false_iff.mp unreported)
  | workers => exact setWorkers_escapes_iff
  | logDirectory => exact setLogDirectory_escapes_iff

theorem ofTable_singleton_escapes_iff :
    (∃ error, ofTable [entry] = .error error ∧ reportsProject (.entry error) = false) ↔
      EntryEscapes entry := by
  rw [ofTable_singleton, addEntry, EntryEscapes]
  cases Field.ofKey? entry.1 with
  | none =>
      refine iff_of_false ?_ (by rintro ⟨_, ⟨⟩, -⟩)
      rintro ⟨_, ⟨⟩, ⟨⟩⟩
  | some field =>
      dsimp only
      simp only [Option.some.injEq, exists_eq_left']
      exact setField_escapes_iff {} entry.1 entry.2 field

theorem ofTable_escapes_iff :
    (∃ error, ofTable entries = .error error ∧ reportsProject (.entry error) = false) ↔
      TableEscapes entries := by
  simp only [TableEscapes, ← ofTable_singleton_escapes_iff]
  constructor
  · rintro ⟨error, refused, unreported⟩
    obtain ⟨before, entry, after, whole, earlier, here⟩ :=
      (foldlM_addEntry_eq_error_iff {}).mp refused
    exact ⟨before, entry, after, whole, earlier, error, here, unreported⟩
  · rintro ⟨before, entry, after, whole, earlier, error, here, unreported⟩
    refine ⟨error, (foldlM_addEntry_eq_error_iff {}).mpr ?_, unreported⟩
    exact ⟨before, entry, after, whole, earlier, here⟩

/-! ## Files -/

inductive FileEscapes (octets : List UInt8) : Prop where
  | encoding (broken : ∀ text, Utf8.encode text ≠ octets) : FileEscapes octets
  | longInteger {text : List Char} {digits : Nat} (whole : Utf8.encode text = octets)
      (long : Toml.read text = .error (.longInteger digits)) : FileEscapes octets
  | tools {text : List Char} {settings : List (String × Setting)} {value : Setting}
      (whole : Utf8.encode text = octets) (read : Toml.read text = .ok settings)
      (there : settings.lookup "tool" = some value) (other : ∀ tools, value ≠ .table tools) :
      FileEscapes octets
  | entry {text : List Char} {settings tools entries : List (String × Setting)}
      (whole : Utf8.encode text = octets) (read : Toml.read text = .ok settings)
      (there : settings.lookup "tool" = some (.table tools))
      (within : tools.lookup "compose-lint" = some (.table entries))
      (escapes : TableEscapes entries) : FileEscapes octets

/-- Settings are refused without a report exactly if the tools are no table or the table of the
configuration is refused so. -/
theorem ofProject_escapes_iff {settings : List (String × Setting)} :
    (∃ error, ofProject settings = .error error ∧ reportsProject error = false) ↔
      (∃ value, settings.lookup "tool" = some value ∧ ∀ tools, value ≠ .table tools) ∨
        ∃ tools entries, settings.lookup "tool" = some (.table tools) ∧
          tools.lookup "compose-lint" = some (.table entries) ∧ TableEscapes entries := by
  rw [ofProject]
  cases settings.lookup "tool" with
  | none =>
      refine iff_of_false (by rintro ⟨_, ⟨⟩, -⟩) ?_
      rintro (⟨_, ⟨⟩, -⟩ | ⟨_, _, ⟨⟩, -⟩)
  | some value =>
      cases value with
      | table tools =>
          simp only [Option.some.injEq, Setting.table.injEq]
          cases within : tools.lookup "compose-lint" with
          | none =>
              refine iff_of_false (by rintro ⟨_, ⟨⟩, -⟩) ?_
              rintro (⟨_, rfl, other⟩ | ⟨_, _, rfl, within', -⟩)
              · exact other tools rfl
              · rw [within] at within'
                cases within'
          | some inner =>
              cases inner with
              | table entries =>
                  dsimp only
                  rw [Outcome.exists_mapError_error_iff, ofTable_escapes_iff]
                  constructor
                  · exact fun escapes => .inr ⟨tools, entries, rfl, within, escapes⟩
                  · rintro (⟨_, rfl, other⟩ | ⟨_, _, rfl, within', escapes⟩)
                    · exact absurd rfl (other tools)
                    · rw [within] at within'
                      cases within'
                      exact escapes
              -- no table in the place of the tool's own one: that is reported
              | _ =>
                  refine iff_of_false (by rintro ⟨_, ⟨⟩, ⟨⟩⟩) ?_
                  rintro (⟨_, rfl, other⟩ | ⟨_, _, rfl, within', -⟩)
                  · exact other tools rfl
                  · rw [within] at within'
                    cases within'
      | _ => exact iff_of_true ⟨_, rfl, rfl⟩ (.inl ⟨_, rfl, nofun⟩)

/-- A file is refused without a report exactly if its octets are among those. -/
theorem ofDocument_escapes_iff {path : Pathname} {octets : List UInt8} :
    (∃ error, ofDocument path octets = .error error ∧ reportsProject error = false) ↔
      FileEscapes octets := by
  rw [ofDocument, Outcome.exists_bind_error_iff, Outcome.exists_mapError_error_iff]
  constructor
  · rintro (⟨error, broken, -⟩ | ⟨text, decoded, error, refused, unreported⟩)
    · exact .encoding (Utf8.exists_decode_error_iff.mp ⟨error, broken⟩)
    · rw [Outcome.mapError_eq_ok_iff, Utf8.decode_eq_ok_iff] at decoded
      split at refused
      · cases refused
        cases unreported
      · exact .longInteger decoded ‹_›
      · rename_i settings read
        rcases ofProject_escapes_iff.mp ⟨error, refused, unreported⟩ with
          ⟨value, there, other⟩ | ⟨tools, entries, there, within, escapes⟩
        · exact .tools decoded read there other
        · exact .entry decoded read there within escapes
  · intro escapes
    have decodes {text : List Char} (whole : Utf8.encode text = octets) :
        (Utf8.decode octets).mapError ProjectError.encoding = .ok text :=
      Outcome.mapError_eq_ok_iff.mpr (Utf8.decode_eq_ok_iff.mpr whole)
    cases escapes with
    | encoding broken =>
        obtain ⟨error, broken⟩ := Utf8.exists_decode_error_iff.mpr broken
        exact .inl ⟨error, broken, rfl⟩
    | longInteger whole long => exact .inr ⟨_, decodes whole, _, by rw [long]; rfl, rfl⟩
    | tools whole read there other =>
        refine .inr ⟨_, decodes whole, ?_⟩
        rw [read]
        exact ofProject_escapes_iff.mpr (.inl ⟨_, there, other⟩)
    | entry whole read there within escapes =>
        refine .inr ⟨_, decodes whole, ?_⟩
        rw [read]
        exact ofProject_escapes_iff.mpr (.inr ⟨_, _, there, within, escapes⟩)

end Config

/-- A configuration is refused without a report exactly if its path name holds a null character, or
the octets of the file are among those. -/
theorem FileTree.config_escapes_iff {tree : FileTree} {path : Pathname} :
    (∃ error, tree.config path = .error error ∧ Failure.reportsProject error = false) ↔
      path.hasNull = true ∨
        ∃ octets, tree.read path = .ok octets ∧ Config.FileEscapes octets := by
  have only (error : IoError) :
      Failure.reportsProject
        (if error.fault = .nullCharacter then .nullCharacter else .unreadable path error) = false ↔
        error.fault = .nullCharacter := by
    split
    · exact iff_of_true rfl ‹_›
    · exact iff_of_false nofun ‹_›
  rw [config, exists_read_bind_error_iff only]
  simp only [Config.ofDocument_escapes_iff]

/-! ## Checks -/

section

variable {α ε : Type} {heading : String} {failure : ε → Failure} {error : ε} {state : Surroundings}

theorem Run.orReport_of_unreported [Wordings] (unreported : (failure error).isReported = false) :
    (Run.orReport heading failure (.error error) : Run α) state =
      (.error (.failure (failure error)), state) := by
  rw [Run.orReport, unreported]
  rfl

/-- An error that is reported ends a run with an exit code of its own if its wording can be read as
markup. -/
theorem Run.orReport_of_reported [Wordings] (reported : (failure error).isReported = true) :
    (Run.orReport heading failure (.error error) : Run α) state =
      match Console.render (heading ++ " " ++ (failure error).message) with
      | .ok text =>
          let lines := Console.wrap .fold Console.consoleWidth text
          (.error (.exit 2), { state with output := state.output ++ Console.ofLines lines })
      | .error fault => (.error (.failure (.markup fault)), state) := by
  rw [Run.orReport, if_pos reported]
  cases shown : Console.render (heading ++ " " ++ (failure error).message) with
  | ok text => exact Run.bind_of_ok (Run.say_prints shown state)
  | error fault =>
      refine Run.bind_of_error ?_
      rw [Run.say, shown]
      rfl

end

theorem Command.render_configurationError_iff {message : String} :
    (∃ text, Console.render ("[red]Configuration error:[/red]" ++ " " ++ message) = .ok text) ↔
      ∃ text, Console.render message = .ok text := by
  have named : Console.TagName "red".toList := ⟨by decide, by decide⟩
  have whole : ("[red]Configuration error:[/red]" ++ " " ++ message).toList =
      Console.tagged "red".toList "Configuration error:".toList (' ' :: message.toList) := by
    rw [String.toList_append]
    rfl
  have shows : (Console.render ("[red]Configuration error:[/red]" ++ " " ++ message)).toOption =
      (Console.render message).toOption.map fun text =>
        Console.shown "Configuration error:".toList ++ ' ' :: text := by
    rw [Console.toOption_render, Console.toOption_render, whole,
      Console.shown?_heading named (by decide)]
  constructor
  · rintro ⟨text, readable⟩
    rw [readable] at shows
    cases alone : Console.render message with
    | ok text => exact ⟨text, rfl⟩
    | error fault =>
        rw [alone] at shows
        cases shows
  · rintro ⟨text, readable⟩
    rw [readable] at shows
    exact ⟨_, Outcome.eq_ok_of_mem_toOption shows⟩

/-- A check whose configuration fails has the exit code for reported errors exactly if the error is
reported and its wording can be read as markup. -/
theorem Command.exitCode_of_config [Wordings] {arguments : List String} {options : CheckOptions}
    {tree : FileTree} {clock : Clock} {error : ProjectError}
    (asked : ofArguments arguments = some (.check options))
    (failed : tree.configOrDefault options.config = .error error) :
    (execute arguments tree clock).exitCode = 2 ↔
      Failure.reportsProject error = true ∧ ∃ text, Console.render error.message = .ok text := by
  rw [← Command.render_configurationError_iff]
  -- the configuration is read first, so a run that fails there ends with its code
  have begins {stop : Stop} {after : Surroundings}
      (h : Run.orReport "[red]Configuration error:[/red]" .project (.error error)
        { tree := tree, clock := clock } = ((.error stop : Except Stop Config), after)) :
      (execute arguments tree clock).exitCode = Stop.exitCode (.error stop : Except Stop Unit) := by
    have ends : Check.run options { tree := tree, clock := clock } = (.error stop, after) := by
      rw [Check.run_eq, Run.bind_of_ok (Run.files_eq _), failed]
      exact Run.bind_of_error h
    rw [execute_check asked ends]
  cases reported : Failure.reportsProject error with
  | false =>
      rw [begins (Run.orReport_of_unreported reported)]
      exact iff_of_false nofun nofun
  | true =>
      have wording := @Run.orReport_of_reported Config ProjectError
        "[red]Configuration error:[/red]" .project error { tree := tree, clock := clock } _ reported
      cases shown : Console.render ("[red]Configuration error:[/red]" ++ " " ++ error.message) with
      | ok text =>
          rw [begins (wording.trans (by rw [Failure.message, shown]))]
          exact iff_of_true rfl ⟨rfl, text, rfl⟩
      | error fault =>
          rw [begins (wording.trans (by rw [Failure.message, shown]))]
          exact iff_of_false nofun (by rintro ⟨-, _, ⟨⟩⟩)

/-! ## What is reported -/

namespace Config

open Failure (reportsProject)

/-- A table of settings is a configuration or is refused with a report, unless its first entry that
is refused escapes that.  So it is with a file, unless its path name holds a null character or its
octets escape that: they are no UTF-8, an integer is too long, the tools are no table, or the table
does.  A check whose configuration fails has the exit code for reported errors exactly if the error
is reported and its wording can be read as markup, whatever the wordings of the language are. -/
theorem returns_or_reports_iff [Wordings] (entries : List (String × Setting)) (tree : FileTree)
    (path : Pathname) :
    ((∃ config, ofTable entries = .ok config) ∨
        (∃ error, ofTable entries = .error error ∧ reportsProject (.entry error) = true) ↔
      ¬TableEscapes entries) ∧
    ((∃ config, tree.config path = .ok config) ∨
        (∃ error, tree.config path = .error error ∧ reportsProject error = true) ↔
      ¬(path.hasNull = true ∨ ∃ octets, tree.read path = .ok octets ∧ FileEscapes octets)) ∧
    ∀ (arguments : List String) (options : CheckOptions) (clock : Clock) (error : ProjectError),
      Command.ofArguments arguments = some (.check options) →
      tree.configOrDefault options.config = .error error →
      ((Command.execute arguments tree clock).exitCode = 2 ↔
        reportsProject error = true ∧ ∃ text, Console.render error.message = .ok text) := by
  refine ⟨?_, ?_, fun _ _ _ _ asked failed => Command.exitCode_of_config asked failed⟩
  · rw [← ofTable_escapes_iff]
    exact Outcome.ok_or_error_iff
  · rw [← FileTree.config_escapes_iff]
    exact Outcome.ok_or_error_iff

/-- A directory with a configuration file and nothing else. -/
def projectTree (text : String) : FileTree :=
  .single "pyproject.toml" (Utf8.encode text.toList)

theorem config_projectTree {text : String} {settings : List (String × Setting)}
    (read : Toml.read text.toList = .ok settings) :
    (projectTree text).config FileTree.projectFile = ofProject settings := by
  have file : (projectTree text).read FileTree.projectFile = .ok (Utf8.encode text.toList) :=
    FileTree.read_single _ (by decide) (by decide)
  rw [FileTree.config, file]
  simp only [Except.mapError, bind, Except.bind]
  rw [ofDocument, Utf8.decode_encode]
  simp only [Except.mapError, bind, Except.bind, read]

theorem configOrDefault_projectTree (text : String) :
    (projectTree text).configOrDefault none = (projectTree text).config FileTree.projectFile :=
  if_pos (FileTree.isFile_single _ (by decide) (by decide))

attribute [local instance] Wordings.short

/-- A number of workers below one is reported. -/
theorem returns_or_reports_iff_projectTree :
    Command.ofArguments ["check"] = some (.check {}) ∧
    (projectTree "[tool.compose-lint]\nworkers = 0\n").configOrDefault none =
      .error (.entry (.workers (.integer 0))) ∧
    (Command.execute ["check"] (projectTree "[tool.compose-lint]\nworkers = 0\n")
      default).exitCode = 2 := by
  have read : Toml.read "[tool.compose-lint]\nworkers = 0\n".toList =
      .ok [("tool", .table [("compose-lint", .table [("workers", .integer 0)])])] := by
    cbv
  have asked : Command.ofArguments ["check"] = some (.check {}) := by cbv
  have failed : (projectTree "[tool.compose-lint]\nworkers = 0\n").configOrDefault none =
      .error (.entry (.workers (.integer 0))) := by
    have short : Setting.isWritable (.integer 0) = true := by
      rw [Setting.isWritable]
      decide
    have refused : ofTable [("workers", .integer 0)] = .error (workersError (.integer 0)) := by
      rw [ofTable_singleton]
      rfl
    rw [configOrDefault_projectTree, config_projectTree read]
    change (ofTable [("workers", .integer 0)]).mapError ProjectError.entry = _
    rw [refused, workersError, if_pos short]
    rfl
  have wording : ProjectError.message (.entry (.workers (.integer 0))) =
      "workers must be a positive integer, got 0" := rfl
  have shown : Console.render "workers must be a positive integer, got 0" =
      .ok "workers must be a positive integer, got 0".toList := by
    cbv
  have exits := (returns_or_reports_iff [] _ FileTree.projectFile).2.2 _ _ default _ asked failed
  refine ⟨asked, failed, exits.mpr ⟨rfl, ?_⟩⟩
  rw [wording]
  exact ⟨_, shown⟩

/-- A directory for the log that is no text, and tools that are no table, are not reported. -/
theorem not_reports_projectTree :
    ofTable [("log_dir", .integer 5)] = .error (.directory "int") ∧
    reportsProject (.entry (.directory "int")) = false ∧
    (projectTree "tool = 5").config FileTree.projectFile = .error (.tools "int") ∧
    reportsProject (.tools "int") = false ∧
    (Command.execute ["check"] (projectTree "tool = 5") default).exitCode ≠ 2 := by
  have read : Toml.read "tool = 5".toList = .ok [("tool", .integer 5)] := by cbv
  have failed : (projectTree "tool = 5").config FileTree.projectFile = .error (.tools "int") := by
    rw [config_projectTree read]
    rfl
  refine ⟨by cbv, rfl, failed, rfl, fun reported => ?_⟩
  have asked : Command.ofArguments ["check"] = some (.check {}) := by cbv
  have loaded := (configOrDefault_projectTree "tool = 5").trans failed
  cases ((Command.exitCode_of_config asked loaded).mp reported).1

end Config

end SignatureLint

import Mathlib.Data.List.Forall2
import Mathlib.Data.List.Nodup
import SignatureLint.Proofs.Json.Lines
import SignatureLint.Report

/-!
# Reports as JSON

A report that is written as JSON is read back as an object with the number of files, with an object
for each entry in their order, and with the errors.  Every field of an entry and of its edit stands
at a key of its own.
-/

namespace SignatureLint

/-! ## What an object says -/

/-- An object says of an edit where it is, what it puts in the place of what, and whether it may be
applied without asking. -/
structure Edit.IsShownBy (edit : Edit) (fields : List (LooseText × Json)) : Prop where
  name : Json.lookup? "name" fields = some (.string edit.name)
  expected : Json.lookup? "original_text" fields = some (.string edit.expected)
  replacement : Json.lookup? "replacement_text" fields = some (.string edit.replacement)
  autoFix : Json.lookup? "auto_fix" fields = some (.boolean edit.autoFix)
  startLine : Json.lookup? "start_line" fields = some (.integer edit.span.startLine)
  startColumn : Json.lookup? "start_col" fields = some (.integer edit.span.startColumn)
  endLine : Json.lookup? "end_line" fields = some (.integer edit.span.endLine)
  endColumn : Json.lookup? "end_col" fields = some (.integer edit.span.endColumn)

/-- A value shows an edit, or shows that there is none. -/
inductive ReportEntry.ShowsFix : Option Edit → Json → Prop where
  | none : ShowsFix none .null
  | some {edit : Edit} {fields : List (LooseText × Json)} (shows : edit.IsShownBy fields) :
      ShowsFix (some edit) (.object fields)

/-- An object says of an entry what it is about, where it is and how it can be mended. -/
structure ReportEntry.IsShownBy (entry : ReportEntry) (fields : List (LooseText × Json)) :
    Prop where
  issue : Json.lookup? "issue_id" fields = some (.string entry.issue.id)
  severity : Json.lookup? "severity" fields = some (.string entry.severity.name)
  category : Json.lookup? "category" fields = some (.string entry.issue.category)
  path : Json.lookup? "file_path" fields = some (.string entry.path)
  line : Json.lookup? "line" fields = some (.integer entry.line)
  column : Json.lookup? "column" fields = some (.integer entry.column)
  endLine : Json.lookup? "end_line" fields = some (.integer entry.endLine)
  endColumn : Json.lookup? "end_column" fields = some (.integer entry.endColumn)
  message : Json.lookup? "message" fields = some (.string entry.message)
  fix : ∃ fix, Json.lookup? "fix" fields = some fix ∧ ShowsFix entry.fix fix

/-- An object says of a report how many files were scanned, what its entries are, in order, and
what its errors are. -/
structure Report.IsShownBy (report : Report) (fields : List (LooseText × Json)) : Prop where
  filesScanned : Json.lookup? "files_scanned" fields = some (.integer report.filesScanned)
  entries : ∃ shown, Json.lookup? "diagnostics" fields = some (.array shown) ∧
    List.Forall₂ (fun entry value => ∃ fields, value = .object fields ∧
      ReportEntry.IsShownBy entry fields) report.entries shown
  errors : Json.lookup? "errors" fields = some (.array (report.errors.map Json.string))

/-! ## Reports that are written -/

theorem ReportEntry.showsFix (fix : Option Edit) : ShowsFix fix (.optional fixJson fix) := by
  cases fix with
  | none => exact .none
  | some edit => exact .some ⟨rfl, rfl, rfl, rfl, rfl, rfl, rfl, rfl⟩

theorem Report.exists_isShownBy (report : Report) :
    ∃ fields, report.toJson = .object fields ∧ report.IsShownBy fields := by
  refine ⟨_, rfl, rfl, ⟨report.entries.map ReportEntry.toJson, rfl, ?_⟩, rfl⟩
  rw [List.forall₂_map_right_iff, List.forall₂_same]
  exact fun entry _ => ⟨_, rfl, rfl, rfl, rfl, rfl, rfl, rfl, rfl, rfl, rfl, _, rfl,
    ReportEntry.showsFix entry.fix⟩

open Json (Fractionless)
open LooseText (IsClean)

theorem Json.Fractionless.record {entries : List (String × Json)}
    (distinct : (entries.map Prod.fst).Nodup)
    (values : ∀ entry ∈ entries, Fractionless IsClean entry.2) :
    Fractionless IsClean (.record entries) := by
  refine .object ?_ ?_ ?_
  · have keys := distinct.map fun _ _ => LooseText.clean.inj
    rw [List.map_map] at keys ⊢
    exact keys
  · exact List.forall_mem_map.mpr fun entry _ => .clean entry.1
  · exact List.forall_mem_map.mpr fun entry found => values entry found

theorem ReportEntry.fractionless_fixJson (edit : Edit) : Fractionless IsClean (fixJson edit) := by
  refine .record (by simp) ?_
  simp only [List.forall_mem_cons]
  exact ⟨.text (.clean _), .text (.clean _), .text (.clean _), .boolean _, .integer _, .integer _,
    .integer _, .integer _, nofun⟩

theorem ReportEntry.fractionless_toJson (entry : ReportEntry) :
    Fractionless IsClean entry.toJson := by
  refine .record (by simp) ?_
  simp only [List.forall_mem_cons]
  refine ⟨.text (.clean _), .text (.clean _), .text (.clean _), .text (.clean _), .integer _,
    .integer _, .integer _, .integer _, .text (.clean _), ?_, nofun⟩
  cases entry.fix with
  | none => exact .null
  | some edit => exact fractionless_fixJson edit

theorem Report.fractionless_toJson (report : Report) : Fractionless IsClean report.toJson := by
  refine .record (by simp) ?_
  simp only [List.forall_mem_cons]
  refine ⟨.integer _, .array ?_, .array ?_, nofun⟩
  · exact List.forall_mem_map.mpr fun entry _ => entry.fractionless_toJson
  · exact List.forall_mem_map.mpr fun error _ => .text (.clean error)

theorem Report.isReadAs_lines (report : Report) :
    Json.IsReadAs (report.toJson.lines ++ "\n") report.toJson :=
  report.fractionless_toJson.isReadAs_lines

end SignatureLint

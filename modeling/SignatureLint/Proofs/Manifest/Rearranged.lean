import Mathlib.Data.List.Nodup
import Mathlib.Logic.Relation
import SignatureLint.Manifest
import SignatureLint.Proofs.Json.Distinct
import SignatureLint.Proofs.Manifest.Forms

/-!
# Manifests that are put differently

The order of the keys of a manifest does not count, and neither do keys that no check asks for.
A manifest in which keys are reordered and unknown keys are added, anywhere and any number of
times, has the same outlines, or is refused with the same complaints in the same order.
-/

namespace SignatureLint

namespace Json

/-! ## Changes -/

/-- What is asked of a value: a single value, a list, or a record with named fields. -/
inductive Shape where
  | value
  | list (element : Shape)
  | record (fields : List (String × Shape))

namespace Shape

def element : Shape → Shape
  | list shape => shape
  | _ => value

/-- The shape of the value at a key of an object. -/
def field : Shape → LooseText → Shape
  | record fields, .clean name => (fields.lookup name).getD value
  | _, _ => value

end Shape

/-- A value is put differently in one place: the keys of an object are reordered, or a key that is
no field is added to an object that stands for a record. -/
inductive Change : Shape → Json → Json → Prop where
  | reorder {shape : Shape} {entries entries' : List (LooseText × Json)}
      (perm : entries.Perm entries') : Change shape (.object entries) (.object entries')
  | add {fields : List (String × Shape)} {entries : List (LooseText × Json)} {key : LooseText}
      {value : Json} (unknown : ∀ field ∈ fields, key ≠ .clean field.1)
      (fresh : key ∉ entries.map Prod.fst) (distinct : value.DistinctKeys) :
      Change (.record fields) (.object entries) (.object (entries ++ [(key, value)]))
  | element {shape : Shape} {value value' : Json} (before after : List Json)
      (change : Change shape.element value value') :
      Change shape (.array (before ++ value :: after)) (.array (before ++ value' :: after))
  | entry {shape : Shape} {key : LooseText} {value value' : Json}
      (before after : List (LooseText × Json)) (change : Change (shape.field key) value value') :
      Change shape (.object (before ++ (key, value) :: after))
        (.object (before ++ (key, value') :: after))

namespace Change

variable {shape : Shape} {json json' : Json}

theorem distinctKeys (change : Change shape json json') (distinct : json.DistinctKeys) :
    json'.DistinctKeys := by
  induction change with
  | reorder perm =>
      exact .object ((perm.map Prod.fst).nodup_iff.mp distinct.keys)
        fun entry found => distinct.values entry (perm.mem_iff.mpr found)
  | add _ fresh here =>
      refine .object ?_ (List.forall_mem_append.mpr
        ⟨distinct.values, List.forall_mem_singleton.mpr here⟩)
      rw [List.map_append, List.map_singleton, (List.perm_append_singleton _ _).nodup_iff]
      exact List.nodup_cons.mpr ⟨fresh, distinct.keys⟩
  | element before after _ ih =>
      obtain ⟨front, there⟩ := List.forall_mem_append.mp distinct.each
      obtain ⟨here, back⟩ := List.forall_mem_cons.mp there
      exact .array (List.forall_mem_append.mpr ⟨front, List.forall_mem_cons.mpr ⟨ih here, back⟩⟩)
  | entry before after _ ih =>
      obtain ⟨front, there⟩ := List.forall_mem_append.mp distinct.values
      obtain ⟨here, back⟩ := List.forall_mem_cons.mp there
      refine .object ?_ (List.forall_mem_append.mpr
        ⟨front, List.forall_mem_cons.mpr ⟨ih here, back⟩⟩)
      have keys := distinct.keys
      rwa [List.map_append, List.map_cons] at keys ⊢

theorem compound (change : Change shape json json') :
    (∃ elements elements', json = .array elements ∧ json' = .array elements') ∨
      ∃ entries entries', json = .object entries ∧ json' = .object entries' := by
  cases change with
  | reorder _ => exact .inr ⟨_, _, rfl, rfl⟩
  | add _ _ _ => exact .inr ⟨_, _, rfl, rfl⟩
  | element _ _ _ => exact .inl ⟨_, _, rfl, rfl⟩
  | entry _ _ _ => exact .inr ⟨_, _, rfl, rfl⟩

/-- The value at a field stays, or is changed as the shape of the field has it. -/
theorem lookup?_field {fields : List (String × Shape)} {entries entries' : List (LooseText × Json)}
    (change : Change (.record fields) (.object entries) (.object entries'))
    (distinct : (Json.object entries).DistinctKeys) {name : String}
    (field : fields.lookup name = some shape) :
    lookup? name entries' = lookup? name entries ∨
      ∃ value value', lookup? name entries = some value ∧ lookup? name entries' = some value' ∧
        value.DistinctKeys ∧ Change shape value value' := by
  have distinct' := change.distinctKeys distinct
  cases change with
  | reorder perm => exact .inl (lookup?_perm perm distinct.keys name)
  | @add _ _ key value unknown fresh _ =>
      obtain ⟨earlier, later, shapes, -⟩ := List.lookup_eq_some_iff.mp field
      have listed : (name, shape) ∈ fields := shapes ▸ List.mem_append_right _ List.mem_cons_self
      -- in front of the others the new key is passed over
      have moved := List.perm_append_singleton (key, value) entries
      rw [← lookup?_perm moved distinct'.keys, lookup?, if_neg (unknown _ listed)]
      exact .inl rfl
  | @entry _ key value value' before after inner =>
      by_cases here : key = .clean name
      · subst here
        rw [Shape.field, field, Option.getD_some] at inner
        have found (here : Json) :
            (LooseText.clean name, here) ∈ before ++ (LooseText.clean name, here) :: after :=
          List.mem_append_right _ List.mem_cons_self
        exact .inr ⟨value, value', lookup?_of_mem distinct.keys (found value),
          lookup?_of_mem distinct'.keys (found value'), distinct.values _ (found value), inner⟩
      · have passed (value : Json)
            (distinct : (Json.object (before ++ (key, value) :: after)).DistinctKeys) :
            lookup? name (before ++ (key, value) :: after) = lookup? name (before ++ after) := by
          rw [← lookup?_perm List.perm_middle distinct.keys, lookup?, if_neg here]
        exact .inl ((passed value' distinct').trans (passed value distinct).symm)

end Change

/-! ## Checks -/

variable {α β : Type}

/-- A check comes to the same after a change. -/
def Respects (shape : Shape) (check : Json → Checked α) : Prop :=
  ∀ json json', json.DistinctKeys → Change shape json json' → check json' = check json

/-- What is made of the fields of a record comes to the same after a change. -/
def RespectsFields (fields : List (String × Shape))
    (check : List (LooseText × Json) → Checked α) : Prop :=
  ∀ entries entries', (Json.object entries).DistinctKeys →
    Change (.record fields) (.object entries) (.object entries') → check entries' = check entries

theorem respects_of_scalar {check : Json → Checked α} {shape : Shape} {fault : SignatureLint.Fault}
    (array : ∀ elements, check (.array elements) = .fail fault)
    (object : ∀ entries, check (.object entries) = .fail fault) : Respects shape check := by
  intro json json' _ change
  obtain ⟨elements, elements', rfl, rfl⟩ | ⟨entries, entries', rfl, rfl⟩ := change.compound
  · rw [array, array]
  · rw [object, object]

theorem respects_text (shape : Shape) : Respects shape checkText :=
  respects_of_scalar (fun _ => rfl) fun _ => rfl

theorem respects_boolean (shape : Shape) : Respects shape checkBoolean :=
  respects_of_scalar (fun _ => rfl) fun _ => rfl

theorem respects_integer (shape : Shape) : Respects shape checkInteger :=
  respects_of_scalar (fun _ => rfl) fun _ => rfl

theorem respects_atLeast (shape : Shape) (least : Int) : Respects shape (checkAtLeast least) :=
  respects_of_scalar (fun _ => rfl) fun _ => rfl

namespace Respects

variable {shape : Shape} {check : Json → Checked α}

theorem optional (respects : Respects shape check) : Respects shape (checkOptional check) := by
  intro json json' distinct change
  have same := congrArg (Checked.map some) (respects _ _ distinct change)
  obtain ⟨elements, elements', rfl, rfl⟩ | ⟨entries, entries', rfl, rfl⟩ := change.compound
  · exact same
  · exact same

theorem list (respects : Respects shape check) : Respects (.list shape) (checkList check) := by
  intro json json' distinct change
  cases change with
  | reorder _ => rfl
  | entry _ _ _ => rfl
  | @element _ value value' before after inner =>
      have here := distinct.each value (List.mem_append_right _ List.mem_cons_self)
      have from_ (position : Nat) : checkElements check position (before ++ value' :: after) =
          checkElements check position (before ++ value :: after) := by
        clear distinct
        induction before generalizing position with
        | nil => rw [List.nil_append, List.nil_append, checkElements, checkElements,
            respects _ _ here inner]
        | cons first before ih =>
            rw [List.cons_append, List.cons_append, checkElements, checkElements, ih]
      exact from_ 0

theorem record {kind : String} {fields : List (String × Shape)}
    {check : List (LooseText × Json) → Checked α} (respects : RespectsFields fields check) :
    Respects (.record fields) (checkRecord kind check) := by
  intro json json' distinct change
  obtain ⟨elements, elements', rfl, rfl⟩ | ⟨entries, entries', rfl, rfl⟩ := change.compound
  · rfl
  · exact respects _ _ distinct change

variable {fields : List (String × Shape)} {name : String}

theorem required (respects : Respects shape check) (field : fields.lookup name = some shape) :
    RespectsFields fields (Json.required name check) := by
  intro entries entries' distinct change
  rw [Json.required, Json.required]
  obtain same | ⟨value, value', found, found', here, inner⟩ := change.lookup?_field distinct field
  · rw [same]
  · rw [found, found']
    exact congrArg (Checked.under _) (respects _ _ here inner)

theorem withDefault (respects : Respects shape check) (field : fields.lookup name = some shape)
    (default : α) : RespectsFields fields (Json.withDefault name default check) := by
  intro entries entries' distinct change
  rw [Json.withDefault, Json.withDefault]
  obtain same | ⟨value, value', found, found', here, inner⟩ := change.lookup?_field distinct field
  · rw [same]
  · rw [found, found']
    exact congrArg (Checked.under _) (respects _ _ here inner)

end Respects

namespace RespectsFields

variable {fields : List (String × Shape)}

theorem const (checked : Checked α) : RespectsFields fields fun _ => checked :=
  fun _ _ _ _ => rfl

theorem apply {function : List (LooseText × Json) → Checked (α → β)}
    {argument : List (LooseText × Json) → Checked α} (respects : RespectsFields fields function)
    (respects' : RespectsFields fields argument) :
    RespectsFields fields fun entries => (function entries).apply (argument entries) :=
  fun _ _ distinct change =>
    congrArg₂ Checked.apply (respects _ _ distinct change) (respects' _ _ distinct change)

end RespectsFields

end Json

/-! ## Manifests -/

namespace Manifest

open Json

/-- A place in a file. -/
def spanShape : Shape :=
  .record [("start_line", .value), ("start_col", .value), ("end_line", .value), ("end_col", .value)]

def parameterShape : Shape :=
  .record
    [("name", .value), ("type", .value), ("has_default", .value), ("accepts_default", .value),
      ("span", spanShape), ("type_span", spanShape), ("text", .value)]

def functionShape : Shape :=
  .record
    [("name", .value), ("qualified_name", .value), ("annotations", .list .value),
      ("parameters", .list parameterShape), ("span", spanShape), ("interface_member", .value),
      ("abstract", .value), ("expect_or_actual", .value), ("override", .value),
      ("enclosing_scope", .value)]

def fileShape : Shape :=
  .record [("path", .value), ("functions", .list functionShape)]

def documentShape : Shape :=
  .record [("version", .value), ("files", .list fileShape)]

theorem respects_span : Respects spanShape SpanEntry.check :=
  Respects.record <| RespectsFields.const (.valid SpanEntry.mk)
    |>.apply ((respects_atLeast .value 1).required rfl)
    |>.apply ((respects_atLeast .value 0).required rfl)
    |>.apply ((respects_atLeast .value 1).required rfl)
    |>.apply ((respects_atLeast .value 0).required rfl)

theorem respects_parameter : Respects parameterShape ParameterEntry.check :=
  Respects.record <| RespectsFields.const (.valid ParameterEntry.mk)
    |>.apply ((respects_text .value).required rfl)
    |>.apply ((respects_text .value).optional.withDefault rfl none)
    |>.apply ((respects_boolean .value).withDefault rfl false)
    |>.apply ((respects_boolean .value).withDefault rfl true)
    |>.apply (respects_span.required rfl)
    |>.apply (respects_span.optional.withDefault rfl none)
    |>.apply ((respects_text .value).optional.withDefault rfl none)

theorem respects_function : Respects functionShape FunctionEntry.check :=
  Respects.record <| RespectsFields.const (.valid FunctionEntry.mk)
    |>.apply ((respects_text .value).required rfl)
    |>.apply ((respects_text .value).optional.withDefault rfl none)
    |>.apply ((respects_text .value).list.withDefault rfl [])
    |>.apply (respects_parameter.list.withDefault rfl [])
    |>.apply (respects_span.required rfl)
    |>.apply ((respects_boolean .value).withDefault rfl false)
    |>.apply ((respects_boolean .value).withDefault rfl false)
    |>.apply ((respects_boolean .value).withDefault rfl false)
    |>.apply ((respects_boolean .value).withDefault rfl false)
    |>.apply ((respects_text .value).optional.withDefault rfl none)

theorem respects_file : Respects fileShape FileEntry.check :=
  Respects.record <| RespectsFields.const (.valid FileEntry.mk)
    |>.apply ((respects_text .value).required rfl)
    |>.apply (respects_function.list.withDefault rfl [])

theorem respects_document : Respects documentShape Document.check :=
  Respects.record <| RespectsFields.const (.valid Document.mk)
    |>.apply ((respects_integer .value).withDefault rfl 1)
    |>.apply (respects_file.list.withDefault rfl [])

theorem check_of_changes {json json' : Json}
    (changes : Relation.ReflTransGen (Change documentShape) json json')
    (distinct : json.DistinctKeys) : Document.check json' = Document.check json := by
  have both : json'.DistinctKeys ∧ Document.check json' = Document.check json := by
    induction changes with
    | refl => exact ⟨distinct, rfl⟩
    | tail _ change ih =>
        obtain ⟨before, same⟩ := ih
        exact ⟨change.distinctKeys before, (respects_document _ _ before change).trans same⟩
  exact both.2

/-- A manifest that is put differently has the same outlines, or the same complaints. -/
theorem read_of_changes {raw raw' : String} {json json' : Json}
    (read : Json.read raw = .ok json) (read' : Json.read raw' = .ok json')
    (changes : Relation.ReflTransGen (Change documentShape) json json') :
    (∃ outlines, Manifest.read raw = .ok outlines ∧ Manifest.read raw' = .ok outlines) ∨
      ∃ complaints, Manifest.read raw = .error (.invalid complaints) ∧
        Manifest.read raw' = .error (.invalid complaints) := by
  have same := check_of_changes changes (distinctKeys_of_read read)
  rw [Manifest.read, Manifest.read, read, read']
  dsimp only
  rw [same]
  cases Document.check json with
  | valid document => exact .inl ⟨_, rfl, rfl⟩
  | invalid complaints => exact .inr ⟨complaints, rfl, rfl⟩

/-- A place with a field that no check asks for. -/
def notedPlace (notes : List (String × Json)) : Json :=
  record ([("start_line", .integer 1), ("start_col", .integer 0), ("end_line", .integer 1),
    ("end_col", .integer 9)] ++ notes)

/-- A function at such a place. -/
def notedFunction (notes : List (String × Json)) : Json :=
  record [("name", string "f"), ("span", notedPlace notes)]

/-- A manifest of the function in which the path comes first. -/
def pathFirst : Json :=
  record [("files", .array [record
    [("path", string "a.kt"), ("functions", .array [notedFunction []])]])]

/-- A manifest of the function in which the path comes last, and of which the place has a note. -/
def pathLast : Json :=
  record [("files", .array [record
    [("functions", .array [notedFunction [("length", .integer 9)]]), ("path", string "a.kt")]])]

theorem changes_pathFirst :
    Relation.ReflTransGen (Change documentShape) pathFirst pathLast := by
  have noted : Change spanShape (notedPlace []) (notedPlace [("length", .integer 9)]) :=
    .add (by decide) (by decide) (.integer 9)
  have function :
      Change functionShape (notedFunction []) (notedFunction [("length", .integer 9)]) :=
    .entry [(.clean "name", string "f")] [] noted
  have file (function : Json) : Change fileShape
      (record [("path", string "a.kt"), ("functions", .array [function])])
      (record [("functions", .array [function]), ("path", string "a.kt")]) :=
    .reorder (.swap ..)
  have document {file file' : Json} (change : Change fileShape file file') :
      Change documentShape (record [("files", .array [file])])
        (record [("files", .array [file'])]) :=
    .entry [] [] (.element [] [] change)
  refine .tail (.single (document ?_)) (document (file _))
  exact .entry [(.clean "path", string "a.kt")] [] (.element [] [] function)

theorem plain_record {entries : List (String × Json)} (keys : (entries.map Prod.fst).Nodup)
    (values : ∀ entry ∈ entries, Plain entry.2) : Plain (record entries) := by
  refine .object ?_ (List.forall_mem_map.mpr fun entry _ => .clean entry.1)
    (List.forall_mem_map.mpr values)
  rw [List.map_map]
  have clean := keys.map fun _ _ => LooseText.clean.inj
  rwa [List.map_map] at clean

/-- A manifest of one function is plain, whether the path or the function comes first. -/
theorem plain_pathFirst : Plain pathFirst ∧ Plain pathLast := by
  have digit {number : Nat} (short : number < 10) : Plain (.integer number) :=
    .integer (short_of_digit short)
  have numbers : ∀ entry ∈ [("start_line", Json.integer 1), ("start_col", .integer 0),
      ("end_line", .integer 1), ("end_col", .integer 9)], Plain entry.2 := by
    simp only [List.forall_mem_cons]
    exact ⟨digit (by decide), digit (by decide), digit (by decide), digit (by decide), nofun⟩
  have function {notes : List (String × Json)} (place : Plain (notedPlace notes)) :
      Plain (.array [notedFunction notes]) := by
    have names : ["name", "span"].Nodup := by decide
    refine .array (List.forall_mem_singleton.mpr (plain_record names ?_))
    exact List.forall_mem_cons.mpr ⟨plain_string "f", List.forall_mem_singleton.mpr place⟩
  have document {file : Json} (plain : Plain file) : Plain (record [("files", .array [file])]) :=
    plain_record (List.nodup_singleton _)
      (List.forall_mem_singleton.mpr (.array (List.forall_mem_singleton.mpr plain)))
  constructor
  · have place : Plain (notedPlace []) := plain_record (by decide) numbers
    refine document (plain_record (by decide) ?_)
    exact List.forall_mem_cons.mpr
      ⟨plain_string "a.kt", List.forall_mem_singleton.mpr (function place)⟩
  · have place : Plain (notedPlace [("length", .integer 9)]) :=
      plain_record (by decide) (List.forall_mem_append.mpr
        ⟨numbers, List.forall_mem_singleton.mpr (digit (by decide))⟩)
    refine document (plain_record (by decide) ?_)
    exact List.forall_mem_cons.mpr
      ⟨function place, List.forall_mem_singleton.mpr (plain_string "a.kt")⟩

def notedOutline : FileOutline where
  path := "a.kt"
  declarations := [⟨"f", "f", none, ∅, {}, ⟨"a.kt", 1, 0, 1, 9⟩, []⟩]

theorem read_pathFirst : Manifest.read pathFirst.line = .ok [notedOutline] := by
  rw [Manifest.read, plain_pathFirst.1.read_line]
  rfl

/-- So the other one is accepted, with the same outline. -/
theorem read_of_changes_pathFirst :
    Json.read pathFirst.line = .ok pathFirst ∧ Json.read pathLast.line = .ok pathLast ∧
      Relation.ReflTransGen (Change documentShape) pathFirst pathLast ∧
      Manifest.read pathFirst.line = .ok [notedOutline] ∧
      Manifest.read pathLast.line = .ok [notedOutline] := by
  have read := plain_pathFirst.1.read_line
  have read' := plain_pathFirst.2.read_line
  refine ⟨read, read', changes_pathFirst, read_pathFirst, ?_⟩
  obtain ⟨outlines, first, last⟩ | ⟨complaints, first, -⟩ :=
    read_of_changes read read' changes_pathFirst
  · rw [read_pathFirst] at first
    cases first
    exact last
  · rw [read_pathFirst] at first
    cases first

end Manifest

end SignatureLint

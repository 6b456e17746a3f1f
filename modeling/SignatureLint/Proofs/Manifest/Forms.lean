import SignatureLint.Manifest.Check
import SignatureLint.Proofs.Json.Lines

/-!
# How the values of a record are written

A field of a record may be left out, and some fields may hold nothing.  A check lets every value
pass that is written in its usual form, and takes the default for a field that was left out,
whatever the order of the fields and whatever other fields there are.
-/

namespace SignatureLint.Json

variable {α β : Type}

/-! ## Forms -/

def IsText (text : String) (json : Json) : Prop :=
  json = .string text

/-- A truth value as a truth value. -/
def IsBoolean (value : Bool) (json : Json) : Prop :=
  json = .boolean value

def IsInteger (value : Int) (json : Json) : Prop :=
  json = .integer value

/-- A value that may be missing. -/
def IsNullable (form : α → Json → Prop) : Option α → Json → Prop
  | none, json => json = .null
  | some value, json => form value json

/-- A list with its elements in order. -/
def IsList (form : α → Json → Prop) (values : List α) (json : Json) : Prop :=
  ∃ elements, json = .array elements ∧ List.Forall₂ form values elements

/-- A record with its fields, in any order and among others. -/
def IsRecord (fields : List (LooseText × Json) → Prop) (json : Json) : Prop :=
  ∃ entries, json = .object entries ∧ fields entries

def HasField (name : String) (form : α → Json → Prop) (value : α)
    (entries : List (LooseText × Json)) : Prop :=
  ∃ json, lookup? name entries = some json ∧ form value json

/-- A field that may be left out. -/
def MayHaveField (name : String) (form : α → Json → Prop) (given : Option α)
    (entries : List (LooseText × Json)) : Prop :=
  match given with
  | none => lookup? name entries = none
  | some value => HasField name form value entries

theorem not_isText_null (text : String) : ¬IsText text .null :=
  nofun

theorem not_isRecord_null (fields : List (LooseText × Json) → Prop) : ¬IsRecord fields .null := by
  rintro ⟨_, ⟨⟩, -⟩

/-! ## Checks -/

/-- A check lets a value pass that is written in a form, and makes of it what it should. -/
def Accepts (check : Json → Checked β) (form : α → Json → Prop) (make : α → β) : Prop :=
  ∀ value json, form value json → check json = .valid (make value)

variable {check : Json → Checked β} {form : α → Json → Prop} {make : α → β}

theorem accepts_text : Accepts checkText IsText id := by
  rintro text _ rfl
  rfl

theorem accepts_boolean : Accepts checkBoolean IsBoolean id := by
  rintro value _ rfl
  rfl

theorem accepts_integer : Accepts checkInteger IsInteger id := by
  rintro value _ rfl
  rfl

theorem accepts_atLeast {least value : Int} (enough : least ≤ value) {json : Json}
    (form : IsInteger value json) : checkAtLeast least json = .valid value := by
  obtain rfl := form
  change (if value < least then _ else _) = _
  exact if_neg (Int.not_lt.mpr enough)

theorem Accepts.nullable (accepts : Accepts check form make)
    (present : ∀ value, ¬form value .null) :
    Accepts (checkOptional check) (IsNullable form) (Option.map make) := by
  intro given json written
  cases given with
  | none =>
      obtain rfl := written
      rfl
  | some value =>
      have checked : (check json).map some = .valid (some (make value)) := by
        rw [accepts value json written]
        rfl
      cases json with
      | null => exact absurd written (present value)
      | _ => exact checked

theorem Accepts.list (accepts : Accepts check form make) :
    Accepts (checkList check) (IsList form) (List.map make) := by
  rintro values _ ⟨elements, rfl, each⟩
  have from_ (position : Nat) :
      checkElements check position elements = .valid (values.map make) := by
    induction each generalizing position with
    | nil => rfl
    | cons head _ ih =>
        rw [checkElements, accepts _ _ head, ih (position + 1)]
        rfl
  exact from_ 0

theorem required_eq_valid {name : String} {value : α} {result : β}
    {entries : List (LooseText × Json)} (field : HasField name form value entries)
    (passes : ∀ json, form value json → check json = .valid result) :
    required name check entries = .valid result := by
  obtain ⟨json, found, written⟩ := field
  rw [required, found]
  dsimp only
  rw [passes json written]
  rfl

theorem Accepts.required (accepts : Accepts check form make) {name : String} {value : α}
    {entries : List (LooseText × Json)} (field : HasField name form value entries) :
    Json.required name check entries = .valid (make value) :=
  required_eq_valid field (accepts value)

theorem Accepts.withDefault (accepts : Accepts check form make) {name : String} {given : Option α}
    {entries : List (LooseText × Json)} (field : MayHaveField name form given entries)
    (default : β) :
    Json.withDefault name default check entries = .valid ((given.map make).getD default) := by
  cases given with
  | none =>
      have left : lookup? name entries = none := field
      rw [Json.withDefault, left]
      rfl
  | some value =>
      obtain ⟨json, found, written⟩ := field
      rw [Json.withDefault, found]
      dsimp only
      rw [accepts value json written]
      rfl

theorem accepts_record {kind : String} {fields : List (LooseText × Json) → Checked β}
    {written : α → List (LooseText × Json) → Prop}
    (passes : ∀ value entries, written value entries → fields entries = .valid (make value)) :
    Accepts (checkRecord kind fields) (fun value => IsRecord (written value)) make := by
  rintro value _ ⟨entries, rfl, here⟩
  exact passes value entries here

/-! ## Writing records -/

def givenEntries (fields : List (String × Option Json)) : List (LooseText × Json) :=
  fields.filterMap fun field => field.2.map fun json => (LooseText.clean field.1, json)

theorem givenEntries_cons_none (name : String) (fields : List (String × Option Json)) :
    givenEntries ((name, none) :: fields) = givenEntries fields :=
  rfl

theorem givenEntries_cons_some (name : String) (json : Json)
    (fields : List (String × Option Json)) :
    givenEntries ((name, some json) :: fields) = (.clean name, json) :: givenEntries fields :=
  rfl

theorem exists_of_mem_givenEntries {fields : List (String × Option Json)}
    {entry : LooseText × Json} (found : entry ∈ givenEntries fields) :
    ∃ name, entry.1 = .clean name ∧ (name, some entry.2) ∈ fields := by
  obtain ⟨⟨name, given⟩, here, made⟩ := List.mem_filterMap.mp found
  obtain ⟨json, rfl, rfl⟩ := Option.map_eq_some_iff.mp made
  exact ⟨name, rfl, here⟩

theorem lookup?_givenEntries_eq_none {fields : List (String × Option Json)} {name : String}
    (absent : name ∉ fields.map Prod.fst) : lookup? name (givenEntries fields) = none := by
  induction fields with
  | nil => rfl
  | cons first rest ih =>
      obtain ⟨other, given⟩ := first
      rw [List.map_cons, List.mem_cons, not_or] at absent
      cases given with
      | none => exact ih absent.2
      | some json =>
          have different : LooseText.clean other ≠ .clean name := fun same =>
            absent.1 (LooseText.clean.inj same).symm
          rw [givenEntries_cons_some, lookup?, if_neg different, ih absent.2]

theorem lookup?_givenEntries {fields : List (String × Option Json)}
    (distinct : (fields.map Prod.fst).Nodup) {name : String} {given : Option Json}
    (found : (name, given) ∈ fields) : lookup? name (givenEntries fields) = given := by
  induction fields with
  | nil => cases found
  | cons first rest ih =>
      obtain ⟨fresh, others⟩ := List.nodup_cons.mp distinct
      rcases List.mem_cons.mp found with rfl | later
      · cases given with
        | none =>
            rw [givenEntries_cons_none]
            exact lookup?_givenEntries_eq_none fresh
        | some json => rw [givenEntries_cons_some, lookup?, if_pos rfl]
      · obtain ⟨other, value⟩ := first
        have different : LooseText.clean other ≠ .clean name := by
          rintro ⟨⟩
          have again : name ∈ rest.map Prod.fst := List.mem_map_of_mem later
          exact fresh again
        cases value with
        | none => exact ih others later
        | some json => rw [givenEntries_cons_some, lookup?, if_neg different, ih others later]

section

variable {fields : List (String × Option Json)} {name : String} {form : α → Json → Prop}

theorem hasField_givenEntries (distinct : (fields.map Prod.fst).Nodup) {value : α} {json : Json}
    (found : (name, some json) ∈ fields) (written : form value json) :
    HasField name form value (givenEntries fields) :=
  ⟨json, lookup?_givenEntries distinct found, written⟩

theorem mayHaveField_givenEntries (distinct : (fields.map Prod.fst).Nodup) {write : α → Json}
    (each : ∀ value, form value (write value)) {given : Option α}
    (found : (name, given.map write) ∈ fields) :
    MayHaveField name form given (givenEntries fields) := by
  cases given with
  | none => exact lookup?_givenEntries distinct found
  | some value => exact hasField_givenEntries distinct found (each value)

end

theorem isNullable_optional {write : α → Json} (each : ∀ value, form value (write value)) :
    ∀ given, IsNullable form given (optional write given)
  | none => rfl
  | some value => each value

theorem isList_map {write : α → Json} (each : ∀ value, form value (write value))
    (values : List α) : IsList form values (.array (values.map write)) := by
  refine ⟨_, rfl, ?_⟩
  rw [List.forall₂_map_right_iff, List.forall₂_same]
  exact fun value _ => each value

/-- The given fields make up a plain value, if no two of them have the same name. -/
theorem plain_givenEntries {fields : List (String × Option Json)}
    (distinct : (fields.map Prod.fst).Nodup)
    (plain : ∀ field ∈ fields, ∀ json ∈ field.2, Plain json) :
    Plain (.object (givenEntries fields)) := by
  refine .object ?_ ?_ ?_
  · induction fields with
    | nil => exact List.nodup_nil
    | cons first rest ih =>
        obtain ⟨name, given⟩ := first
        obtain ⟨fresh, others⟩ := List.nodup_cons.mp distinct
        have tail := ih others fun field found => plain field (List.mem_cons_of_mem _ found)
        cases given with
        | none => exact tail
        | some json =>
            rw [givenEntries_cons_some, List.map_cons, List.nodup_cons]
            refine ⟨fun found => ?_, tail⟩
            obtain ⟨entry, there, same⟩ := List.mem_map.mp found
            obtain ⟨other, key, here⟩ := exists_of_mem_givenEntries there
            obtain rfl : other = name := LooseText.clean.inj (key.symm.trans same)
            have again : other ∈ rest.map Prod.fst := List.mem_map_of_mem here
            exact fresh again
  · intro entry found
    obtain ⟨name, key, -⟩ := exists_of_mem_givenEntries found
    rw [key]
    exact .clean name
  · intro entry found
    obtain ⟨name, -, here⟩ := exists_of_mem_givenEntries found
    exact plain _ here _ rfl

theorem plain_string (text : String) : Plain (.string text) :=
  .text (.clean text)

section

variable {write : α → Json}

theorem plain_some {json : Json} (plain : Plain json) : ∀ found ∈ some json, Plain found := by
  rintro _ ⟨⟩
  exact plain

theorem plain_given (each : ∀ value, Plain (write value)) (given : Option α) :
    ∀ found ∈ given.map write, Plain found := by
  intro found here
  obtain ⟨value, -, rfl⟩ := Option.map_eq_some_iff.mp here
  exact each value

theorem plain_optional (each : ∀ value, Plain (write value)) :
    ∀ given, Plain (optional write given)
  | none => .null
  | some value => each value

theorem plain_list (each : ∀ value, Plain (write value)) (values : List α) :
    Plain (.array (values.map write)) := by
  refine .array fun element found => ?_
  obtain ⟨value, -, rfl⟩ := List.mem_map.mp found
  exact each value

end

end SignatureLint.Json

import SignatureLint.Manifest
import SignatureLint.Proofs.Lexeme

/-!
# What a manifest that was checked holds

A check that succeeds has checked every part.  In particular no place of a manifest is
before the first line or before the first column of its line, although it need not be
a place of any text.
-/

namespace SignatureLint

variable {α β : Type}

/-! ## Checks -/

namespace Checked

theorem exists_of_apply_eq_valid {function : Checked (α → β)} {argument : Checked α} {result : β}
    (h : function.apply argument = .valid result) :
    ∃ f a, function = .valid f ∧ argument = .valid a ∧ result = f a := by
  cases function with
  | invalid complaints =>
      cases argument <;> cases h
  | valid f =>
      cases argument with
      | invalid complaints => cases h
      | valid a =>
          cases h
          exact ⟨f, a, rfl, rfl, rfl⟩

theorem exists_of_map_eq_valid {change : α → β} {checked : Checked α} {result : β}
    (h : checked.map change = .valid result) : ∃ a, checked = .valid a ∧ result = change a := by
  cases checked with
  | invalid complaints => cases h
  | valid a =>
      cases h
      exact ⟨a, rfl, rfl⟩

theorem eq_valid_of_under {step : Step} {checked : Checked α} {result : α}
    (h : checked.under step = .valid result) : checked = .valid result := by
  cases checked with
  | invalid complaints => cases h
  | valid a => exact h

end Checked

namespace Json

/-- Every value that a check lets pass has a property. -/
def Ensures (check : Json → Checked α) (property : α → Prop) : Prop :=
  ∀ json value, check json = .valid value → property value

variable {check : Json → Checked α} {property : α → Prop}

theorem ensures_checkAtLeast (least : Int) : Ensures (checkAtLeast least) (least ≤ ·) := by
  intro json value h
  unfold checkAtLeast at h
  cases checked : checkInteger json with
  | invalid complaints =>
      rw [checked] at h
      cases h
  | valid found =>
      rw [checked] at h
      dsimp only at h
      split at h
      · cases h
      · cases h
        omega

theorem Ensures.checkList (ensures : Ensures check property) :
    Ensures (Json.checkList check) fun values => ∀ value ∈ values, property value := by
  intro json values h
  cases json with
  | array elements =>
      have from_ (position : Nat) : ∀ values,
          checkElements check position elements = .valid values →
            ∀ value ∈ values, property value := by
        clear h
        induction elements generalizing position with
        | nil =>
            intro values h
            cases h
            exact fun _ found => absurd found List.not_mem_nil
        | cons first rest ih =>
            intro values h
            obtain ⟨cons, others, head, tail, rfl⟩ := Checked.exists_of_apply_eq_valid h
            obtain ⟨value, here, rfl⟩ := Checked.exists_of_map_eq_valid head
            exact List.forall_mem_cons.mpr
              ⟨ensures first value (Checked.eq_valid_of_under here), ih (position + 1) others tail⟩
      exact from_ 0 values h
  | _ => cases h

theorem Ensures.checkOptional (ensures : Ensures check property) :
    Ensures (Json.checkOptional check) fun given => ∀ value ∈ given, property value := by
  intro json given h
  have present {other : Json} (checked : (check other).map some = .valid given) :
      ∀ value ∈ given, property value := by
    obtain ⟨value, here, rfl⟩ := Checked.exists_of_map_eq_valid checked
    rintro _ ⟨⟩
    exact ensures other value here
  cases json with
  | null =>
      cases h
      exact nofun
  | _ => exact present h

theorem Ensures.withDefault (ensures : Ensures check property) {name : String}
    {entries : List (LooseText × Json)} {default value : α}
    (h : Json.withDefault name default check entries = .valid value)
    (usual : property default) : property value := by
  unfold Json.withDefault at h
  split at h
  · cases h
    exact usual
  · exact ensures _ value (Checked.eq_valid_of_under h)

theorem Ensures.required (ensures : Ensures check property) {name : String}
    {entries : List (LooseText × Json)} {value : α}
    (h : Json.required name check entries = .valid value) : property value := by
  unfold Json.required at h
  split at h
  · cases h
  · exact ensures _ value (Checked.eq_valid_of_under h)

theorem ensures_checkRecord {kind : String} {fields : List (LooseText × Json) → Checked α}
    (h : ∀ entries value, fields entries = .valid value → property value) :
    Ensures (checkRecord kind fields) property := by
  intro json value checked
  cases json with
  | object entries => exact h entries value checked
  | _ => cases checked

end Json

/-! ## Manifests -/

namespace Manifest

open Json

/-- A place in a file: lines count from one, columns from zero. -/
structure SpanEntry.Counted (entry : SpanEntry) : Prop where
  startLine : 1 ≤ entry.startLine
  startColumn : 0 ≤ entry.startColumn
  endLine : 1 ≤ entry.endLine
  endColumn : 0 ≤ entry.endColumn

theorem ensures_span : Ensures SpanEntry.check SpanEntry.Counted := by
  apply ensures_checkRecord
  intro entries value h
  obtain ⟨_, endColumn, h₁, fourth, rfl⟩ := Checked.exists_of_apply_eq_valid h
  obtain ⟨_, endLine, h₂, third, rfl⟩ := Checked.exists_of_apply_eq_valid h₁
  obtain ⟨_, startColumn, h₃, second, rfl⟩ := Checked.exists_of_apply_eq_valid h₂
  obtain ⟨_, startLine, h₄, first, rfl⟩ := Checked.exists_of_apply_eq_valid h₃
  cases h₄
  exact
    { startLine := (ensures_checkAtLeast 1).required first
      startColumn := (ensures_checkAtLeast 0).required second
      endLine := (ensures_checkAtLeast 1).required third
      endColumn := (ensures_checkAtLeast 0).required fourth }

/-- A parameter of which the places are counted as they should be. -/
structure ParameterEntry.Counted (entry : ParameterEntry) : Prop where
  span : entry.span.Counted
  typeSpan : ∀ place ∈ entry.typeSpan, place.Counted

/-- A function of which the places are counted as they should be. -/
structure FunctionEntry.Counted (entry : FunctionEntry) : Prop where
  span : entry.span.Counted
  parameters : ∀ parameter ∈ entry.parameters, parameter.Counted

theorem ensures_parameter : Ensures ParameterEntry.check ParameterEntry.Counted := by
  apply ensures_checkRecord
  intro entries value h
  obtain ⟨_, text, h₁, -, rfl⟩ := Checked.exists_of_apply_eq_valid h
  obtain ⟨_, typeSpan, h₂, counted', rfl⟩ := Checked.exists_of_apply_eq_valid h₁
  obtain ⟨_, span, h₃, counted, rfl⟩ := Checked.exists_of_apply_eq_valid h₂
  obtain ⟨_, acceptsDefault, h₄, -, rfl⟩ := Checked.exists_of_apply_eq_valid h₃
  obtain ⟨_, hasDefault, h₅, -, rfl⟩ := Checked.exists_of_apply_eq_valid h₄
  obtain ⟨_, type, h₆, -, rfl⟩ := Checked.exists_of_apply_eq_valid h₅
  obtain ⟨_, name, h₇, -, rfl⟩ := Checked.exists_of_apply_eq_valid h₆
  cases h₇
  exact
    { span := ensures_span.required counted
      typeSpan := ensures_span.checkOptional.withDefault counted' nofun }

theorem ensures_function : Ensures FunctionEntry.check FunctionEntry.Counted := by
  apply ensures_checkRecord
  intro entries value h
  obtain ⟨_, scope, h₁, -, rfl⟩ := Checked.exists_of_apply_eq_valid h
  obtain ⟨_, overrides, h₂, -, rfl⟩ := Checked.exists_of_apply_eq_valid h₁
  obtain ⟨_, expectOrActual, h₃, -, rfl⟩ := Checked.exists_of_apply_eq_valid h₂
  obtain ⟨_, isAbstract, h₄, -, rfl⟩ := Checked.exists_of_apply_eq_valid h₃
  obtain ⟨_, interfaceMember, h₅, -, rfl⟩ := Checked.exists_of_apply_eq_valid h₄
  obtain ⟨_, span, h₆, counted, rfl⟩ := Checked.exists_of_apply_eq_valid h₅
  obtain ⟨_, parameters, h₇, listed, rfl⟩ := Checked.exists_of_apply_eq_valid h₆
  obtain ⟨_, annotations, h₈, -, rfl⟩ := Checked.exists_of_apply_eq_valid h₇
  obtain ⟨_, qualifiedName, h₉, -, rfl⟩ := Checked.exists_of_apply_eq_valid h₈
  obtain ⟨_, name, h₁₀, -, rfl⟩ := Checked.exists_of_apply_eq_valid h₉
  cases h₁₀
  exact
    { span := ensures_span.required counted
      parameters := ensures_parameter.checkList.withDefault listed (List.forall_mem_nil _) }

theorem ensures_file :
    Ensures FileEntry.check fun entry => ∀ function ∈ entry.functions, function.Counted := by
  apply ensures_checkRecord
  intro entries value h
  obtain ⟨_, functions, h₁, listed, rfl⟩ := Checked.exists_of_apply_eq_valid h
  obtain ⟨_, path, h₂, -, rfl⟩ := Checked.exists_of_apply_eq_valid h₁
  cases h₂
  exact ensures_function.checkList.withDefault listed (List.forall_mem_nil _)

theorem ensures_document :
    Ensures Document.check fun document => ∀ file ∈ document.files,
      ∀ function ∈ file.functions, function.Counted := by
  apply ensures_checkRecord
  intro entries value h
  obtain ⟨_, files, h₁, listed, rfl⟩ := Checked.exists_of_apply_eq_valid h
  obtain ⟨_, version, h₂, -, rfl⟩ := Checked.exists_of_apply_eq_valid h₁
  cases h₂
  exact ensures_file.checkList.withDefault listed (List.forall_mem_nil _)

theorem exists_of_read {raw : String} {outlines : List FileOutline}
    (h : Manifest.read raw = .ok outlines) :
    ∃ files : List FileEntry, outlines = files.map FileEntry.outline ∧
      ∀ file ∈ files, ∀ function ∈ file.functions, function.Counted := by
  unfold Manifest.read at h
  split at h
  · cases h
  · split at h
    · cases h
    · rename_i document checked
      cases h
      exact ⟨document.files, rfl, ensures_document _ document checked⟩

/-! ## Outlines -/

theorem ne_empty_of_nonempty? {text : Option String} {found : String}
    (h : nonempty? text = some found) : found ≠ "" := by
  rintro rfl
  obtain ⟨-, there⟩ := Option.filter_eq_some_iff.mp h
  cases there

theorem ne_empty_of_ofText? {text : String} {span : Option Span}
    (h : (TypeRef.ofText? text span).isSome) : text ≠ "" := by
  rintro rfl
  have empty : TypeRef.parse [] = none := by
    rw [TypeRef.parse]
    rfl
  rw [TypeRef.ofText?, String.toList_empty, empty] at h
  cases h

theorem ParameterEntry.display_ne_empty {entry : ParameterEntry} {type : String}
    (typed : entry.type = some type) (nonempty : type ≠ "") : entry.display ≠ "" := by
  unfold display
  split
  · rename_i text found
    exact ne_empty_of_nonempty? found
  · have kept : nonempty? entry.type = some type := by
      rw [nonempty?, typed, Option.filter_eq_some_iff]
      refine ⟨rfl, ?_⟩
      rw [Bool.not_eq_true', ← Bool.not_eq_true, String.isEmpty_iff]
      exact nonempty
    rw [kept]
    intro empty
    have parts := congrArg String.toList empty
    rw [String.toList_append, String.toList_append] at parts
    have := List.append_eq_nil_iff.mp parts
    exact nonempty (String.toList_inj.mp this.2)

theorem ParameterEntry.anchored {entry : ParameterEntry} (counted : entry.span.Counted)
    (path : String) : (entry.parameter path).Anchored where
  lastLexeme := rfl
  column := counted.endColumn
  text := by
    intro typed
    cases type : entry.type with
    | none =>
        rw [parameter, type] at typed
        cases typed
    | some text =>
        rw [parameter, type] at typed
        exact display_ne_empty type (ne_empty_of_ofText? typed)

theorem anchored_of_read {raw : String} {outlines : List FileOutline}
    (h : Manifest.read raw = .ok outlines) :
    ∀ outline ∈ outlines, ∀ declaration ∈ outline.declarations,
      ∀ parameter ∈ declaration.parameters, parameter.Anchored := by
  obtain ⟨files, rfl, counted⟩ := exists_of_read h
  intro outline found declaration found' parameter found''
  obtain ⟨file, file_mem, rfl⟩ := List.mem_map.mp found
  obtain ⟨function, function_mem, rfl⟩ := List.mem_map.mp found'
  obtain ⟨entry, entry_mem, rfl⟩ := List.mem_map.mp found''
  have parameters := (counted file file_mem function function_mem).parameters
  exact ParameterEntry.anchored (parameters entry entry_mem).span file.path

end Manifest

end SignatureLint

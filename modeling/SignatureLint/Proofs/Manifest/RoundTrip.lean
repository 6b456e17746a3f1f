import SignatureLint.Proofs.Manifest.Drafts
import SignatureLint.Proofs.TypeRef.Accepted

/-!
# Reading a manifest back

Whatever is drafted is read back from the line that is written of it, with the defaults filled in
for the fields that were left out.
-/

namespace SignatureLint

namespace Manifest

open Json

/-! ## What the checks make of drafts -/

def PlaceDraft.entry (draft : PlaceDraft) : SpanEntry :=
  ⟨draft.startLine, draft.startColumn, draft.endLine, draft.endColumn⟩

def ParameterDraft.entry (draft : ParameterDraft) : ParameterEntry where
  name := draft.name
  type := draft.type.getD none
  hasDefault := draft.hasDefault.getD false
  acceptsDefault := draft.acceptsDefault.getD true
  span := draft.span.entry
  typeSpan := (draft.typeSpan.map (Option.map PlaceDraft.entry)).getD none
  text := draft.text.getD none

def FunctionDraft.entry (draft : FunctionDraft) : FunctionEntry where
  name := draft.name
  qualifiedName := draft.qualifiedName.getD none
  annotations := draft.annotations.getD []
  parameters := (draft.parameters.map (List.map ParameterDraft.entry)).getD []
  span := draft.span.entry
  interfaceMember := draft.interfaceMember.getD false
  isAbstract := draft.isAbstract.getD false
  expectOrActual := draft.expectOrActual.getD false
  overrides := draft.overrides.getD false
  scope := draft.scope.getD none

def FileDraft.entry (draft : FileDraft) : FileEntry where
  path := draft.path
  functions := (draft.functions.map (List.map FunctionDraft.entry)).getD []

def DocumentDraft.entry (draft : DocumentDraft) : Document where
  version := (draft.version.map Subtype.val).getD 1
  files := (draft.files.map (List.map FileDraft.entry)).getD []

theorem required_atLeast {name : String} {value : ShortInteger}
    {entries : List (LooseText × Json)} (field : HasField name IsShort value entries) {least : Int}
    (enough : least ≤ value) :
    required name (checkAtLeast least) entries = .valid (value : Int) :=
  required_eq_valid field fun _ written => accepts_atLeast enough written

theorem accepts_place : Accepts SpanEntry.check PlaceDraft.IsWritten PlaceDraft.entry := by
  refine accepts_record fun draft entries written => ?_
  obtain ⟨startLine, startColumn, endLine, endColumn⟩ := written
  have counted := draft.counted
  rw [required_atLeast startLine counted.startLine,
    required_atLeast startColumn counted.startColumn, required_atLeast endLine counted.endLine,
    required_atLeast endColumn counted.endColumn]
  rfl

theorem accepts_optionalText : Accepts (checkOptional checkText) (IsNullable IsText) id := by
  have accepts := accepts_text.nullable not_isText_null
  rwa [Option.map_id_fun] at accepts

theorem accepts_parameter :
    Accepts ParameterEntry.check ParameterDraft.IsWritten ParameterDraft.entry := by
  refine accepts_record fun draft entries written => ?_
  obtain ⟨name, type, hasDefault, acceptsDefault, span, typeSpan, text⟩ := written
  have places := accepts_place.nullable fun _ => not_isRecord_null _
  rw [accepts_text.required name, accepts_optionalText.withDefault type,
    accepts_boolean.withDefault hasDefault, accepts_boolean.withDefault acceptsDefault,
    accepts_place.required span, places.withDefault typeSpan, accepts_optionalText.withDefault text]
  simp only [Option.map_id]
  rfl

theorem accepts_function :
    Accepts FunctionEntry.check FunctionDraft.IsWritten FunctionDraft.entry := by
  refine accepts_record fun draft entries written => ?_
  obtain ⟨name, qualifiedName, annotations, parameters, span, interfaceMember, isAbstract,
    expectOrActual, overrides, scope⟩ := written
  rw [accepts_text.required name, accepts_optionalText.withDefault qualifiedName,
    accepts_text.list.withDefault annotations, accepts_parameter.list.withDefault parameters,
    accepts_place.required span, accepts_boolean.withDefault interfaceMember,
    accepts_boolean.withDefault isAbstract, accepts_boolean.withDefault expectOrActual,
    accepts_boolean.withDefault overrides, accepts_optionalText.withDefault scope]
  simp only [Option.map_id, List.map_id_fun]
  rfl

theorem accepts_file : Accepts FileEntry.check FileDraft.IsWritten FileDraft.entry := by
  refine accepts_record fun draft entries written => ?_
  obtain ⟨path, functions⟩ := written
  rw [accepts_text.required path, accepts_function.list.withDefault functions]
  rfl

theorem accepts_document : Accepts Document.check DocumentDraft.IsWritten DocumentDraft.entry := by
  refine accepts_record fun draft entries written => ?_
  obtain ⟨version, files⟩ := written
  have short : Accepts checkInteger IsShort Subtype.val := fun value => accepts_integer value.val
  rw [short.withDefault version, accepts_file.list.withDefault files]
  rfl

/-! ## What drafts yield -/

/-- A text that is given and not empty, or else another one. -/
def nonemptyOr (given : Option (Option String)) (other : String) : String :=
  match given with
  | some (some found) => if found = "" then other else found
  | _ => other

def PlaceDraft.span (draft : PlaceDraft) (path : String) : Span where
  path := path
  startLine := draft.startLine
  startColumn := draft.startColumn
  endLine := draft.endLine
  endColumn := draft.endColumn

/-- The text of a parameter that is given none. -/
def ParameterDraft.shortText (draft : ParameterDraft) : String :=
  match draft.type with
  | some (some type) => if type = "" then draft.name else draft.name ++ ": " ++ type
  | _ => draft.name

structure ParameterDraft.Yields (path : String) (draft : ParameterDraft)
    (parameter : DeclaredParameter) : Prop where
  name : parameter.name = draft.name
  type : parameter.type = (draft.type.getD none).bind fun type =>
    TypeRef.ofText? type ((draft.typeSpan.getD none).map fun place => place.span path)
  hasDefault : parameter.hasDefault = draft.hasDefault.getD false
  acceptsDefault : parameter.acceptsDefault = draft.acceptsDefault.getD true
  span : parameter.span = draft.span.span path
  text : parameter.text = nonemptyOr draft.text draft.shortText
  lastLexeme : parameter.lastLexeme = Lexeme.trailing parameter.text parameter.span

/-- A marker is reduced to its name: without the signs in front of it, without its arguments, and
without what stands before its last full stop. -/
structure Reduces (marker name : String) : Prop where
  shape : ∃ (signs : Nat) (front arguments : List Char),
    marker.toList = List.replicate signs '@' ++ (front ++ name.toList ++ arguments) ∧
      (front ++ name.toList ++ arguments).head? ≠ some '@' ∧
      '(' ∉ front ++ name.toList ∧ (arguments = [] ∨ arguments.head? = some '(') ∧
      '.' ∉ name.toList ∧ (front = [] ∨ front.getLast? = some '.')

/-- The declaration of a file that a draft yields. -/
structure FunctionDraft.Yields (path : String) (draft : FunctionDraft)
    (declaration : Declaration) : Prop where
  name : declaration.name = draft.name
  qualifiedName : declaration.qualifiedName = nonemptyOr draft.qualifiedName draft.name
  scope : declaration.scope = draft.scope.getD none
  markers : ∀ name, name ∈ declaration.markers ↔
    ∃ annotation ∈ draft.annotations.getD [], Reduces annotation name
  interfaceMember : declaration.bindings.interfaceMember = draft.interfaceMember.getD false
  isAbstract : declaration.bindings.isAbstract = draft.isAbstract.getD false
  expectOrActual : declaration.bindings.expectOrActual = draft.expectOrActual.getD false
  overrides : declaration.bindings.overrides = draft.overrides.getD false
  span : declaration.span = draft.span.span path
  parameters : List.Forall₂ (ParameterDraft.Yields path) (draft.parameters.getD [])
    declaration.parameters

structure FileDraft.Yields (draft : FileDraft) (outline : FileOutline) : Prop where
  path : outline.path = draft.path
  error : outline.error = none
  declarations : List.Forall₂ (FunctionDraft.Yields draft.path) (draft.functions.getD [])
    outline.declarations

section

variable {p : Char → Bool} {front rest : List Char} (passes : ∀ c ∈ front, p c = true)
  (stops : ∀ c ∈ rest.head?, p c = false)

include passes stops

theorem takeWhile_front : (front ++ rest).takeWhile p = front := by
  rw [List.takeWhile_append_of_pos passes]
  cases rest with
  | nil => rw [List.takeWhile_nil, List.append_nil]
  | cons c more =>
      rw [List.takeWhile_cons_of_neg (Bool.eq_false_iff.mp (stops c rfl)), List.append_nil]

theorem dropWhile_front : (front ++ rest).dropWhile p = rest := by
  rw [List.dropWhile_append_of_pos passes]
  cases rest with
  | nil => rw [List.dropWhile_nil]
  | cons c more => rw [List.dropWhile_cons_of_neg (Bool.eq_false_iff.mp (stops c rfl))]

end

theorem lastSegment_append {front last : List Char} (noStop : '.' ∉ last)
    (ended : front = [] ∨ front.getLast? = some '.') : Text.lastSegment (front ++ last) = last := by
  have inside : ∀ c ∈ last.reverse, (c != '.') = true := by
    intro c found
    rw [bne_iff_ne]
    rintro rfl
    exact noStop (List.mem_reverse.mp found)
  have before : ∀ c ∈ front.reverse.head?, (c != '.') = false := by
    intro c found
    rw [List.head?_reverse] at found
    rcases ended with rfl | ended
    · cases found
    · rw [ended] at found
      cases found
      rfl
  rw [Text.lastSegment, List.reverse_append, takeWhile_front inside before, List.reverse_reverse]

/-- A marker that is reduced to a name has this name. -/
theorem Reduces.eq_markerName {marker name : String} (reduces : Reduces marker name) :
    name = markerName marker := by
  obtain ⟨signs, front, arguments, shape, unsigned, noArguments, opened, noStop, ended⟩ :=
    reduces.shape
  have signed : ∀ c ∈ List.replicate signs '@', (c == '@') = true := by
    intro c found
    rw [beq_iff_eq, (List.mem_replicate.mp found).2]
  have bare : ∀ c ∈ (front ++ name.toList ++ arguments).head?, (c == '@') = false := by
    intro c found
    rw [beq_eq_false_iff_ne]
    rintro rfl
    exact unsigned found
  have inside : ∀ c ∈ front ++ name.toList, (c != '(') = true := by
    intro c found
    rw [bne_iff_ne]
    rintro rfl
    exact noArguments found
  have opens : ∀ c ∈ arguments.head?, (c != '(') = false := by
    intro c found
    rcases opened with rfl | opened
    · cases found
    · rw [opened] at found
      cases found
      rfl
  rw [markerName, shape, dropWhile_front signed bare, takeWhile_front inside opens,
    lastSegment_append noStop ended, String.ofList_toList]

/-- Every marker is reduced to its name. -/
theorem reduces_markerName (marker : String) : Reduces marker (markerName marker) := by
  obtain ⟨front, split, ended⟩ := TypeRef.exists_append_lastSegment
    ((marker.toList.dropWhile (· == '@')).takeWhile (· != '('))
  have named : (markerName marker).toList = Text.lastSegment
      ((marker.toList.dropWhile (· == '@')).takeWhile (· != '(')) := String.toList_ofList
  rw [← named] at split
  refine ⟨(marker.toList.takeWhile (· == '@')).length, front,
    (marker.toList.dropWhile (· == '@')).dropWhile (· != '('), ?_, ?_, ?_, ?_, ?_, ended⟩
  · have signs : marker.toList.takeWhile (· == '@') =
        List.replicate (marker.toList.takeWhile (· == '@')).length '@' :=
      List.eq_replicate_of_mem fun c found => by
        have sign := List.mem_takeWhile_imp found
        exact beq_iff_eq.mp sign
    rw [← signs, ← split, List.takeWhile_append_dropWhile, List.takeWhile_append_dropWhile]
  · rw [← split, List.takeWhile_append_dropWhile]
    intro sign
    have stops := List.head?_dropWhile_not (· == '@') marker.toList
    rw [sign] at stops
    cases stops
  · rw [← split]
    intro found
    exact absurd (List.mem_takeWhile_imp found) (by decide)
  · cases shape : (marker.toList.dropWhile (· == '@')).dropWhile (· != '(') with
    | nil => exact .inl rfl
    | cons c rest =>
        have stops := List.head?_dropWhile_not (· != '(') (marker.toList.dropWhile (· == '@'))
        rw [shape] at stops
        obtain rfl : c = '(' := by simpa using stops
        exact .inr rfl
  · rw [named, Text.lastSegment, List.mem_reverse]
    intro found
    exact absurd (List.mem_takeWhile_imp found) (by decide)

theorem reduces_iff {marker name : String} : Reduces marker name ↔ name = markerName marker := by
  constructor
  · exact Reduces.eq_markerName
  · rintro rfl
    exact reduces_markerName marker

theorem nonempty?_some (text : String) :
    nonempty? (some text) = if text = "" then none else some text := by
  rw [nonempty?, Option.filter_some]
  by_cases empty : text = ""
  · subst empty
    rfl
  · have filled : text.isEmpty = false := by
      rw [← Bool.not_eq_true, String.isEmpty_iff]
      exact empty
    rw [filled, if_neg empty]
    rfl

theorem getD_nonempty? (given : Option (Option String)) (other : String) :
    (nonempty? (given.getD none)).getD other = nonemptyOr given other := by
  rcases given with - | - | found
  · rfl
  · rfl
  · rw [Option.getD_some, nonempty?_some, nonemptyOr]
    split <;> rfl

theorem ParameterEntry.display_eq (entry : ParameterEntry) :
    entry.display = (nonempty? entry.text).getD
      (((nonempty? entry.type).map (entry.name ++ ": " ++ ·)).getD entry.name) := by
  rw [display]
  cases nonempty? entry.text with
  | some text => rfl
  | none => cases nonempty? entry.type <;> rfl

theorem ParameterDraft.display_entry (draft : ParameterDraft) :
    draft.entry.display = nonemptyOr draft.text draft.shortText := by
  have short : ((nonempty? draft.entry.type).map (draft.entry.name ++ ": " ++ ·)).getD
      draft.entry.name = draft.shortText := by
    unfold shortText entry
    rcases draft.type with - | - | type
    · rfl
    · rfl
    · rw [Option.getD_some, nonempty?_some]
      by_cases empty : type = ""
      · rw [if_pos empty]
        exact (if_pos empty).symm
      · rw [if_neg empty]
        exact (if_neg empty).symm
  rw [ParameterEntry.display_eq, short, ← getD_nonempty?]
  rfl

section

variable {α β γ : Type}

theorem forall₂_given {yields : α → γ → Prop} {make : α → β} {shape : β → γ}
    (each : ∀ value, yields value (shape (make value))) (given : Option (List α)) :
    List.Forall₂ yields (given.getD []) (((given.map (List.map make)).getD []).map shape) := by
  cases given with
  | none => exact .nil
  | some values =>
      change List.Forall₂ yields values ((values.map make).map shape)
      rw [List.map_map, List.forall₂_map_right_iff, List.forall₂_same]
      exact fun value _ => each value

end

theorem ParameterDraft.yields (path : String) (draft : ParameterDraft) :
    draft.Yields path (draft.entry.parameter path) where
  name := rfl
  type := by
    have typeSpan : draft.entry.typeSpan.map (fun entry => entry.span path) =
        (draft.typeSpan.getD none).map fun place => place.span path := by
      unfold entry
      rcases draft.typeSpan with - | - | place <;> rfl
    rw [ParameterEntry.parameter, typeSpan]
    rfl
  hasDefault := rfl
  acceptsDefault := rfl
  span := rfl
  text := draft.display_entry
  lastLexeme := rfl

theorem FunctionDraft.yields (path : String) (draft : FunctionDraft) :
    draft.Yields path (draft.entry.declaration path) where
  name := rfl
  qualifiedName := getD_nonempty? _ _
  scope := rfl
  markers := by
    have annotations : draft.entry.annotations = draft.annotations.getD [] := rfl
    intro name
    rw [FunctionEntry.declaration, NameSet.mem_ofList, List.mem_map, annotations]
    simp only [reduces_iff, eq_comm]
  interfaceMember := rfl
  isAbstract := rfl
  expectOrActual := rfl
  overrides := rfl
  span := rfl
  parameters := forall₂_given (ParameterDraft.yields path) draft.parameters

theorem FileDraft.yields (draft : FileDraft) : draft.Yields draft.entry.outline where
  path := rfl
  error := rfl
  declarations := forall₂_given (FunctionDraft.yields draft.path) draft.functions

/-! ## Manifests -/

/-- A manifest is read back from its line, one outline for each file in order, with all the
functions and their parameters in order and every field as it was given. -/
theorem read_line_of_isWritten {draft : DocumentDraft} {json : Json}
    (written : draft.IsWritten json) (plain : json.Plain) :
    ∃ outlines, Manifest.read json.line = .ok outlines ∧
      List.Forall₂ FileDraft.Yields (draft.files.getD []) outlines := by
  refine ⟨draft.entry.files.map FileEntry.outline, ?_, ?_⟩
  · rw [Manifest.read, plain.read_line]
    dsimp only
    rw [accepts_document draft json written]
  · exact forall₂_given FileDraft.yields draft.files

def ShortInteger.ofDigit (digit : Fin 10) : ShortInteger :=
  ⟨digit, short_of_digit digit.isLt⟩

/-- The first nine characters of a file. -/
def PlaceDraft.sample : PlaceDraft where
  startLine := .ofDigit 1
  startColumn := .ofDigit 0
  endLine := .ofDigit 1
  endColumn := .ofDigit 9
  counted := ⟨by decide, by decide, by decide, by decide⟩

/-- A manifest with one parameter, whose text is left to be put together. -/
def DocumentDraft.sample : DocumentDraft where
  version := none
  files := some
    [{ path := "Card.kt"
       functions := some
         [{ name := "Card"
            qualifiedName := some (some "")
            annotations := some ["@androidx.compose.runtime.Composable(\"x.y\")"]
            parameters := some
              [{ name := "title"
                 type := some (some "Optional[String]")
                 hasDefault := none
                 acceptsDefault := some false
                 span := .sample
                 typeSpan := some none
                 text := none }]
            span := .sample
            interfaceMember := none
            isAbstract := some true
            expectOrActual := none
            overrides := none
            scope := some none }] }]

/-- The sample is read back from its line. -/
theorem read_line_sample :
    DocumentDraft.sample.IsWritten DocumentDraft.sample.toJson ∧
      DocumentDraft.sample.toJson.Plain ∧
      ∃ outlines, Manifest.read DocumentDraft.sample.toJson.line = .ok outlines ∧
        List.Forall₂ FileDraft.Yields (DocumentDraft.sample.files.getD []) outlines :=
  ⟨DocumentDraft.sample.isWritten_toJson, DocumentDraft.sample.plain_toJson,
    read_line_of_isWritten DocumentDraft.sample.isWritten_toJson DocumentDraft.sample.plain_toJson⟩

end Manifest

end SignatureLint

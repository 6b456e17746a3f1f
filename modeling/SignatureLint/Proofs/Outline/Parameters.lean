import SignatureLint.Proofs.Lexeme
import SignatureLint.Proofs.Outline.Functions
import SignatureLint.Proofs.Related
import SignatureLint.Proofs.Syntax.Parts

/-!
# Declared parameters in a source text

A declared parameter has the text that stands in its span, and its last word ends where
the span ends.
-/

namespace SignatureLint

open Lexer Outline Text

namespace Outline.File

def typeOf (file : File) (argument : Argument) : Except AnnotationError (Option TypeRef) :=
  match argument.written with
  | none => .ok none
  | some written => file.annotated written

/-- The text of a parameter: the part of the source in its range, or its name if there is none. -/
def textOf (file : File) (argument : Argument) : String :=
  let segment := file.source.segment argument.range
  if segment.isEmpty then argument.name else String.ofList segment

variable {file : File} {slot : Slot} {parameter : DeclaredParameter}

/-- A slot is described if its annotation can be understood. -/
theorem describes_iff :
    file.Describes slot parameter ↔
      ∃ type, file.typeOf slot.argument = .ok type ∧
        parameter =
          { name := slot.argument.name
            type := type
            hasDefault := slot.hasDefault
            acceptsDefault := slot.acceptsDefault
            span := Span.ofRange file.path slot.argument.range
            text := file.textOf slot.argument
            lastLexeme := Lexeme.trailing (file.textOf slot.argument)
              (Span.ofRange file.path slot.argument.range) } := by
  unfold Describes describe File.parameter typeOf
  cases slot.argument.written with
  | none =>
      constructor
      · intro h
        cases h
        exact ⟨none, rfl, rfl⟩
      · rintro ⟨type, h, rfl⟩
        cases h
        rfl
  | some written =>
      dsimp only
      cases file.annotated written with
      | error fault =>
          constructor
          · intro h
            cases h
          · rintro ⟨type, h, -⟩
            cases h
      | ok found =>
          constructor
          · intro h
            cases h
            exact ⟨found, rfl, rfl⟩
          · rintro ⟨type, h, rfl⟩
            cases h
            rfl

theorem exists_describes_iff_typeOf :
    (∃ parameter, file.Describes slot parameter) ↔
      ∃ type, file.typeOf slot.argument = .ok type := by
  constructor
  · rintro ⟨parameter, describes⟩
    obtain ⟨type, understood, -⟩ := describes_iff.mp describes
    exact ⟨type, understood⟩
  · rintro ⟨type, understood⟩
    exact ⟨_, describes_iff.mpr ⟨type, understood, rfl⟩⟩

/-- A parameter without an annotation, or with nothing but a name for one. -/
def isPlain (argument : Argument) : Bool :=
  match argument.written with
  | none => true
  | some ⟨.name _, _⟩ => true
  | some _ => false

theorem exists_typeOf_of_isPlain (file : File) {argument : Argument}
    (plain : isPlain argument = true) : ∃ type, file.typeOf argument = .ok type := by
  unfold isPlain at plain
  unfold typeOf
  split at plain
  · rename_i none
    rw [none]
    exact ⟨_, rfl⟩
  · rename_i id range named
    rw [named]
    simp only [annotated, TypeRef.describe]
    exact ⟨_, rfl⟩
  · cases plain

end Outline.File

namespace Stands

variable {text : List Char} {range : Range} {part : Nat × Nat}

theorem take_append (stands : Stands text range part) :
    text.take part.1 ++ (text.take part.2).drop part.1 = text.take part.2 := by
  conv => rhs; rw [← List.take_append_drop part.1 (text.take part.2)]
  rw [List.take_take, Nat.min_eq_left stands.order]

theorem segment (stands : Stands text range part) :
    (Source.ofText text).segment range = (text.take part.2).drop part.1 := by
  have front := stands.take_append
  have whole : text.take part.1 ++ (text.take part.2).drop part.1 ++ text.drop part.2 = text := by
    rw [front, List.take_append_drop]
  have clean : Clean (text.take part.1)
      ((text.take part.2).drop part.1 ++ text.drop part.2) := by
    apply (clean_take part.2 stands.clean).append
    obtain ⟨more, last, solid, -⟩ := stands.solid
    rw [solid]
    exact List.append_ne_nil_of_right_ne_nil _ (List.cons_ne_nil _ _)
  have clean' : Clean ((text.take part.2).drop part.1) (text.drop part.2) := by
    have := stands.clean'
    rw [← front] at this
    exact this.of_append
  have stop : reach (normalizeNewlines (text.take part.2)) =
      reach (normalizeNewlines (text.take part.1) ++
        normalizeNewlines ((text.take part.2).drop part.1)) := by
    rw [← normalizeNewlines_append (clean_take part.2 stands.clean), front]
  have cut := Source.segment_eq clean clean'
  rwa [whole, ← stop, ← stands.range] at cut

end Stands

namespace Outline.File

variable {path : String} {text : List Char} {config : Config} {slot : Slot}
  {parameter : DeclaredParameter} {part : Nat × Nat}

theorem textOf_of_stands (stands : Stands text slot.argument.range part) :
    textOf ⟨path, Source.ofText text, config⟩ slot.argument =
      String.ofList ((text.take part.2).drop part.1) := by
  unfold textOf
  rw [stands.segment, if_neg]
  intro empty
  obtain ⟨front, last, solid, -⟩ := stands.solid
  rw [List.isEmpty_iff.mp empty] at solid
  cases front <;> cases solid

theorem Describes.anchored (describes : Describes ⟨path, Source.ofText text, config⟩ slot parameter)
    (stands : Stands text slot.argument.range part) : parameter.Anchored := by
  obtain ⟨type, -, rfl⟩ := describes_iff.mp describes
  exact
    { lastLexeme := rfl
      column := Int.natCast_nonneg _
      text := by
        intro _ empty
        dsimp only at empty
        rw [textOf_of_stands stands, ← String.ofList_nil] at empty
        obtain ⟨front, last, solid, -⟩ := stands.solid
        rw [solid] at empty
        cases front <;> cases String.ofList_injective empty }

/-- A declared parameter of a program that stands in a part of its text. -/
def Locates (file : File) (text : List Char) (statements : List Statement)
    (parameter : DeclaredParameter) (part : Nat × Nat) : Prop :=
  ∃ slot : Slot, slot.argument ∈ Program.argumentsOfAll statements ∧
    file.Describes slot parameter ∧ Stands text slot.argument.range part

theorem describes_flatMap {file : File} {functions : List (Scope × FunctionHeader)}
    {declarations : List Declaration}
    (declares : List.Forall₂ file.Declares functions declarations) :
    List.Forall₂ file.Describes (functions.flatMap (·.2.signature.slots))
      (declarations.flatMap (·.parameters)) :=
  List.rel_flatMap declares fun _ _ declares => declares.parameters

theorem map_argument_flatMap_slots (scope : Scope) (statements : List Statement) :
    ((functionsOfAll scope statements).flatMap (·.2.signature.slots)).map Slot.argument =
      Program.argumentsOfAll statements := by
  rw [argumentsOfAll_eq_flatMap scope, List.map_flatMap]
  congr 1
  funext function
  exact function.2.signature.map_argument_slots

end Outline.File

namespace FileOutline

variable {path : String} {text : List Char} {config : Config} {outline : FileOutline}

theorem exists_parts [Wordings] (h : FileOutline.ofSource path text config = .ok outline)
    (whole : outline.error = none) :
    ∃ (statements : List Statement) (parts : List (Nat × Nat)),
      Program.read text = .ok statements ∧
      List.Forall₂ (File.Locates ⟨path, Source.ofText text, config⟩ text statements)
        (outline.declarations.flatMap (·.parameters)) parts ∧
      parts.Pairwise fun first second => first.2 ≤ second.1 := by
  obtain ⟨statements, read, declares⟩ := exists_of_ofSource h whole
  obtain ⟨parts, stands, apart⟩ := Program.exists_parts_of_source read
  refine ⟨statements, parts, read, ?_, apart⟩
  have arguments := File.map_argument_flatMap_slots {} statements
  rw [← Program.map_range_argumentsOfAll, ← arguments, List.map_map,
    List.forall₂_map_left_iff] at stands
  apply (Related.forall₂_common (File.describes_flatMap declares) stands).imp
  rintro parameter part ⟨slot, found, describes, stands⟩
  refine ⟨slot, ?_, describes, stands⟩
  rw [← arguments]
  exact List.mem_map_of_mem found

theorem exists_of_isPlain [Wordings] {statements : List Statement}
    (read : Program.read text = .ok statements)
    (plain : ∀ argument ∈ Program.argumentsOfAll statements, File.isPlain argument = true) :
    ∃ outline, FileOutline.ofSource path text config = .ok outline ∧ outline.error = none := by
  apply exists_ofSource read
  intro function found slot found'
  have here : slot.argument ∈ Program.argumentsOfAll statements := by
    rw [← File.map_argument_flatMap_slots {}]
    exact List.mem_map_of_mem (List.mem_flatMap.mpr ⟨function, found, found'⟩)
  obtain ⟨type, understood⟩ :=
    File.exists_typeOf_of_isPlain ⟨path, Source.ofText text, config⟩ (plain _ here)
  exact ⟨_, File.describes_iff.mpr ⟨type, understood, rfl⟩⟩

theorem anchored_of_ofSource [Wordings] (h : FileOutline.ofSource path text config = .ok outline) :
    ∀ declaration ∈ outline.declarations, ∀ parameter ∈ declaration.parameters,
      parameter.Anchored := by
  intro declaration found parameter found'
  by_cases whole : outline.error = none
  · obtain ⟨statements, parts, -, located, -⟩ := exists_parts h whole
    apply Related.forall_mem_of_forall₂ (P := DeclaredParameter.Anchored) _ located.flip parameter
    · exact List.mem_flatMap.mpr ⟨declaration, found, found'⟩
    · rintro part parameter ⟨slot, -, describes, stands⟩
      exact describes.anchored stands
  · rw [declarations_of_error h whole] at found
    cases found

end FileOutline

end SignatureLint

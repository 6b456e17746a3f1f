import SignatureLint.Proofs.Outline.Parameters
import SignatureLint.Proofs.TypeRef.Describable

/-!
# Which programs have an outline

A program has an outline when the annotations of the parameters of its functions can be
described.  Wherever a function stands, one annotation that cannot be described leaves the
program without an outline.
-/

namespace SignatureLint

open Outline

/-- Nothing that the annotation of a parameter comes down to is faulty. -/
def Argument.Faultless (argument : Argument) : Prop :=
  ∀ written ∈ argument.written, ∀ part,
    Relation.ReflTransGen TypeRef.Part written.value part → ¬TypeRef.Faulty part

namespace Outline.File

variable {file : File}

theorem exists_annotated_iff (file : File) (written : Located Expr) :
    (∃ type, file.annotated written = .ok type) ↔
      ∃ type, TypeRef.describe written.value = .ok type := by
  rw [annotated]
  split
  · rename_i text marked shape
    rw [shape, Outcome.exists_bind_ok_iff]
    constructor
    · rintro ⟨characters, -, _, h⟩
      obtain ⟨type, described, -⟩ := Outcome.exists_of_bind_eq_ok h
      exact ⟨type, described⟩
    · rintro ⟨type, described⟩
      obtain ⟨characters, clean, -⟩ :=
        Outcome.exists_of_bind_eq_ok (TypeRef.describe_text text marked ▸ described)
      exact ⟨characters, clean, _, by rw [described]; rfl⟩
  · rw [Outcome.exists_bind_ok_iff]
    constructor
    · rintro ⟨type, described, -⟩
      exact ⟨type, described⟩
    · rintro ⟨type, described⟩
      exact ⟨type, described, _, rfl⟩

theorem exists_describes_iff (slot : Slot) :
    (∃ parameter, file.Describes slot parameter) ↔ slot.argument.Faultless := by
  have typed : (∃ type, file.typeOf slot.argument = .ok type) ↔ slot.argument.Faultless := by
    rw [typeOf, Argument.Faultless]
    cases slot.argument.written with
    | none => exact iff_of_true ⟨none, rfl⟩ nofun
    | some written =>
        dsimp only
        rw [exists_annotated_iff, TypeRef.exists_describe_iff]
        exact ⟨fun h _ same => Option.some.inj same ▸ h, fun h => h written rfl⟩
  exact exists_describes_iff_typeOf.trans typed

theorem exists_declare_iff (function : Scope × FunctionHeader) :
    (∃ declaration, file.declare function = .ok declaration) ↔
      ∀ argument ∈ function.2.signature.arguments, argument.Faultless := by
  rw [← Signature.map_argument_slots, List.forall_mem_map]
  constructor
  · rintro ⟨declaration, declared⟩ slot found
    obtain ⟨parameter, -, describes⟩ :=
      Related.exists_of_mem (declares_of_declare declared).parameters found
    exact (exists_describes_iff slot).mp ⟨parameter, describes⟩
  · intro faultless
    exact exists_of_declare fun slot found => (exists_describes_iff slot).mpr (faultless slot found)

theorem exists_declarations_iff (statements : List Statement) :
    (∃ declarations, file.declarations statements = .ok declarations) ↔
      ∀ argument ∈ Program.argumentsOfAll statements, argument.Faultless := by
  rw [declarations_eq_mapM, Outcome.exists_mapM_ok_iff, argumentsOfAll_eq_flatMap {}]
  simp only [exists_declare_iff, List.mem_flatMap]
  exact ⟨fun h argument ⟨function, found, among⟩ => h function found argument among,
    fun h function found argument among => h argument ⟨function, found, among⟩⟩

end Outline.File

namespace FileOutline

variable {path : String} {text : List Char} {config : Config}

/-- A program has an outline if nothing that the annotations of its parameters come down to is
faulty. -/
theorem exists_ofSource_iff [Wordings] {statements : List Statement}
    (read : Program.read text = .ok statements) :
    (∃ outline, ofSource path text config = .ok outline) ↔
      ∀ argument ∈ Program.argumentsOfAll statements, argument.Faultless := by
  rw [ofSource, read]
  dsimp only
  rw [Outcome.exists_bind_ok_iff,
    ← @File.exists_declarations_iff ⟨path, Source.ofText text, config⟩ statements]
  exact ⟨fun ⟨declarations, declared, _⟩ => ⟨declarations, declared⟩,
    fun ⟨declarations, declared⟩ => ⟨declarations, declared, _, rfl⟩⟩

theorem error_of_read [Wordings] {statements : List Statement} {outline : FileOutline}
    (read : Program.read text = .ok statements)
    (h : ofSource path text config = .ok outline) : outline.error = none := by
  rw [ofSource, read] at h
  obtain ⟨declarations, -, h⟩ := Outcome.exists_of_bind_eq_ok h
  cases h
  rfl

theorem ofSource_of_error [Wordings] {error : SyntaxError}
    (fails : Program.read text = .error error) :
    ofSource path text config =
      .ok { path := path, declarations := [], error := some (Wordings.program path text) } := by
  rw [ofSource, fails]
  rfl

end FileOutline

end SignatureLint

import SignatureLint.Proofs.TypeRef.ArgumentText

/-!
# The type that is recommended

In place of a collection that can change one is recommended that cannot.  Its name is one of four,
and its arguments are cut out of the text of the type.  Whatever is cut out is nothing or stands in
a pair of brackets, and so a name with it is always a type again.
-/

namespace SignatureLint

/-! ## The names -/

namespace Collections

/-- The names of the collections that are recommended. -/
def counterparts : List String :=
  ["ImmutableSet", "ImmutableMap", "ImmutableList", "ImmutableCollection"]

theorem immutableCounterpart_mem {rawName : String} (changes : rawName ∈ unstable) :
    immutableCounterpart rawName ∈ counterparts := by
  simp only [unstable, NameSet.mem_union] at changes
  simp only [immutableCounterpart, NameSet.contains_iff]
  split
  · decide
  split
  · decide
  split
  · decide
  split
  · decide
  · rename_i set map list other
    rcases changes with ((changes | changes) | changes) | changes
    · exact absurd changes list
    · exact absurd changes set
    · exact absurd changes map
    · exact absurd changes other

theorem counterparts_fit : ∀ name ∈ counterparts,
    (name.toList.isEmpty = false ∧ name.toList.all Text.isWord = true) ∧
      ({} : Registry).unstableCollections.contains name = false ∧
      ({} : Registry).modifierTypes.contains name = false := by
  decide

end Collections

namespace TypeRef

/-! ## The arguments -/

theorem exists_group_argumentText (type : TypeRef) :
    ∃ group, type.argumentText = String.ofList (Group.text group) := by
  unfold argumentText
  dsimp only
  generalize Text.trim (if type.coreText.isEmpty then type.text else type.coreText).toList = core
  cases angle : bracketed? '<' '>' core with
  | some group =>
      obtain ⟨inside, rfl⟩ := bracketed?_eq_some (by decide) angle
      exact ⟨some ⟨.angle, inside⟩, rfl⟩
  | none =>
      cases square : bracketed? '[' ']' core with
      | some group =>
          obtain ⟨inside, rfl⟩ := bracketed?_eq_some (by decide) square
          exact ⟨some ⟨.square, inside⟩, rfl⟩
      | none => exact ⟨none, rfl⟩

theorem exists_enclose (group : Option Group) :
    ∃ brackets parts, Group.text group = Brackets.enclose brackets parts := by
  cases group with
  | none => exact ⟨.angle, [], rfl⟩
  | some group =>
      refine ⟨group.brackets, [group.inside], ?_⟩
      rw [Brackets.enclose]
      · simp [Group.text, Text.join]
      · exact List.cons_ne_nil _ _

theorem splitCore_group (name : DottedName) (group : Option Group) :
    splitCore (name.text ++ Group.text group) =
      some (name.text, group.map (·.inside)) := by
  cases group with
  | none =>
      rw [Group.text, List.append_nil]
      exact splitCore_bare name
  | some group => exact splitCore_enclosed name group.brackets group.inside

theorem exists_parse_group (name : DottedName) (group : Option Group) :
    ∃ type, parse (name.text ++ Group.text group) = some type ∧
      type.rawName = String.ofList name.last.letters := by
  obtain ⟨brackets, parts, enclosed⟩ := exists_enclose group
  have trimmed := trimmed_core name brackets parts
  have nonempty := core_ne_nil name brackets parts
  have unmarked := splitMarkers_text [] trimmed nonempty (head_name_append name _)
  obtain ⟨c, last, closed⟩ := last_core name brackets parts
  have unsigned := splitNullability_plain last closed
  rw [← enclosed] at trimmed nonempty unmarked unsigned
  exact ⟨_, parse_eq_some trimmed nonempty unmarked unsigned (splitCore_group name group)
    name.lastSegment_text name.last.nonempty name.last.areWord, rfl⟩

/--
A collection that can change, whether it was written down or described by an annotation, is
recommended to be replaced by a text that is taken for a type.  This type has the name of the
counterpart and belongs to no family, so that no rule asks for it to be replaced again.
-/
theorem ofText?_recommended {type : TypeRef}
    (changes : ({} : Registry).classifies (some .unstableCollection) (some type) = true)
    (span : Option Span) :
    ∃ mended, ofText? (UnstableCollections.recommended type) span = some mended ∧
      mended.rawName = Collections.immutableCounterpart type.rawName ∧
      ∀ family, ({} : Registry).classifies (some family) (some mended) = false := by
  have named : type.rawName ∈ Collections.unstable := by
    simp only [Registry.classifies, Registry.includes, Bool.and_eq_true] at changes
    exact NameSet.contains_iff.mp changes.2.1.1
  obtain ⟨⟨nonempty, word⟩, changesNot, modifierNot⟩ :=
    Collections.counterparts_fit _ (Collections.immutableCounterpart_mem named)
  -- the recommended text is a name and the group that the type was written with
  obtain ⟨group, cut⟩ := exists_group_argumentText type
  let counterpart : Segment :=
    ⟨(Collections.immutableCounterpart type.rawName).toList, by simpa using nonempty,
      List.all_eq_true.mp word⟩
  obtain ⟨mended, read, rawName⟩ := exists_parse_group ⟨[], counterpart⟩ group
  have text : (UnstableCollections.recommended type).toList =
      DottedName.text ⟨[], counterpart⟩ ++ Group.text group := by
    rw [UnstableCollections.recommended, cut, String.toList_append, String.toList_ofList]
    rfl
  have rawName : mended.rawName = Collections.immutableCounterpart type.rawName := by
    rw [rawName, String.ofList_toList]
  refine ⟨{ mended with span := span }, ?_, rawName, fun family => ?_⟩
  · rw [ofText?, text, read, Option.map_some]
  · rw [← rawName] at changesNot modifierNot
    cases family with
    | modifier => simp only [Registry.classifies, Registry.includes, modifierNot, Bool.and_false]
    | unstableCollection =>
        simp only [Registry.classifies, Registry.includes, changesNot, Bool.false_and,
          Bool.and_false]

/-- What is recommended in the place of a set of maps is taken for a set that cannot change. -/
theorem ofText?_recommended_setOfMaps :
    ({} : Registry).classifies (some .unstableCollection) (some setOfMaps.described) = true ∧
      ∃ mended,
        ofText? (UnstableCollections.recommended setOfMaps.described) none = some mended ∧
          mended.rawName = "ImmutableSet" ∧
          ∀ family, ({} : Registry).classifies (some family) (some mended) = false := by
  have changes :
      ({} : Registry).classifies (some .unstableCollection) (some setOfMaps.described) = true := by
    decide
  exact ⟨changes, ofText?_recommended changes none⟩

end TypeRef

end SignatureLint

import SignatureLint.Proofs.Analysis.Fixes
import SignatureLint.Proofs.Manifest.Entries
import SignatureLint.Proofs.Outline.Parameters

/-!
# Mending any text

The edits of findings may be applied to a text that the findings are not about.  They
are refused as a whole then, or they insert the same default at different places and
change nothing else: what they expect is never empty and ends where they end.
-/

namespace SignatureLint

open Edit Insertion

namespace FileOutline

/-- An outline that was read from a manifest or from the text of a program. -/
inductive Produced [Wordings] : FileOutline → Prop where
  | manifest {raw : String} {outlines : List FileOutline} {outline : FileOutline}
      (read : Manifest.read raw = .ok outlines) (found : outline ∈ outlines) : Produced outline
  | program {path : String} {text : List Char} {config : Config} {outline : FileOutline}
      (read : FileOutline.ofSource path text config = .ok outline) : Produced outline

variable {config : Config} {outline : FileOutline} {outlines : List FileOutline}

theorem Produced.anchored [Wordings] (produced : outline.Produced) :
    ∀ declaration ∈ outline.declarations, ∀ parameter ∈ declaration.parameters,
      parameter.Anchored := by
  cases produced with
  | manifest read found => exact Manifest.anchored_of_read read outline found
  | program read => exact anchored_of_ofSource read

/-- The last words of its parameters hold no character that stands for octets that are no text. -/
def Legible (outline : FileOutline) : Prop :=
  ∀ declaration ∈ outline.declarations, ∀ parameter ∈ declaration.parameters,
    '\uFFFD' ∉ parameter.lastLexeme.text.toList

instance (outline : FileOutline) : Decidable outline.Legible :=
  inferInstanceAs (Decidable (∀ declaration ∈ outline.declarations,
    ∀ parameter ∈ declaration.parameters, '\uFFFD' ∉ parameter.lastLexeme.text.toList))

theorem exists_parameter_of_mem_fixableEdits {edit : Edit}
    (found : edit ∈ Diagnostic.fixableEdits (analyzeAll config outlines).diagnostics) :
    ∃ outline ∈ outlines, ∃ declaration ∈ outline.declarations,
      ∃ parameter ∈ declaration.parameters,
        parameter.type.isSome ∧ edit = ModifierDefault.edit config parameter := by
  rw [diagnostics_analyzeAll, Diagnostic.fixableEdits] at found
  obtain ⟨diagnostic, reported, fix⟩ := List.mem_filterMap.mp found
  obtain ⟨outline, here, reported⟩ := List.mem_flatMap.mp reported
  refine ⟨outline, here, ?_⟩
  unfold FileOutline.reported at reported
  split at reported
  · cases reported
  · have edits := outline.fixableEdits_findings config
    have member : edit ∈ Diagnostic.fixableEdits (outline.findings config) :=
      List.mem_filterMap.mpr ⟨diagnostic, reported, fix⟩
    rw [edits] at member
    obtain ⟨parameter, fixable, rfl⟩ := List.mem_map.mp member
    obtain ⟨declaration, within, within'⟩ :=
      List.mem_flatMap.mp ((fixable_sublist config outline).subset fixable)
    exact ⟨declaration, within, parameter, within',
      ModifierDefault.isSome_type_of_isFixable (isFixable_of_mem_fixable fixable), rfl⟩

/-- Whatever text they are applied to, the edits of outlines are refused, or they insert the default
at as many different places, each behind what the edit expects, and keep every character. -/
theorem applyAll_fixableEdits [Wordings] (config : Config) {outlines : List FileOutline}
    (produced : ∀ outline ∈ outlines, outline.Produced)
    (legible : ∀ outline ∈ outlines, outline.Legible) (source : String) :
    (∃ conflict, applyAll source
        (Diagnostic.fixableEdits (analyzeAll config outlines).diagnostics) =
          .error (.conflict conflict)) ∨
      ∃ (places : List Nat) (result : String),
        applyAll source (Diagnostic.fixableEdits (analyzeAll config outlines).diagnostics) =
          .ok result ∧
        places.Nodup ∧
        List.Forall₂
          (fun edit place => place ≤ source.toList.length ∧
            edit.expected.toList <:+ source.toList.take place)
          (Diagnostic.fixableEdits (analyzeAll config outlines).diagnostics) places ∧
        result.toList = insertAll (" = " ++ config.defaultModifier).toList places source.toList ∧
        source.toList.Sublist result.toList := by
  have extend : ∀ edit ∈ Diagnostic.fixableEdits (analyzeAll config outlines).diagnostics,
      edit.Extends (" = " ++ config.defaultModifier) := by
    intro edit found
    obtain ⟨outline, here, declaration, within, parameter, within', typed, rfl⟩ :=
      exists_parameter_of_mem_fixableEdits found
    exact ModifierDefault.extends_edit
      ((produced outline here).anchored declaration within parameter within') typed
  -- a word with a replacement character could stand for octets that are no character
  have readable : ∀ edit ∈ Diagnostic.fixableEdits (analyzeAll config outlines).diagnostics,
      '\uFFFD' ∉ edit.expected.toList := by
    intro edit found
    obtain ⟨outline, here, declaration, within, parameter, within', -, rfl⟩ :=
      exists_parameter_of_mem_fixableEdits found
    exact legible outline here declaration within parameter within'
  rcases applyAll_of_extends extend readable with
    refused | ⟨list, same, fits, distinct, result⟩
  · exact Or.inl refused
  · refine Or.inr ⟨list.map (Placed.place source.toList), _, result, distinct, ?_, ?_, ?_⟩
    · rw [← same, List.forall₂_map_left_iff, List.forall₂_map_right_iff, List.forall₂_same]
      exact fun placed found => ⟨(fits placed found).inside, (fits placed found).word⟩
    · exact String.toList_ofList
    · rw [String.toList_ofList]
      exact sublist_insertAll _ _ _

/-- A manifest that describes a function with one modifier. -/
def sampleManifest : String :=
  "\x7b\"files\": [\x7b\"path\": \"a.kt\", \"functions\": [\x7b\"name\": \"Box\", " ++
    "\"annotations\": [\"Composable\"], \"span\": \x7b\"start_line\": 1, \"start_col\": 0, " ++
    "\"end_line\": 1, \"end_col\": 23\x7d, \"parameters\": [\x7b\"name\": \"size\", " ++
    "\"type\": \"Modifier\", \"span\": \x7b\"start_line\": 1, \"start_col\": 8, " ++
    "\"end_line\": 1, \"end_col\": 22\x7d\x7d]\x7d]\x7d]\x7d"

attribute [local instance] Wordings.short

/-- The edit of a manifest is applied to a text that the manifest knows nothing of. -/
theorem applyAll_fixableEdits_sampleManifest :
    ∃ outlines, Manifest.read sampleManifest = .ok outlines ∧
      (∀ outline ∈ outlines, outline.Legible) ∧
      ∃ places : List Nat,
        places.Nodup ∧
        List.Forall₂
          (fun edit place => place ≤ "größere als Modifier".toList.length ∧
            edit.expected.toList <:+ "größere als Modifier".toList.take place)
          (Diagnostic.fixableEdits (analyzeAll {} outlines).diagnostics) places ∧
        "größere als Modifier = Modifier".toList =
          insertAll (" = " ++ "Modifier").toList places "größere als Modifier".toList ∧
        "größere als Modifier".toList.Sublist "größere als Modifier = Modifier".toList := by
  have computed : ∃ outlines ∈ (Manifest.read sampleManifest).toOption,
      (∀ outline ∈ outlines, outline.Legible) ∧
      applyAll "größere als Modifier"
        (Diagnostic.fixableEdits (analyzeAll {} outlines).diagnostics) =
          .ok "größere als Modifier = Modifier" := by
    decide +kernel
  obtain ⟨outlines, found, legible, applied⟩ := computed
  have read := Outcome.eq_ok_of_mem_toOption found
  refine ⟨outlines, read, legible, ?_⟩
  rcases applyAll_fixableEdits {} (fun outline here => .manifest read here) legible
      "größere als Modifier" with ⟨conflict, refused⟩ | ⟨places, result, same, rest⟩
  · rw [applied] at refused
    cases refused
  · rw [applied] at same
    cases same
    exact ⟨places, rest⟩

end FileOutline

end SignatureLint

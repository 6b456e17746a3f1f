import Mathlib
import SignatureLint.Command.Check
import SignatureLint.Proofs.Analysis.Sums
import SignatureLint.Proofs.Edit.Sequence
import SignatureLint.Proofs.FileTree.Unlinked
import SignatureLint.Proofs.Fixing.AnySource
import SignatureLint.Proofs.Pathname

/-!
# Edits that are written

If no file is at fault, the edits of all files are written, and the number of edits of each file is
told.  Only these files change.  The edit of a finding is about the file in which the finding is, so
a file changes only if a finding in it has an edit.
-/

namespace SignatureLint

/-! ## Groups of edits -/

namespace Edit

theorem exists_mem_groups_iff {edit : Edit} {edits : List Edit} :
    (∃ group ∈ groups edits, edit ∈ group.2) ↔ edit ∈ edits := by
  constructor
  · rintro ⟨_, here, found⟩
    obtain ⟨path, -, rfl⟩ := List.mem_map.mp here
    exact (List.mem_filter.mp found).1
  · intro found
    refine ⟨_, List.mem_map_of_mem (List.mem_eraseDups.mpr (List.mem_map_of_mem found)), ?_⟩
    exact List.mem_filter.mpr ⟨found, decide_eq_true rfl⟩

theorem mem_map_groups_iff {path : String} {edits : List Edit} :
    path ∈ (groups edits).map (·.1) ↔ ∃ edit ∈ edits, edit.span.path = path := by
  have names : (groups edits).map (·.1) = files edits := by
    rw [groups, List.map_map]
    exact List.map_id _
  rw [names, files, List.mem_eraseDups, List.mem_map]

end Edit

theorem Diagnostic.length_fixableEdits (diagnostics : List Diagnostic) :
    (fixableEdits diagnostics).length = (diagnostics.filter (·.autoFix?.isSome)).length := by
  rw [fixableEdits, List.length_filterMap_eq_countP, List.countP_eq_length_filter]

namespace FileTree

variable {tree mended : FileTree} {groups : List (String × List Edit)}

/-! ## All files -/

/-- The files once the edits of each file are applied to it, unless they are refused. -/
def mendAll (tree : FileTree) (groups : List (String × List Edit)) : Except FixError FileTree :=
  groups.foldlM (fun tree group => tree.fixFile group.1 group.2) tree

theorem mendAll_cons (tree : FileTree) (group : String × List Edit)
    (rest : List (String × List Edit)) :
    tree.mendAll (group :: rest) =
      tree.fixFile group.1 group.2 >>= fun next => next.mendAll rest :=
  List.foldlM_cons

/-- If nothing fails, all edits are applied and those of each file are counted. -/
theorem fixFiles_eq_ok_iff {applied : List (String × Nat)} :
    tree.fixFiles groups = (mended, .ok applied) ↔
      tree.mendAll groups = .ok mended ∧
        applied = groups.map fun group => (group.1, group.2.length) := by
  induction groups generalizing tree applied with
  | nil =>
      constructor
      · rintro ⟨⟩
        exact ⟨rfl, rfl⟩
      · rintro ⟨⟨⟩, rfl⟩
        rfl
  | cons group rest ih =>
      obtain ⟨path, edits⟩ := group
      rw [fixFiles, mendAll_cons]
      cases tree.fixFile path edits with
      | error error =>
          constructor
          · intro h
            cases h
          · rintro ⟨all, -⟩
            cases all
      | ok next =>
          -- both go on with the tree that the first file leaves behind
          change ((next.fixFiles rest).1, (next.fixFiles rest).2.map ((path, edits.length) :: ·)) =
            (mended, .ok applied) ↔ next.mendAll rest = .ok mended ∧ _
          constructor
          · intro h
            obtain ⟨rfl, told⟩ := Prod.ext_iff.mp h
            cases counted : (next.fixFiles rest).2 with
            | error error =>
                rw [counted] at told
                cases told
            | ok applied' =>
                rw [counted] at told
                cases told
                obtain ⟨all, rfl⟩ := ih.mp (Prod.ext rfl counted)
                exact ⟨all, rfl⟩
          · rintro ⟨all, rfl⟩
            rw [ih.mpr ⟨all, rfl⟩]
            rfl

/-- Mending files changes what files hold, and no file that is not named. -/
structure MendsNamed (tree mended : FileTree) (names : List String) : Prop where
  alike : tree.Alike mended
  current : mended.current = tree.current
  untouched : ∀ place, (∀ name ∈ names, tree.locate true (Pathname.ofString name) ≠ .ok place) →
    mended.node? place = tree.node? place

theorem MendsNamed.locate_eq {names : List String} (mends : tree.MendsNamed mended names)
    (path : Pathname) : mended.locate true path = tree.locate true path :=
  mends.alike.locate_eq mends.current true path

theorem MendsNamed.unlinked {names : List String} (mends : tree.MendsNamed mended names)
    (unlinked : tree.Unlinked) : mended.Unlinked := by
  intro place target link
  rcases mends.alike place with same | ⟨-, octets', -, here⟩
  · exact unlinked place target (same.symm.trans link)
  · rw [here] at link
    cases link

theorem Alike.trans {tree' tree'' : FileTree} (alike : Alike tree tree')
    (alike' : Alike tree' tree'') : Alike tree tree'' := by
  intro place
  rcases alike place with same | ⟨octets, octets', here, here'⟩ <;>
    rcases alike' place with same' | ⟨before, after, here'', here'''⟩
  · exact .inl (same'.trans same)
  · exact .inr ⟨before, after, same.symm.trans here'', here'''⟩
  · exact .inr ⟨octets, octets', here, same'.trans here'⟩
  · exact .inr ⟨octets, after, here, here'''⟩

theorem mendsNamed_of_mendAll (h : tree.mendAll groups = .ok mended) :
    tree.MendsNamed mended (groups.map (·.1)) := by
  induction groups generalizing tree with
  | nil =>
      cases h
      exact ⟨fun _ => .inl rfl, rfl, fun _ _ => rfl⟩
  | cons group rest ih =>
      rw [mendAll_cons] at h
      obtain ⟨next, first, h⟩ := Outcome.exists_of_bind_eq_ok h
      rcases tree.fixFile_cases group.1 group.2 with
        ⟨place, octets, octets', found, here, -, rewritten⟩ | ⟨error, fails, -⟩
      · rw [rewritten] at first
        cases first
        have mends := ih h
        refine ⟨(alike_set here octets').trans mends.alike, mends.current, fun other outside => ?_⟩
        rw [List.map_cons, List.forall_mem_cons] at outside
        rw [mends.untouched, node?_set (ne_nil_of_node?_file here), if_neg]
        · rintro rfl
          exact outside.1 found
        · intro name among
          rw [locate_set_file here]
          exact outside.2 name among
      · rw [fails] at first
        cases first

theorem Unlinked.isSourceName_of_locate (unlinked : tree.Unlinked) {path : String} {place : Place}
    (source : Collect.isSourceName path = true)
    (h : tree.locate true (Pathname.ofString path) = .ok place) :
    place.getLast?.any Collect.isSourceName = true := by
  obtain ⟨names, name, last, ends⟩ := Pathname.exists_names_of_suffix (by decide) (by decide)
    (List.isSuffixOf_iff_suffix.mp source)
  have down : name ≠ ".." := by
    rintro rfl
    revert ends
    decide
  obtain ⟨above, -, rfl⟩ := unlinked.exists_of_locate last down h
  rw [List.getLast?_append, List.getLast?_singleton, Option.some_or, Option.any_some]
  exact List.isSuffixOf_iff_suffix.mpr ends

end FileTree

/-! ## Findings and their files -/

namespace FileOutline

variable {config : Config} {outline : FileOutline} {diagnostic : Diagnostic} {edit : Edit}

theorem path_of_mem_findings
    (anchored : ∀ declaration ∈ outline.declarations, ∀ parameter ∈ declaration.parameters,
      parameter.Anchored)
    (found : diagnostic ∈ outline.findings config) (fix : diagnostic.autoFix? = some edit) :
    edit.span.path = diagnostic.location.path := by
  have fixable : diagnostic ∈ (outline.findings config).filter (·.autoFix?.isSome) :=
    List.mem_filter.mpr ⟨found, by rw [fix]; rfl⟩
  rw [filter_autoFix?_findings] at fixable
  obtain ⟨parameter, here, rfl⟩ := List.mem_map.mp fixable
  obtain ⟨declaration, within, within'⟩ :=
    List.mem_flatMap.mp ((fixable_sublist config outline).subset here)
  rw [ModifierDefault.autoFix?_diagnostic] at fix
  split at fix
  · obtain rfl := Option.some.inj fix
    rw [ModifierDefault.edit, (anchored declaration within parameter within').lastLexeme]
    rfl
  · cases fix

theorem path_of_mem_analyzeAll [Wordings] {outlines : List FileOutline}
    (produced : ∀ outline ∈ outlines, outline.Produced)
    (found : diagnostic ∈ (analyzeAll config outlines).diagnostics)
    (fix : diagnostic.autoFix? = some edit) : edit.span.path = diagnostic.location.path := by
  rw [diagnostics_analyzeAll] at found
  obtain ⟨outline, here, found⟩ := List.mem_flatMap.mp found
  unfold reported at found
  split at found
  · cases found
  · exact path_of_mem_findings (produced outline here).anchored found fix

end FileOutline

namespace FileTree

variable {tree : FileTree} {config : Config} {diagnostic : Diagnostic} {edit : Edit}

theorem path_of_mem_analyze [Wordings] {paths : List Pathname} {result : AnalysisResult}
    (h : tree.analyze config paths = .ok result) (found : diagnostic ∈ result.diagnostics)
    (fix : diagnostic.autoFix? = some edit) : edit.span.path = diagnostic.location.path := by
  obtain ⟨-, analyzed⟩ := analyze_eq_ok_iff.mp h
  obtain ⟨parts, adds, rfl⟩ := exists_adds_of_analyzeFiles analyzed
  rw [fields_foldr] at found
  obtain ⟨part, here, found⟩ := List.mem_flatMap.mp found
  obtain ⟨path, -, adds⟩ := Related.exists_of_mem adds.flip here
  cases adds with
  | unreadable fails => cases found
  | noProgram source fails => cases found
  | program source read declared =>
      rw [← FileOutline.findings_eq_violations] at found
      exact FileOutline.path_of_mem_findings (FileOutline.Produced.program declared).anchored found
        fix

theorem produced_of_manifest [Wordings] {path : Pathname} {outlines : List FileOutline}
    (h : tree.manifest path = .ok outlines) : ∀ outline ∈ outlines, outline.Produced := by
  obtain ⟨octets, -, h⟩ := Outcome.exists_of_bind_eq_ok h
  obtain ⟨characters, -, h⟩ := Outcome.exists_of_bind_eq_ok h
  exact fun outline found => .manifest (Outcome.mapError_eq_ok_iff.mp h) found

end FileTree

end SignatureLint

import SignatureLint.Proofs.FileTree.Collecting
import SignatureLint.Proofs.FileTree.Faults

/-!
# Collecting again

What was collected may be collected again.  Nothing changes then if no directory is among it.  A
directory is collected if it stands below another one under the name of a source file; collecting
again puts what is inside in its place.
-/

namespace SignatureLint

/-! ## What is kept -/

namespace Collect

variable {tree : FileTree}

theorem unseen_sublist (seen : List Place) (paths : List Pathname) :
    (unseen tree seen paths).Sublist paths := by
  induction paths generalizing seen with
  | nil => exact List.Sublist.refl _
  | cons path rest ih =>
      rw [unseen]
      split
      · exact (ih seen).cons path
      · exact (ih _).cons_cons path

theorem unseen_of_nodup {seen : List Place} {paths : List Pathname}
    (distinct : (paths.map tree.resolve).Nodup)
    (fresh : ∀ path ∈ paths, tree.resolve path ∉ seen) : unseen tree seen paths = paths := by
  induction paths generalizing seen with
  | nil => rfl
  | cons path rest ih =>
      rw [List.map_cons, List.nodup_cons] at distinct
      obtain ⟨here, later⟩ := List.forall_mem_cons.mp fresh
      rw [unseen, if_neg (by rwa [List.contains_iff_mem])]
      refine congrArg (path :: ·) (ih distinct.2 fun other found => ?_)
      rw [List.mem_cons, not_or]
      refine ⟨fun same => distinct.1 ?_, later other found⟩
      rw [← same]
      exact List.mem_map_of_mem found

end Collect

namespace FileTree

variable {tree : FileTree} {path file : Pathname} {paths : List Pathname}

theorem flatMap_candidates_of_files (files : ∀ file ∈ paths, tree.isDirectory file = false) :
    paths.flatMap (Collect.candidates tree) = paths := by
  induction paths with
  | nil => rfl
  | cons path rest ih =>
      obtain ⟨here, later⟩ := List.forall_mem_cons.mp files
      have other : tree.directory? path = none :=
        Option.not_isSome_iff_eq_none.mp (Bool.eq_false_iff.mp here)
      rw [List.flatMap_cons, candidates_of_other other, ih later]
      rfl

theorem collect_of_files (files : ∀ file ∈ paths, tree.isDirectory file = false)
    (distinct : (paths.map tree.resolve).Nodup) : tree.collect paths = paths := by
  rw [collect, flatMap_candidates_of_files files]
  exact Collect.unseen_of_nodup distinct fun _ _ => List.not_mem_nil

/-! ## Collecting again -/

/-- What a path name stands for is itself, or an entry with a name like a source file's below the
directory that it stands for. -/
theorem cases_of_mem_candidates (h : file ∈ Collect.candidates tree path) :
    (tree.isDirectory path = false ∧ file = path) ∨
      ∃ directory names, tree.directory? path = some directory ∧ names ∈ tree.below directory ∧
        Collect.isCandidate names = true ∧ file = path.descend names := by
  cases found : tree.directory? path with
  | none =>
      rw [candidates_of_other found, List.mem_singleton] at h
      exact .inl ⟨by rw [isDirectory, found]; rfl, h⟩
  | some directory =>
      rw [candidates_of_directory found, List.mem_map] at h
      obtain ⟨names, sorted, rfl⟩ := h
      obtain ⟨below, candidate⟩ := List.mem_filter.mp (List.mem_mergeSort.mp sorted)
      exact .inr ⟨directory, names, rfl, below, candidate, rfl⟩

theorem length_lt_descend {names : List String} (candidate : Collect.isCandidate names = true) :
    path.names.length < (path.descend names).names.length := by
  cases names with
  | nil => cases candidate
  | cons name rest =>
      rw [Pathname.descend, List.length_append, List.length_cons]
      omega

theorem exists_of_mem_collect (h : file ∈ tree.collect paths) :
    ∃ path ∈ paths, file ∈ Collect.candidates tree path :=
  List.mem_flatMap.mp ((Collect.unseen_sublist [] _).subset h)

/-- No directory is among what collecting does not change, since a directory gives way to what is
inside and what is inside has more names. -/
theorem isDirectory_of_collect_eq (same : tree.collect paths = paths) :
    ∀ file ∈ paths, tree.isDirectory file = false := by
  -- by the number of names: a directory that stays comes from one with fewer names
  have shorter (count : Nat) : ∀ file ∈ paths, file.names.length = count →
      tree.isDirectory file = false := by
    induction count using Nat.strongRecOn with
    | ind count ih =>
        intro file found length
        rw [← same] at found
        obtain ⟨path, found', candidate⟩ := exists_of_mem_collect found
        rcases cases_of_mem_candidates candidate with ⟨other, rfl⟩ | ⟨place, names, h⟩
        · exact other
        · obtain ⟨directory, -, named, rfl⟩ := h
          have fewer := ih _ (length ▸ length_lt_descend named) path found' rfl
          rw [isDirectory, directory] at fewer
          cases fewer
  exact fun file found => shorter _ file found rfl

/-- Collecting again returns, and it changes nothing exactly if no directory was collected, which is
what cannot be read for being one.  A directory is collected only as an entry below a path name of
another directory, under a name like a source file's. -/
theorem collectChecked_again_iff (regular : tree.Regular) (loopless : tree.Loopless)
    {files : List Pathname} (collected : tree.collectChecked paths = .ok files) :
    (∃ again, tree.collectChecked files = .ok again) ∧
    (tree.collectChecked files = .ok files ↔ ∀ file ∈ files, tree.isDirectory file = false) ∧
    ∀ file ∈ files,
      ((∃ error, tree.read file = .error error ∧ error.fault = .isDirectory) ↔
        tree.isDirectory file = true) ∧
      (tree.isDirectory file = true → ∃ path ∈ paths, ∃ directory above stem,
        tree.directory? path = some directory ∧
          tree.Below directory (above ++ [stem ++ ".py"]) ∧
          file = path.descend (above ++ [stem ++ ".py"])) := by
  have clean := (regular.exists_collectChecked_iff loopless).mp ⟨files, collected⟩
  obtain ⟨told, rfl⟩ := collectChecked_eq_ok_iff.mp collected
  have offered : ∀ file ∈ tree.collect paths, ∃ path ∈ paths, tree.Offers path file := by
    intro file found
    obtain ⟨path, found', candidate⟩ := exists_of_mem_collect found
    exact ⟨path, found', regular.mem_candidates_iff.mp candidate⟩
  refine ⟨(regular.exists_collectChecked_iff loopless).mpr fun file found => ?_, ⟨?_, ?_⟩,
    fun file found => ⟨read_eq_isDirectory_iff, fun directory => ?_⟩⟩
  · obtain ⟨path, found', offers⟩ := offered file found
    exact regular.noNull_of_offers offers (clean path found')
  · intro again
    exact isDirectory_of_collect_eq (collectChecked_eq_ok_iff.mp again).2.symm
  · intro others
    -- nothing is expanded and no two of the files are alike, so each one stays
    have same := collect_of_files others (Collect.nodup_map_unseen _)
    refine collectChecked_eq_ok_iff.mpr ⟨fun file found => ?_, same.symm⟩
    rw [flatMap_candidates_of_files others] at found
    exact told file ((Collect.unseen_sublist [] _).subset found)
  · obtain ⟨path, found', offers⟩ := offered file found
    cases offers with
    | alone other =>
        rw [isDirectory, other] at directory
        cases directory
    | inside found'' below shown => exact ⟨path, found', _, _, _, found'', below, rfl⟩

/-- A directory that is named like a source file, with a source file inside. -/
def packageTree : FileTree where
  nodes := [(["d.py"], .directory), (["d.py", "a.py"], .file [])]

theorem regular_packageTree : packageTree.Regular where
  distinct := by decide
  current := rfl
  within place found := by
    simp only [packageTree, List.map_cons, List.map_nil, List.mem_cons, List.not_mem_nil,
      or_false] at found
    rcases found with rfl | rfl
    · exact ⟨[], "d.py", by decide⟩
    · exact ⟨["d.py"], "a.py", by decide⟩

theorem loopless_packageTree : packageTree.Loopless := by
  intro place target link
  have found := (node?_isSome_iff (by rintro rfl; cases link)).mp ⟨_, link⟩
  simp only [packageTree, List.map_cons, List.map_nil, List.mem_cons, List.not_mem_nil,
    or_false] at found
  rcases found with rfl | rfl
  all_goals cases link

theorem directory?_packageTree : packageTree.directory? ⟨"", ["d.py"]⟩ = some ["d.py"] := by
  cbv

theorem isDirectory_packageTree : packageTree.isDirectory ⟨"", ["d.py"]⟩ = true := by
  rw [isDirectory, directory?_packageTree]
  rfl

theorem collectChecked_packageTree :
    packageTree.collectChecked [⟨"", []⟩] = .ok [⟨"", ["d.py"]⟩, ⟨"", ["d.py", "a.py"]⟩] := by
  have sorted : ((packageTree.below []).filter Collect.isCandidate).mergeSort Collect.precedes =
      [["d.py"], ["d.py", "a.py"]] := by
    cbv
  have candidates : [⟨"", []⟩].flatMap (Collect.candidates packageTree) =
      [⟨"", ["d.py"]⟩, ⟨"", ["d.py", "a.py"]⟩] := by
    have found : packageTree.directory? ⟨"", []⟩ = some [] := by cbv
    rw [List.flatMap_singleton, candidates_of_directory found, sorted]
    rfl
  have outer : packageTree.resolve ⟨"", ["d.py"]⟩ = ["d.py"] := by cbv
  have inner : packageTree.resolve ⟨"", ["d.py", "a.py"]⟩ = ["d.py", "a.py"] := by cbv
  refine collectChecked_eq_ok_iff.mpr ⟨?_, ?_⟩
  · rw [candidates, List.forall_mem_cons, List.forall_mem_singleton]
    exact ⟨by cbv, by cbv⟩
  · rw [collect, candidates]
    simp [Collect.unseen, outer, inner]

/-- The directory is among what is collected, so that collecting again changes something. -/
theorem collectChecked_again_of_packageTree :
    packageTree.Regular ∧ packageTree.Loopless ∧
    packageTree.collectChecked [⟨"", []⟩] = .ok [⟨"", ["d.py"]⟩, ⟨"", ["d.py", "a.py"]⟩] ∧
    (∃ again, packageTree.collectChecked [⟨"", ["d.py"]⟩, ⟨"", ["d.py", "a.py"]⟩] = .ok again) ∧
    packageTree.collectChecked [⟨"", ["d.py"]⟩, ⟨"", ["d.py", "a.py"]⟩] ≠
      .ok [⟨"", ["d.py"]⟩, ⟨"", ["d.py", "a.py"]⟩] := by
  obtain ⟨returns, unchanged, -⟩ :=
    collectChecked_again_iff regular_packageTree loopless_packageTree collectChecked_packageTree
  refine ⟨regular_packageTree, loopless_packageTree, collectChecked_packageTree, returns, ?_⟩
  intro same
  have file : packageTree.isDirectory ⟨"", ["d.py"]⟩ = false :=
    unchanged.mp same _ List.mem_cons_self
  rw [isDirectory_packageTree] at file
  cases file

/-- A directory that is collected gives way to the file inside when it is collected again. -/
theorem collectChecked_twice_packageTree :
    packageTree.Regular ∧ packageTree.Loopless ∧
    packageTree.collectChecked [⟨"", []⟩] = .ok [⟨"", ["d.py"]⟩, ⟨"", ["d.py", "a.py"]⟩] ∧
    packageTree.isDirectory ⟨"", ["d.py"]⟩ = true ∧
    packageTree.collectChecked [⟨"", ["d.py"]⟩, ⟨"", ["d.py", "a.py"]⟩] =
      .ok [⟨"", ["d.py", "a.py"]⟩] := by
  have sorted : ((packageTree.below ["d.py"]).filter Collect.isCandidate).mergeSort
      Collect.precedes = [["a.py"]] := by
    cbv
  have outer : Collect.candidates packageTree ⟨"", ["d.py"]⟩ = [⟨"", ["d.py", "a.py"]⟩] := by
    rw [candidates_of_directory directory?_packageTree, sorted]
    rfl
  have inner : Collect.candidates packageTree ⟨"", ["d.py", "a.py"]⟩ =
      [⟨"", ["d.py", "a.py"]⟩] :=
    candidates_of_other (by cbv)
  have candidates : [⟨"", ["d.py"]⟩, ⟨"", ["d.py", "a.py"]⟩].flatMap
      (Collect.candidates packageTree) = [⟨"", ["d.py", "a.py"]⟩, ⟨"", ["d.py", "a.py"]⟩] := by
    rw [List.flatMap_cons, List.flatMap_singleton, outer, inner]
    rfl
  refine ⟨regular_packageTree, loopless_packageTree, collectChecked_packageTree,
    isDirectory_packageTree, collectChecked_eq_ok_iff.mpr ⟨?_, ?_⟩⟩
  · rw [candidates, List.forall_mem_cons, List.forall_mem_singleton]
    exact ⟨by cbv, by cbv⟩
  · rw [collect, candidates]
    simp [Collect.unseen]

end FileTree

end SignatureLint

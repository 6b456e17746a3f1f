import Mathlib.Data.List.Lex
import Mathlib.Data.List.Nodup
import Mathlib.Data.String.Basic
import SignatureLint.Proofs.Analysis.Runs
import SignatureLint.Proofs.FileTree.Leading

/-!
# What is collected

A path name of a directory stands for the source files below it, in the order of their names, and
any other one for itself.  Of all these, those are collected that lead to a place for the first
time.  So every place is collected that any of them leads to, once only, and which places these are
does not depend on the order of the path names.
-/

namespace SignatureLint

namespace FileTree

variable {tree : FileTree} {place directory : Place} {path file : Pathname} {names : List String}

/-! ## Below a directory -/

/-- Names that lead from a directory to something below it, through directories only. -/
inductive Below (tree : FileTree) (directory : Place) : List String → Prop where
  | child {name : String} {node : FileNode}
      (here : tree.node? (directory ++ [name]) = some node) : Below tree directory [name]
  | deeper {names : List String} {name : String} {node : FileNode}
      (above : Below tree directory names)
      (inside : tree.node? (directory ++ names) = some .directory)
      (here : tree.node? (directory ++ names ++ [name]) = some node) :
      Below tree directory (names ++ [name])

/-- What is left of a place below another one. -/
theorem placeBelow?_eq_some_iff {above place rest : Place} :
    placeBelow? above place = some rest ↔ rest ≠ [] ∧ place = above ++ rest := by
  induction above generalizing place with
  | nil =>
      cases place with
      | nil =>
          rw [placeBelow?, List.nil_append]
          constructor
          · rintro ⟨⟩
          · exact fun h => absurd h.2.symm h.1
      | cons name place =>
          change some (name :: place) = some rest ↔ _
          rw [List.nil_append, Option.some.injEq]
          constructor
          · rintro rfl
            exact ⟨List.cons_ne_nil _ _, rfl⟩
          · exact fun h => h.2
  | cons name above ih =>
      cases place with
      | nil =>
          constructor
          · rintro ⟨⟩
          · rintro ⟨-, ⟨⟩⟩
      | cons other place =>
          rw [placeBelow?, List.cons_append, List.cons.injEq]
          split
          · rename_i same
            rw [ih, same, and_iff_right rfl]
          · rename_i different
            constructor
            · rintro ⟨⟩
            · exact fun h => absurd h.2.1.symm different

theorem below_eq (tree : FileTree) (directory : Place) :
    tree.below directory = (tree.nodes.map (·.1)).filterMap (placeBelow? directory) := by
  rw [below, List.filterMap_map]
  rfl

theorem mem_below_iff_entry :
    names ∈ tree.below directory ↔ names ≠ [] ∧ directory ++ names ∈ tree.nodes.map (·.1) := by
  rw [below_eq, List.mem_filterMap]
  constructor
  · rintro ⟨place, found, h⟩
    obtain ⟨filled, rfl⟩ := placeBelow?_eq_some_iff.mp h
    exact ⟨filled, found⟩
  · rintro ⟨filled, found⟩
    exact ⟨_, found, placeBelow?_eq_some_iff.mpr ⟨filled, rfl⟩⟩

theorem Regular.below_of_entry (regular : tree.Regular) (filled : names ≠ [])
    (found : directory ++ names ∈ tree.nodes.map (·.1)) : tree.Below directory names := by
  induction names using List.reverseRecOn with
  | nil => exact absurd rfl filled
  | append_singleton above name ih =>
      obtain ⟨node, here⟩ := (node?_isSome_iff (by simp)).mpr found
      by_cases empty : above = []
      · subst empty
        exact .child here
      · obtain ⟨above', name', same, inside, -⟩ := regular.within _ found
        rw [← List.append_assoc] at same here
        obtain ⟨rfl, -⟩ := List.append_singleton_inj.mp same
        have found' := (node?_isSome_iff (by simp [empty])).mp ⟨_, inside⟩
        exact .deeper (ih empty found') inside here

theorem Regular.mem_below_iff (regular : tree.Regular) :
    names ∈ tree.below directory ↔ tree.Below directory names := by
  rw [mem_below_iff_entry]
  constructor
  · rintro ⟨filled, found⟩
    exact regular.below_of_entry filled found
  · intro h
    cases h with
    | child here => exact ⟨List.cons_ne_nil _ _, (node?_isSome_iff (by simp)).mp ⟨_, here⟩⟩
    | deeper _ _ here =>
        rw [List.append_assoc] at here
        exact ⟨by simp, (node?_isSome_iff (by simp)).mp ⟨_, here⟩⟩

theorem Regular.nodup_below (regular : tree.Regular) (directory : Place) :
    (tree.below directory).Nodup := by
  rw [below_eq]
  apply List.Nodup.filterMap _ regular.distinct
  intro place place' rest h h'
  rw [(placeBelow?_eq_some_iff.mp h).2, (placeBelow?_eq_some_iff.mp h').2]

end FileTree

/-! ## The order of places -/

namespace Collect

theorem precedes_iff {left right : Place} : precedes left right = true ↔ ¬right < left := by
  induction left generalizing right with
  | nil => exact iff_of_true rfl (List.not_lt_nil right)
  | cons name left ih =>
      cases right with
      | nil => exact iff_of_false nofun fun h => h (List.nil_lt_cons _ _)
      | cons other right =>
          rw [precedes, List.cons_lt_cons_iff]
          split
          · rename_i same
            simp [same, ih]
          · rename_i different
            rw [decide_eq_true_iff, not_or, not_and]
            constructor
            · exact fun before => ⟨lt_asymm before, fun same => absurd same.symm different⟩
            · exact fun after => lt_of_le_of_ne (not_lt.mp after.1) different

theorem pairwise_mergeSort (places : List Place) :
    (places.mergeSort precedes).Pairwise fun left right => precedes left right = true := by
  apply List.pairwise_mergeSort
  · simp only [precedes_iff, not_lt]
    exact fun _ _ _ first second => le_trans first second
  · simp only [Bool.or_eq_true, precedes_iff, not_lt]
    exact le_total

theorem pairwise_lt_mergeSort {places : List Place} (distinct : places.Nodup) :
    (places.mergeSort precedes).Pairwise (· < ·) := by
  have distinct' := (List.mergeSort_perm places precedes).nodup_iff.mpr distinct
  refine ((pairwise_mergeSort places).and distinct').imp ?_
  rintro left right ⟨before, different⟩
  exact lt_of_le_of_ne (not_lt.mp (precedes_iff.mp before)) different

theorem isSkipped_eq_false_iff {name : String} :
    isSkipped name = false ↔ name.toList.head? ≠ some '.' ∧ name ∉ skippedDirectories := by
  simp [isSkipped]

theorem isSourceName_iff {name : String} :
    isSourceName name = true ↔ ∃ stem : String, name = stem ++ ".py" := by
  rw [isSourceName, List.isSuffixOf_iff_suffix]
  constructor
  · rintro ⟨stem, whole⟩
    refine ⟨String.ofList stem, String.toList_injective ?_⟩
    rw [String.toList_append, String.toList_ofList, ← whole]
    rfl
  · rintro ⟨stem, rfl⟩
    rw [String.toList_append]
    exact List.suffix_append _ _

theorem isCandidate_iff {place : Place} :
    isCandidate place = true ↔ ∃ above stem, place = above ++ [stem ++ ".py"] ∧
      ∀ name ∈ above, name.toList.head? ≠ some '.' ∧ name ∉ skippedDirectories := by
  simp only [← isSkipped_eq_false_iff]
  induction place using List.reverseRecOn with
  | nil => exact iff_of_false nofun (by simp)
  | append_singleton above name =>
      simp only [isCandidate, List.getLast?_concat, Option.any_some, List.dropLast_concat,
        Bool.and_eq_true, isSourceName_iff, Bool.not_eq_true', List.any_eq_false,
        Bool.not_eq_true, List.append_singleton_inj]
      constructor
      · rintro ⟨⟨stem, rfl⟩, others⟩
        exact ⟨above, stem, ⟨rfl, rfl⟩, others⟩
      · rintro ⟨_, stem, ⟨rfl, rfl⟩, others⟩
        exact ⟨⟨stem, rfl⟩, others⟩

end Collect

/-! ## What path names stand for -/

namespace FileTree

variable {tree : FileTree} {directory : Place} {path file : Pathname} {names : List String}

/-- A path name that another one stands for: itself unless there is a directory, and otherwise a
source file below the directory, in no directory that is hidden or skipped. -/
inductive Offers (tree : FileTree) (path : Pathname) : Pathname → Prop where
  | alone (other : tree.directory? path = none) : Offers tree path path
  | inside {directory : Place} {above : List String} {stem : String}
      (found : tree.directory? path = some directory)
      (below : tree.Below directory (above ++ [stem ++ ".py"]))
      (shown : ∀ name ∈ above,
        name.toList.head? ≠ some '.' ∧ name ∉ Collect.skippedDirectories) :
      Offers tree path (path.descend (above ++ [stem ++ ".py"]))

theorem candidates_of_directory (found : tree.directory? path = some directory) :
    Collect.candidates tree path =
      (((tree.below directory).filter Collect.isCandidate).mergeSort Collect.precedes).map
        path.descend := by
  rw [Collect.candidates, found]

theorem candidates_of_other (other : tree.directory? path = none) :
    Collect.candidates tree path = [path] := by
  rw [Collect.candidates, other]

/-- The candidates of a path name are those that it stands for. -/
theorem Regular.mem_candidates_iff (regular : tree.Regular) :
    file ∈ Collect.candidates tree path ↔ tree.Offers path file := by
  cases found : tree.directory? path with
  | none =>
      rw [candidates_of_other found, List.mem_singleton]
      constructor
      · rintro rfl
        exact .alone found
      · intro offers
        cases offers with
        | alone => rfl
        | inside found' =>
            rw [found] at found'
            cases found'
  | some directory =>
      rw [candidates_of_directory found, List.mem_map]
      simp only [List.mem_mergeSort, List.mem_filter, regular.mem_below_iff,
        Collect.isCandidate_iff]
      constructor
      · rintro ⟨names, ⟨below, above, stem, rfl, shown⟩, rfl⟩
        exact .inside found below shown
      · intro offers
        cases offers with
        | alone other =>
            rw [found] at other
            cases other
        | @inside directory' above stem found' below shown =>
            rw [found] at found'
            cases found'
            exact ⟨_, ⟨below, above, stem, rfl, shown⟩, rfl⟩

theorem Regular.pairwise_candidates (regular : tree.Regular) (path : Pathname) :
    (Collect.candidates tree path).Pairwise fun file other => file.names < other.names := by
  cases found : tree.directory? path with
  | none =>
      rw [candidates_of_other found]
      exact List.pairwise_singleton _ _
  | some directory =>
      rw [candidates_of_directory found, List.pairwise_map]
      have distinct := (regular.nodup_below directory).filter Collect.isCandidate
      refine (Collect.pairwise_lt_mergeSort distinct).imp ?_
      intro left right before
      exact List.Lex.append_left _ before path.names

theorem Regular.noNull_of_below (regular : tree.Regular) (below : tree.Below directory names) :
    ∀ name ∈ names, '\x00' ∉ name.toList := by
  have last {above : Place} {name : String} {node : FileNode}
      (here : tree.node? (above ++ [name]) = some node) : '\x00' ∉ name.toList := by
    obtain ⟨_, _, same, -, -, clean⟩ :=
      regular.within _ ((node?_isSome_iff (by simp)).mp ⟨_, here⟩)
    obtain ⟨-, rfl⟩ := List.append_singleton_inj.mp same
    exact clean
  induction below with
  | child here => exact List.forall_mem_singleton.mpr (last here)
  | deeper _ _ here ih =>
      exact List.forall_mem_append.mpr ⟨ih, List.forall_mem_singleton.mpr (last here)⟩

theorem noNull_of_directory? (found : tree.directory? path = some directory) :
    path.hasNull = false := by
  rw [Bool.eq_false_iff]
  intro null
  rw [directory?, locate, if_pos null] at found
  cases found

theorem Regular.noNull_of_offers (regular : tree.Regular) (offers : tree.Offers path file)
    (clean : path.hasNull = false) : file.hasNull = false := by
  cases offers with
  | alone => exact clean
  | @inside directory above stem found below shown =>
      have names := regular.noNull_of_below below
      rw [Pathname.hasNull, Pathname.descend, List.any_append, Bool.or_eq_false_iff]
      refine ⟨clean, List.any_eq_false.mpr fun name found => ?_⟩
      simpa using names name found

theorem Regular.exists_collectChecked_iff (regular : tree.Regular) (loopless : tree.Loopless)
    {paths : List Pathname} :
    (∃ files, tree.collectChecked paths = .ok files) ↔ ∀ path ∈ paths, path.hasNull = false := by
  have told (path : Pathname) : tree.placeError? path = none ↔ path.hasNull = false :=
    regular.placeError?_eq_none_iff loopless
  simp only [collectChecked_eq_ok_iff, List.forall_mem_flatMap, told]
  constructor
  · rintro ⟨-, clean, -⟩ path found
    cases directory : tree.directory? path with
    | none =>
        apply clean path found
        rw [candidates_of_other directory]
        exact List.mem_singleton_self path
    | some place => exact noNull_of_directory? directory
  · intro clean
    refine ⟨_, fun path found file candidate => ?_, rfl⟩
    exact regular.noNull_of_offers (regular.mem_candidates_iff.mp candidate) (clean path found)

end FileTree

/-! ## First occurrences -/

namespace Collect

variable {tree : FileTree} {place : Place}

/-- Whether an element of a list has a key that none before it has. -/
def isFirst {α β : Type} [BEq β] (key : α → β) (list : List α) (numbered : α × Nat) : Bool :=
  !((list.take numbered.2).map key).contains (key numbered.1)

def firsts {α β : Type} [BEq β] (key : α → β) (list : List α) : List α :=
  (list.zipIdx.filter (isFirst key list)).map (·.1)

/-- Behind a front of a list those are kept that lead to a place for the first time. -/
theorem unseen_eq {seen : List Place} (front rest : List Pathname)
    (known : ∀ place, place ∈ seen ↔ place ∈ front.map tree.resolve) :
    unseen tree seen rest =
      ((rest.zipIdx front.length).filter (isFirst tree.resolve (front ++ rest))).map (·.1) := by
  induction rest generalizing front seen with
  | nil => rfl
  | cons path rest ih =>
      have whole : front ++ path :: rest = front ++ [path] ++ rest := by simp
      have count : front.length + 1 = (front ++ [path]).length := by simp
      have here : isFirst tree.resolve (front ++ path :: rest) (path, front.length) =
          !seen.contains (tree.resolve path) := by
        rw [isFirst, List.take_left]
        refine congrArg (!·) (Bool.eq_iff_iff.mpr ?_)
        rw [List.contains_iff_mem, List.contains_iff_mem, known]
      rw [unseen, List.zipIdx_cons, List.filter_cons, here, count, whole]
      cases again : seen.contains (tree.resolve path) with
      | true =>
          apply ih
          intro place
          rw [known, List.map_append, List.mem_append]
          refine (or_iff_left_of_imp fun found => ?_).symm
          rw [List.mem_singleton.mp found]
          exact (known _).mp (List.contains_iff_mem.mp again)
      | false =>
          refine congrArg (path :: ·) (ih (front ++ [path]) fun place => ?_)
          rw [List.map_append, List.mem_append, List.mem_cons, known, or_comm]
          exact or_congr_right List.mem_singleton.symm

theorem collect_eq_firsts (tree : FileTree) (paths : List Pathname) :
    tree.collect paths = firsts tree.resolve (paths.flatMap (candidates tree)) :=
  unseen_eq [] _ fun _ => iff_of_false List.not_mem_nil List.not_mem_nil

theorem mem_map_unseen_iff {seen : List Place} {paths : List Pathname} :
    place ∈ (unseen tree seen paths).map tree.resolve ↔
      place ∉ seen ∧ place ∈ paths.map tree.resolve := by
  induction paths generalizing seen with
  | nil => exact iff_of_false List.not_mem_nil fun h => absurd h.2 List.not_mem_nil
  | cons path rest ih =>
      rw [unseen]
      split
      · rename_i again
        rw [ih, List.map_cons, List.mem_cons]
        refine and_congr_right fun fresh => (or_iff_right ?_).symm
        rintro rfl
        exact fresh (List.contains_iff_mem.mp again)
      · rename_i fresh
        rw [List.map_cons, List.map_cons, List.mem_cons, List.mem_cons, ih, List.mem_cons]
        rw [List.contains_iff_mem] at fresh
        by_cases same : place = tree.resolve path
        · simp [same, fresh]
        · simp [same]

theorem nodup_map_unseen {seen : List Place} (paths : List Pathname) :
    ((unseen tree seen paths).map tree.resolve).Nodup := by
  induction paths generalizing seen with
  | nil => exact List.nodup_nil
  | cons path rest ih =>
      rw [unseen]
      split
      · exact ih
      · rw [List.map_cons, List.nodup_cons]
        refine ⟨fun found => ?_, ih⟩
        exact (mem_map_unseen_iff.mp found).1 List.mem_cons_self

end Collect

/-! ## Collecting -/

namespace FileTree

variable {tree : FileTree}

theorem Regular.mem_map_collect_iff (regular : tree.Regular) {paths : List Pathname}
    {place : Place} :
    place ∈ (tree.collect paths).map tree.resolve ↔
      ∃ path ∈ paths, ∃ file, tree.Offers path file ∧ tree.resolve file = place := by
  rw [collect, Collect.mem_map_unseen_iff, and_iff_right List.not_mem_nil, List.mem_map]
  simp only [List.mem_flatMap, regular.mem_candidates_iff]
  constructor
  · rintro ⟨file, ⟨path, found, offers⟩, rfl⟩
    exact ⟨path, found, file, offers, rfl⟩
  · rintro ⟨path, found, file, offers, rfl⟩
    exact ⟨file, ⟨path, found, offers⟩, rfl⟩

/-- In a tree without loops the files of path names are collected unless a path name holds a null
character.  The place that a path name is resolved to is the one that its names lead to, with no
link on the way.  The collected path names lead to different places, and to all those that the path
names stand for.  They are the first that do, where each path name gives way to those that it stands
for, in the order of their names.  The places do not depend on the order of the path names. -/
theorem collectChecked_of_loopless (regular : tree.Regular) (loopless : tree.Loopless)
    (paths : List Pathname) :
    (∀ path, (∃ links, tree.LeadsIn links (tree.origin path) path.names (tree.resolve path)) ∧
      tree.Direct (tree.resolve path)) ∧
    ((∃ files, tree.collectChecked paths = .ok files) ↔ ∀ path ∈ paths, path.hasNull = false) ∧
    ∀ files, tree.collectChecked paths = .ok files →
      (files.map tree.resolve).Nodup ∧
      (∀ place, place ∈ files.map tree.resolve ↔
        ∃ path ∈ paths, ∃ file, tree.Offers path file ∧ tree.resolve file = place) ∧
      (∃ groups : List (List Pathname),
        List.Forall₂ (fun path group =>
          (group.Pairwise fun file other => file.names < other.names) ∧
            ∀ file, file ∈ group ↔ tree.Offers path file) paths groups ∧
        files = Collect.firsts tree.resolve groups.flatten) ∧
      ∀ paths' : List Pathname, paths'.Perm paths →
        ∃ files', tree.collectChecked paths' = .ok files' ∧
          ∀ place, place ∈ files'.map tree.resolve ↔ place ∈ files.map tree.resolve := by
  refine ⟨regular.resolve_spec loopless, regular.exists_collectChecked_iff loopless, ?_⟩
  intro files h
  have clean := (regular.exists_collectChecked_iff loopless).mp ⟨files, h⟩
  obtain ⟨-, rfl⟩ := collectChecked_eq_ok_iff.mp h
  refine ⟨Collect.nodup_map_unseen _, fun place => regular.mem_map_collect_iff, ?_, ?_⟩
  · refine ⟨paths.map (Collect.candidates tree), ?_, ?_⟩
    · rw [List.forall₂_map_right_iff, List.forall₂_same]
      exact fun path _ => ⟨regular.pairwise_candidates path, fun file => regular.mem_candidates_iff⟩
    · rw [Collect.collect_eq_firsts, List.flatMap_def]
  · -- the order of the paths decides which name stands for a place, not which places there are
    intro paths' permuted
    obtain ⟨files', h'⟩ := (regular.exists_collectChecked_iff loopless).mpr fun path found =>
      clean path (permuted.mem_iff.mp found)
    refine ⟨files', h', fun place => ?_⟩
    obtain ⟨-, rfl⟩ := collectChecked_eq_ok_iff.mp h'
    rw [regular.mem_map_collect_iff, regular.mem_map_collect_iff]
    simp only [permuted.mem_iff]

/-- A directory with a file, a link to it, and a hidden directory with another file. -/
def aliasTree : FileTree where
  nodes :=
    [(["src"], .directory), (["src", "b.py"], .file []), (["src", "a.py"], .link ⟨"", ["b.py"]⟩),
      (["src", ".git"], .directory), (["src", ".git", "h.py"], .file [])]

theorem regular_aliasTree : aliasTree.Regular where
  distinct := by decide
  current := rfl
  within place found := by
    simp only [aliasTree, List.map_cons, List.map_nil, List.mem_cons, List.not_mem_nil,
      or_false] at found
    rcases found with rfl | rfl | rfl | rfl | rfl
    · exact ⟨[], "src", by decide⟩
    · exact ⟨["src"], "b.py", by decide⟩
    · exact ⟨["src"], "a.py", by decide⟩
    · exact ⟨["src"], ".git", by decide⟩
    · exact ⟨["src", ".git"], "h.py", by decide⟩

theorem loopless_aliasTree : aliasTree.Loopless := by
  intro place target link
  have found := (node?_isSome_iff (by rintro rfl; cases link)).mp ⟨_, link⟩
  simp only [aliasTree, List.map_cons, List.map_nil, List.mem_cons, List.not_mem_nil,
    or_false] at found
  rcases found with rfl | rfl | rfl | rfl | rfl
  all_goals cases link
  refine ⟨0, ["src", "b.py"], _, rfl, ?_⟩
  exact .passed (by decide) (fun target link => by cases link) (.here _)

/-- The directory and the file come to the link alone, which leads to the file. -/
theorem collectChecked_of_aliasTree :
    aliasTree.Regular ∧ aliasTree.Loopless ∧
    aliasTree.collectChecked [⟨"", ["src"]⟩, ⟨"", ["src", "b.py"]⟩] =
      .ok [⟨"", ["src", "a.py"]⟩] ∧
    ∀ place, place ∈ [⟨"", ["src", "a.py"]⟩].map aliasTree.resolve ↔
      ∃ path ∈ [⟨"", ["src"]⟩, ⟨"", ["src", "b.py"]⟩], ∃ file,
        aliasTree.Offers path file ∧ aliasTree.resolve file = place := by
  obtain ⟨-, returns, collected⟩ := collectChecked_of_loopless regular_aliasTree loopless_aliasTree
    [⟨"", ["src"]⟩, ⟨"", ["src", "b.py"]⟩]
  have sorted : ((aliasTree.below ["src"]).filter Collect.isCandidate).mergeSort Collect.precedes =
      [["a.py"], ["b.py"]] := by
    cbv
  have first : Collect.candidates aliasTree ⟨"", ["src"]⟩ =
      [⟨"", ["src", "a.py"]⟩, ⟨"", ["src", "b.py"]⟩] := by
    have found : aliasTree.directory? ⟨"", ["src"]⟩ = some ["src"] := by cbv
    rw [candidates_of_directory found, sorted]
    rfl
  have second : Collect.candidates aliasTree ⟨"", ["src", "b.py"]⟩ = [⟨"", ["src", "b.py"]⟩] :=
    candidates_of_other (by cbv)
  have link : aliasTree.resolve ⟨"", ["src", "a.py"]⟩ = ["src", "b.py"] := by cbv
  have file : aliasTree.resolve ⟨"", ["src", "b.py"]⟩ = ["src", "b.py"] := by cbv
  have found : aliasTree.collect [⟨"", ["src"]⟩, ⟨"", ["src", "b.py"]⟩] =
      [⟨"", ["src", "a.py"]⟩] := by
    simp [collect, first, second, Collect.unseen, link, file]
  obtain ⟨files, h⟩ := returns.mpr (by decide)
  obtain ⟨told, rfl⟩ := collectChecked_eq_ok_iff.mp h
  rw [found] at h
  exact ⟨regular_aliasTree, loopless_aliasTree, h, (collected _ h).2.1⟩

end FileTree

end SignatureLint

import SignatureLint.Proofs.FileTree.Growing
import SignatureLint.RunLog

/-!
# File trees without links

Without links names lead from a place to places below it, one name after the other, so a path name
leads to a place with the same last name.  Making the directory of a log adds directories where
nothing stood, and writing to the log touches only the file of the day, which is in that directory.
-/

namespace SignatureLint

namespace FileTree

variable {tree made : FileTree} {place : Place} {path : Pathname} {octets : List UInt8}
  {name : String}

/-! ## Names without links -/

/-- No link stands anywhere. -/
def Unlinked (tree : FileTree) : Prop :=
  ∀ place target, tree.node? place ≠ some (.link target)

/-- Names lead on from where the names before them lead to. -/
theorem Unlinked.walk_append (unlinked : tree.Unlinked) (links : Nat) (start : Place)
    (names more : List String) :
    tree.walk true links start (names ++ more) =
      tree.walk true links start names >>= fun above => tree.walk true links above more := by
  fun_induction FileTree.walk tree true links start names with
  | case1 links start => rfl
  | case2 links start name rest none =>
      rw [List.cons_append, walk_of_empty none]
      rfl
  | case3 links start rest directory ih => rw [List.cons_append, walk_up directory, ih]
  -- the name leads to no node: both walks end there, with what is left of the names or without it
  | case4 links start name rest directory down next none last =>
      obtain rfl := List.isEmpty_iff.mp last
      rw [List.cons_append, walk_to_empty directory down none, List.nil_append]
      change _ = tree.walk true links next more
      cases more with
      | nil => rw [walk, List.isEmpty_nil, if_pos rfl]
      | cons first others =>
          rw [walk_of_empty none]
          rfl
  | case5 links start name rest directory down next none filled =>
      have longer : ¬(rest ++ more).isEmpty = true := by
        rw [List.isEmpty_iff, List.append_eq_nil_iff]
        exact fun empty => filled (List.isEmpty_iff.mpr empty.1)
      rw [List.cons_append, walk_to_empty directory down none, if_neg longer]
      rfl
  | case6 links start name rest directory down next target link => exact absurd link (unlinked _ _)
  | case7 start name rest directory down next target link => exact absurd link (unlinked _ _)
  | case8 start name rest directory down next target link => exact absurd link (unlinked _ _)
  | case9 links start name rest directory down next node other here ih =>
      rw [List.cons_append, walk_to_other directory down here other, ih]
  | case10 links start name rest node other here =>
      rw [List.cons_append, walk_of_other here other]
      rfl

theorem Unlinked.eq_of_walk_singleton (unlinked : tree.Unlinked) {links : Nat} {above : Place}
    (down : name ≠ "..") (h : tree.walk true links above [name] = .ok place) :
    place = above ++ [name] := by
  rw [walk] at h
  split at h
  · cases h
  · dsimp only at h
    rw [if_neg down] at h
    split at h
    · exact (Except.ok.inj h).symm
    · exact absurd ‹_› (unlinked _ _)
    · rw [walk] at h
      exact (Except.ok.inj h).symm
  · cases h

theorem Unlinked.exists_of_locate (unlinked : tree.Unlinked) {names : List String}
    (last : path.names = names ++ [name]) (down : name ≠ "..")
    (h : tree.locate true path = .ok place) :
    ∃ above, tree.locate true { path with names := names } = .ok above ∧
      place = above ++ [name] := by
  obtain ⟨noNull, walked⟩ := locate_eq_ok_iff.mp h
  rw [last, unlinked.walk_append] at walked
  obtain ⟨above, front, walked⟩ := Outcome.exists_of_bind_eq_ok walked
  exact ⟨above, locate_eq_ok_iff.mpr ⟨hasNull_of_names last noNull, front⟩,
    unlinked.eq_of_walk_singleton down walked⟩

/-! ## Directories that are made -/

/-- Nothing is different but that there are directories where nothing stood. -/
structure Furnishes (tree made : FileTree) : Prop where
  current : made.current = tree.current
  nodes : ∀ place, made.node? place = tree.node? place ∨
    tree.node? place = none ∧ made.node? place = some .directory

theorem Furnishes.refl (tree : FileTree) : tree.Furnishes tree :=
  ⟨rfl, fun _ => .inl rfl⟩

theorem Furnishes.trans {more : FileTree} (furnishes : tree.Furnishes made)
    (furnishes' : made.Furnishes more) : tree.Furnishes more where
  current := furnishes'.current.trans furnishes.current
  nodes place := by
    rcases furnishes'.nodes place with same' | ⟨none', directory'⟩
    · rw [same']
      exact furnishes.nodes place
    · refine .inr ⟨?_, directory'⟩
      rcases furnishes.nodes place with same | ⟨-, directory⟩
      · exact same.symm.trans none'
      · rw [none'] at directory
        cases directory

theorem Furnishes.file_iff (furnishes : tree.Furnishes made) :
    made.node? place = some (.file octets) ↔ tree.node? place = some (.file octets) := by
  rcases furnishes.nodes place with same | ⟨none, directory⟩
  · rw [same]
  · rw [none, directory]
    exact iff_of_false nofun nofun

theorem Furnishes.unlinked (furnishes : tree.Furnishes made) (unlinked : tree.Unlinked) :
    made.Unlinked := by
  intro place target link
  rcases furnishes.nodes place with same | ⟨-, directory⟩
  · exact unlinked place target (same.symm.trans link)
  · rw [directory] at link
    cases link

theorem furnishes_of_makeDirectory {existing : Bool}
    (h : tree.makeDirectory existing path = .ok made) : tree.Furnishes made := by
  rw [makeDirectory] at h
  split at h
  · split at h
    · rw [← Except.ok.inj h]
      exact .refl tree
    · cases h
  · obtain ⟨place, -, empty, rfl⟩ := create_eq_ok_iff.mp h
    refine ⟨rfl, fun other => ?_⟩
    rw [node?_set (ne_nil_of_node?_none empty)]
    by_cases same : other = place
    · rw [if_pos same, same]
      exact .inr ⟨empty, rfl⟩
    · exact .inl (if_neg same)

theorem furnishes_of_makeAll {root : String} {existing : Bool} {reversed : List String}
    (h : makeAll root existing reversed tree = .ok made) : tree.Furnishes made := by
  induction reversed generalizing existing tree made with
  | nil => exact furnishes_of_makeDirectory h
  | cons name above ih =>
      rw [makeAll] at h
      split at h
      · split at h
        · obtain ⟨middle, first, last⟩ := Outcome.exists_of_bind_eq_ok h
          exact (ih first).trans (furnishes_of_makeDirectory last)
        · cases h
      · exact furnishes_of_makeDirectory h

theorem furnishes_of_openLog {log : RunLog} (h : tree.openLog log = .ok made) :
    tree.Furnishes made :=
  furnishes_of_makeAll h

/-! ## Files that are written -/

theorem exists_of_modify {change : List UInt8 → List UInt8} {written : FileTree}
    (h : tree.modify path change = .ok written) :
    ∃ place, tree.locate true path = .ok place ∧
      ∀ other ≠ place, written.node? other = tree.node? other := by
  obtain ⟨place, found, h⟩ := Outcome.exists_of_bind_eq_ok h
  refine ⟨place, found, fun other different => ?_⟩
  have kept {node : FileNode} (free : tree.node? place ≠ some .directory) :
      (tree.set place node).node? other = tree.node? other := by
    rw [node?_set, if_neg different]
    rintro rfl
    exact free rfl
  split at h
  · cases h
  · rename_i here
    rw [← Except.ok.inj h]
    exact kept (by rw [here]; exact nofun)
  · rename_i free _
    rw [← Except.ok.inj h]
    exact kept free

end FileTree

def RunLog.fileName (day : Date) : String :=
  "compose-lint-" ++ day.display ++ ".jsonl"

theorem RunLog.fileName_ne (day : Date) : fileName day ≠ ".." := by
  intro same
  have letters := congrArg String.toList same
  rw [fileName, String.toList_append, String.toList_append] at letters
  cases letters

namespace FileTree

variable {tree : FileTree}

theorem Unlinked.exists_of_logEvent (unlinked : tree.Unlinked) {log : RunLog} {clock : Clock}
    {event : RunEvent} {written : FileTree} (h : tree.logEvent log clock event = .ok written) :
    ∃ within, tree.locate true log.directory = .ok within ∧
      ∀ place ≠ within ++ [RunLog.fileName clock.today],
        written.node? place = tree.node? place := by
  obtain ⟨place, found, kept⟩ := exists_of_modify h
  have last : (log.file clock.today).names =
      log.directory.names ++ [RunLog.fileName clock.today] := rfl
  obtain ⟨within, above, rfl⟩ := unlinked.exists_of_locate last (RunLog.fileName_ne _) found
  exact ⟨within, above, kept⟩

end FileTree

end SignatureLint

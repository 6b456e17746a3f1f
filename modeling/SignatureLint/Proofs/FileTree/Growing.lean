import SignatureLint.Proofs.FileTree

/-!
# Files that grow

A path name that leads to a place where nothing stands leads there still when a file is put at the
place.  So octets can be added again and again, whether or not the file was there at first.
-/

namespace SignatureLint

namespace FileTree

variable {tree : FileTree} {place : Place} {path : Pathname} {octets : List UInt8}

/-! ## Files at empty places -/

theorem ne_nil_of_node?_none (empty : tree.node? place = none) : place ≠ [] := by
  rintro rfl
  cases empty

theorem node?_set_of_some (empty : tree.node? place = none) (node : FileNode) {other : Place}
    {found : FileNode} (here : tree.node? other = some found) :
    (tree.set place node).node? other = some found := by
  rw [node?_set (ne_nil_of_node?_none empty), if_neg, here]
  rintro rfl
  rw [empty] at here
  cases here

/-- Names that lead to an empty place lead there still when a file is put there. -/
theorem walk_set_of_empty (empty : tree.node? place = none) (octets : List UInt8)
    {followLast : Bool} {links : Nat} {start : Place} {names : List String}
    (h : tree.walk followLast links start names = .ok place) :
    (tree.set place (.file octets)).walk followLast links start names = .ok place := by
  fun_induction FileTree.walk tree followLast links start names with
  | case1 links start => rw [walk, h]
  | case2 links start name rest none => cases h
  | case3 links start rest directory ih =>
      rw [walk_up (node?_set_of_some empty _ directory), ih h]
  | case4 links start name rest directory down next none last =>
      obtain rfl : next = place := Except.ok.inj h
      obtain rfl := List.isEmpty_iff.mp last
      have here : (tree.set next (.file octets)).node? next = some (.file octets) := by
        rw [node?_set (ne_nil_of_node?_none empty), if_pos rfl]
      have passed (target : Pathname) : FileNode.file octets ≠ .link target := by rintro ⟨⟩
      rw [walk_to_other (node?_set_of_some empty _ directory) down here passed, walk]
  | case5 links start name rest directory down next none more => cases h
  | case6 links start name rest directory down next target link last =>
      rw [walk_to_last_link (node?_set_of_some empty _ directory) down
        (node?_set_of_some empty _ link) last, h]
  | case7 start name rest directory down next target link more => cases h
  | case8 start name rest directory down next target link more links first ih =>
      rw [walk_to_link_succ (node?_set_of_some empty _ directory) down
        (node?_set_of_some empty _ link) more]
      exact ih h
  | case9 links start name rest directory down next node other here ih =>
      rw [walk_to_other (node?_set_of_some empty _ directory) down (node?_set_of_some empty _ here)
        other, ih h]
  | case10 links start name rest node other here => cases h

/-! ## Adding octets -/

/-- Some octets are what a file holds, or none are, and the file is not there but can be made. -/
def Holds (tree : FileTree) (path : Pathname) (octets : List UInt8) : Prop :=
  ∃ place, tree.locate true path = .ok place ∧
    (tree.node? place = some (.file octets) ∨ tree.node? place = none ∧ octets = [])

theorem Holds.append (holds : tree.Holds path octets) (more : List UInt8) :
    ∃ longer, tree.append path more = .ok longer ∧ longer.Holds path (octets ++ more) ∧
      longer.read path = .ok (octets ++ more) := by
  obtain ⟨place, found, here⟩ := holds
  have put : tree.append path more = .ok (tree.set place (.file (octets ++ more))) := by
    rw [FileTree.append, modify, found]
    rcases here with here | ⟨here, rfl⟩ <;> simp only [bind, Except.bind, here] <;> rfl
  have below : place ≠ [] := by
    rcases here with here | ⟨here, -⟩
    · exact ne_nil_of_node?_file here
    · exact ne_nil_of_node?_none here
  have located : (tree.set place (.file (octets ++ more))).locate true path = .ok place := by
    rcases here with here | ⟨here, -⟩
    · exact ((alike_set here _).locate_eq rfl true path).trans found
    · obtain ⟨noNull, walked⟩ := locate_eq_ok_iff.mp found
      exact locate_eq_ok_iff.mpr ⟨noNull, walk_set_of_empty here _ walked⟩
  have stands : (tree.set place (.file (octets ++ more))).node? place =
      some (.file (octets ++ more)) := by
    rw [node?_set below, if_pos rfl]
  exact ⟨_, put, ⟨place, located, .inl stands⟩, read_eq_ok_iff.mpr ⟨place, located, stands⟩⟩

/-! ## Directories that are there -/

/-- What names lead to is a directory if another name leads on from there. -/
theorem exists_directory_of_walk {links : Nat} {start : Place} {names : List String} {name : String}
    (h : tree.walk true links start (names ++ [name]) = .ok place) :
    ∃ above, tree.walk true links start names = .ok above ∧
      tree.node? above = some .directory := by
  have more (rest : List String) : ¬(rest ++ [name]).isEmpty = true := by simp
  have follows (rest : List String) : ¬(rest.isEmpty && !true) = true := by simp
  -- the two walks go together until only the last name is left, and the longer one stops wherever
  -- the shorter one does
  fun_induction FileTree.walk tree true links start names with
  | case1 links start =>
      rw [List.nil_append, walk] at h
      refine ⟨start, rfl, ?_⟩
      split at h
      · cases h
      · assumption
      · cases h
  | case2 links start first rest none =>
      rw [List.cons_append, walk_of_empty none] at h
      cases h
  | case3 links start rest directory ih =>
      rw [List.cons_append, walk_up directory] at h
      exact ih h
  | case4 links start first rest directory down next none last =>
      rw [List.cons_append, walk_to_empty directory down none, if_neg (more rest)] at h
      cases h
  | case5 links start first rest directory down next none _ =>
      rw [List.cons_append, walk_to_empty directory down none, if_neg (more rest)] at h
      cases h
  | case6 links start first rest directory down next target link last =>
      exact absurd last (follows rest)
  | case7 start first rest directory down next target link _ =>
      rw [List.cons_append, walk_to_link_zero directory down link (follows _)] at h
      cases h
  | case8 start first rest directory down next target link _ links begins ih =>
      rw [List.cons_append, walk_to_link_succ directory down link (follows _),
        ← List.append_assoc] at h
      exact ih h
  | case9 links start first rest directory down next node other here ih =>
      rw [List.cons_append, walk_to_other directory down here other] at h
      exact ih h
  | case10 links start first rest node other here =>
      rw [List.cons_append, walk_of_other here other] at h
      cases h

/-- Only the end of the way depends on whether a link there is followed: names that lead to an
empty place lead there in either case. -/
theorem walk_followLast {links : Nat} {start : Place} {names : List String}
    (h : tree.walk false links start names = .ok place) (empty : tree.node? place = none) :
    tree.walk true links start names = .ok place := by
  fun_induction FileTree.walk tree false links start names with
  | case1 links start => rw [walk, h]
  | case2 links start name rest none => cases h
  | case3 links start rest directory ih => rw [walk_up directory, ih h]
  | case4 links start name rest directory down next none last =>
      rw [walk_to_empty directory down none, if_pos last, h]
  | case5 links start name rest directory down next none more => cases h
  | case6 links start name rest directory down next target link last =>
      obtain rfl : next = place := Except.ok.inj h
      rw [empty] at link
      cases link
  | case7 start name rest directory down next target link more => cases h
  | case8 start name rest directory down next target link more links begins ih =>
      rw [walk_to_link_succ directory down link (by simp)]
      exact ih h
  | case9 links start name rest directory down next node other here ih =>
      rw [walk_to_other directory down here other, ih h]
  | case10 links start name rest node other here => cases h

theorem locate_followLast (h : tree.locate false path = .ok place)
    (empty : tree.node? place = none) : tree.locate true path = .ok place := by
  obtain ⟨noNull, walked⟩ := locate_eq_ok_iff.mp h
  exact locate_eq_ok_iff.mpr ⟨noNull, walk_followLast walked empty⟩

theorem isDirectory_iff :
    tree.isDirectory path = true ↔
      ∃ place, tree.locate true path = .ok place ∧ tree.node? place = some .directory := by
  rw [isDirectory, directory?]
  cases tree.locate true path with
  | error error =>
      constructor
      · intro h
        cases h
      · rintro ⟨place, found, -⟩
        cases found
  | ok place =>
      dsimp only
      split
      · rename_i directory
        exact iff_of_true rfl ⟨place, rfl, directory⟩
      · rename_i other
        constructor
        · intro h
          cases h
        · rintro ⟨_, ⟨⟩, directory⟩
          exact absurd directory other

theorem create_eq_ok_iff {node : FileNode} {made : FileTree} :
    tree.create path node = .ok made ↔
      ∃ place, tree.locate false path = .ok place ∧ tree.node? place = none ∧
        made = tree.set place node := by
  rw [create]
  cases tree.locate false path with
  | error error =>
      constructor
      · intro h
        cases h
      · rintro ⟨place, found, -⟩
        cases found
  | ok place =>
      simp only [bind, Except.bind, Except.ok.injEq, exists_eq_left']
      split
      · rename_i empty
        exact ⟨fun h => ⟨empty, (Except.ok.inj h).symm⟩, fun h => congrArg Except.ok h.2.symm⟩
      · rename_i node here
        constructor
        · intro h
          cases h
        · rintro ⟨empty, -⟩
          cases here.symm.trans empty

theorem makeDirectory_of_isDirectory (there : tree.isDirectory path = true) :
    tree.makeDirectory true path = .ok tree := by
  rw [makeDirectory]
  cases made : tree.create path .directory with
  | error error =>
      dsimp only
      rw [there]
      rfl
  | ok made' =>
      obtain ⟨place, found, empty, -⟩ := create_eq_ok_iff.mp made
      obtain ⟨place', found', directory⟩ := isDirectory_iff.mp there
      rw [locate_followLast found empty] at found'
      rw [Except.ok.inj found', directory] at empty
      cases empty

theorem makeDirectories_of_isDirectory (there : tree.isDirectory path = true) :
    tree.makeDirectories true path = .ok tree := by
  have kept := makeDirectory_of_isDirectory there
  obtain ⟨root, names⟩ := path
  rw [makeDirectories]
  dsimp only
  cases shape : names.reverse with
  | nil =>
      obtain rfl := List.reverse_eq_nil_iff.mp shape
      exact kept
  | cons name above =>
      rw [makeAll, ← shape, List.reverse_reverse, kept]

theorem Holds.isDirectory {name : String} (holds : tree.Holds (path.descend [name]) octets) :
    tree.isDirectory path = true := by
  obtain ⟨place, found, -⟩ := holds
  obtain ⟨noNull, walked⟩ := locate_eq_ok_iff.mp found
  obtain ⟨above, walked, directory⟩ := exists_directory_of_walk walked
  exact isDirectory_iff.mpr
    ⟨above, locate_eq_ok_iff.mpr ⟨hasNull_of_names rfl noNull, walked⟩, directory⟩

end FileTree

end SignatureLint

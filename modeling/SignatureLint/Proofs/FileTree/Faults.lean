import SignatureLint.Proofs.FileTree

/-!
# Why a file cannot be read

Names lead nowhere because something is missing, is no directory, or is a link too many.  Apart from
that a path name cannot be read if it holds a null character, or if it is that of a directory.
-/

namespace SignatureLint

namespace FileTree

variable {tree : FileTree} {followLast : Bool} {links : Nat} {place : Place} {names : List String}
  {path : Pathname}

/-- What keeps names from leading anywhere. -/
inductive Blocks : IoFault → Prop where
  | noEntry : Blocks .noEntry
  | notDirectory : Blocks .notDirectory
  | loop : Blocks .loop

theorem blocks_of_walk {fault : IoFault}
    (h : tree.walk followLast links place names = .error fault) : Blocks fault := by
  fun_induction FileTree.walk tree followLast links place names with
  | case1 links place => cases h
  | case2 links place name rest none =>
      cases h
      exact .noEntry
  | case3 links place rest directory ih => exact ih h
  | case4 links place name rest directory down next none last => cases h
  | case5 links place name rest directory down next none more =>
      cases h
      exact .noEntry
  | case6 links place name rest directory down next target link last => cases h
  | case7 place name rest directory down next target link more =>
      cases h
      exact .loop
  | case8 place name rest directory down next target link more count start ih => exact ih h
  | case9 links place name rest directory down next node other here ih => exact ih h
  | case10 links place name rest node other here =>
      cases h
      exact .notDirectory

theorem fault_of_locate {error : IoError} (h : tree.locate followLast path = .error error) :
    (path.hasNull = true ∧ error.fault = .nullCharacter) ∨
      (path.hasNull = false ∧ Blocks error.fault) := by
  rw [locate] at h
  cases null : path.hasNull with
  | true =>
      rw [null, if_pos rfl] at h
      cases h
      exact .inl ⟨rfl, rfl⟩
  | false =>
      rw [null, if_neg Bool.false_ne_true] at h
      cases walked : tree.walk followLast maxLinks (tree.origin path) path.names with
      | ok place =>
          rw [walked] at h
          cases h
      | error fault =>
          rw [walked] at h
          cases h
          exact .inr ⟨rfl, blocks_of_walk walked⟩

theorem directory?_eq_some_iff :
    tree.directory? path = some place ↔
      tree.locate true path = .ok place ∧ tree.node? place = some .directory := by
  rw [directory?]
  cases tree.locate true path with
  | error error => exact iff_of_false (by rintro ⟨⟩) (by rintro ⟨⟨⟩, -⟩)
  | ok reached =>
      dsimp only
      rw [Except.ok.injEq]
      split
      · rename_i here
        rw [Option.some.injEq]
        exact ⟨fun same => ⟨same, same ▸ here⟩, fun h => h.1⟩
      · rename_i other
        refine iff_of_false (by rintro ⟨⟩) ?_
        rintro ⟨rfl, here⟩
        exact other here

theorem read_eq_isDirectory_iff :
    (∃ error, tree.read path = .error error ∧ error.fault = .isDirectory) ↔
      tree.isDirectory path = true := by
  rw [isDirectory, Option.isSome_iff_exists]
  simp only [directory?_eq_some_iff]
  rw [read]
  cases found : tree.locate true path with
  | error error =>
      refine iff_of_false ?_ (by rintro ⟨_, ⟨⟩, -⟩)
      rintro ⟨_, ⟨⟩, fault⟩
      rcases fault_of_locate found with ⟨-, null⟩ | ⟨-, blocks⟩
      · rw [fault] at null
        cases null
      · rw [fault] at blocks
        cases blocks
  | ok place =>
      simp only [bind, Except.bind, Except.ok.injEq, exists_eq_left']
      cases tree.node? place with
      | none => exact iff_of_false (by rintro ⟨_, ⟨⟩, ⟨⟩⟩) (by rintro ⟨⟩)
      | some node =>
          cases node with
          | directory => exact iff_of_true ⟨_, rfl, rfl⟩ rfl
          | file octets => exact iff_of_false (by rintro ⟨_, ⟨⟩, _⟩) (by rintro ⟨⟩)
          | link target => exact iff_of_false (by rintro ⟨_, ⟨⟩, ⟨⟩⟩) (by rintro ⟨⟩)

theorem read_eq_nullCharacter_iff :
    (∃ error, tree.read path = .error error ∧ error.fault = .nullCharacter) ↔
      path.hasNull = true := by
  rw [read]
  cases found : tree.locate true path with
  | error error =>
      rcases fault_of_locate found with ⟨null, fault⟩ | ⟨clean, blocks⟩
      · exact iff_of_true ⟨error, rfl, fault⟩ null
      · refine iff_of_false ?_ (Bool.eq_false_iff.mp clean)
        rintro ⟨_, ⟨⟩, fault⟩
        rw [fault] at blocks
        cases blocks
  | ok place =>
      have clean := (locate_eq_ok_iff.mp found).1
      refine iff_of_false ?_ (Bool.eq_false_iff.mp clean)
      simp only [bind, Except.bind]
      cases tree.node? place with
      | none => rintro ⟨_, ⟨⟩, ⟨⟩⟩
      | some node => cases node <;> rintro ⟨_, ⟨⟩, ⟨⟩⟩

/-- What is made of a file escapes exactly if its path name holds a null character or what is made
of its octets escapes, where reading fails with an escape for a null character only. -/
theorem exists_read_bind_error_iff {α ε : Type} {failure : IoError → ε}
    {next : List UInt8 → Except ε α} {escapes : ε → Prop}
    (only : ∀ error, escapes (failure error) ↔ error.fault = .nullCharacter) :
    (∃ error, (tree.read path).mapError failure >>= next = .error error ∧ escapes error) ↔
      path.hasNull = true ∨
        ∃ octets, tree.read path = .ok octets ∧
          ∃ error, next octets = .error error ∧ escapes error := by
  rw [Outcome.exists_bind_error_iff, Outcome.exists_mapError_error_iff,
    ← read_eq_nullCharacter_iff]
  refine or_congr (exists_congr fun error => and_congr_right fun _ => only error)
    (exists_congr fun octets => ?_)
  rw [Outcome.mapError_eq_ok_iff]

/-! ## Trees of one file -/

/-- A tree with a file of some name and nothing else. -/
def single (name : String) (octets : List UInt8) : FileTree where
  nodes := [([name], .file octets)]

theorem node?_single (name : String) (octets : List UInt8) :
    (single name octets).node? [name] = some (.file octets) := by
  rw [node?, if_neg (by simp)]
  exact List.lookup_cons_self

section

variable {name : String} (octets : List UInt8) (clean : (⟨"", [name]⟩ : Pathname).hasNull = false)
  (down : name ≠ "..")

include clean down

theorem locate_single : (single name octets).locate true ⟨"", [name]⟩ = .ok [name] := by
  have here : (single name octets).node? ([] ++ [name]) = some (.file octets) :=
    node?_single name octets
  refine locate_eq_ok_iff.mpr ⟨clean, (walk_to_other rfl down here nofun).trans ?_⟩
  rw [walk]
  rfl

theorem read_single : (single name octets).read ⟨"", [name]⟩ = .ok octets :=
  read_eq_ok_iff.mpr ⟨_, locate_single octets clean down, node?_single name octets⟩

theorem isFile_single : (single name octets).isFile ⟨"", [name]⟩ = true := by
  rw [isFile, find?, locate_single octets clean down]
  dsimp only
  rw [node?_single]

end

end FileTree

end SignatureLint

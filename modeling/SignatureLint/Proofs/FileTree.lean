import SignatureLint.Collect
import SignatureLint.Proofs.Outcome

/-!
# Reading what was written

A file that is there can be written.  The path name leads to the same place afterwards, because
only what a file holds has changed, and what is read there is what was written.
-/

namespace SignatureLint

namespace FileTree

variable {tree tree' : FileTree} {place : Place} {path : Pathname} {octets : List UInt8}

theorem lookup_filter_ne {place other : Place} (different : other ≠ place)
    (nodes : List (Place × FileNode)) :
    (nodes.filter (·.1 ≠ place)).lookup other = nodes.lookup other := by
  induction nodes with
  | nil => rfl
  | cons first rest ih =>
      obtain ⟨here, node⟩ := first
      by_cases same : here = place
      · have unlike : (other == here) = false := by simpa [same] using different
        rw [List.filter_cons_of_neg (by simpa using same), ih, List.lookup_cons, unlike]
      · rw [List.filter_cons_of_pos (by simpa using same), List.lookup_cons, List.lookup_cons, ih]

theorem node?_set (below : place ≠ []) (node : FileNode) (other : Place) :
    (tree.set place node).node? other =
      if other = place then some node else tree.node? other := by
  unfold node? set
  by_cases same : other = place
  · have filled : place.isEmpty = false := by simpa using below
    rw [same, filled, if_pos rfl, List.lookup_cons, beq_self_eq_true]
    rfl
  · have unlike : (other == place) = false := by simpa using same
    rw [if_neg same, List.lookup_cons, unlike, lookup_filter_ne same]

/-! ## Steps of a walk -/

section

variable {followLast : Bool} {links : Nat} {start : Place} {name : String} {rest : List String}
  {node : FileNode}

theorem walk_of_empty (empty : tree.node? start = none) :
    tree.walk followLast links start (name :: rest) = .error .noEntry := by
  rw [walk, empty]

theorem walk_of_other (here : tree.node? start = some node) (other : node ≠ .directory) :
    tree.walk followLast links start (name :: rest) = .error .notDirectory := by
  rw [walk, here]
  cases node with
  | directory => exact absurd rfl other
  | _ => rfl

theorem walk_up (directory : tree.node? start = some .directory) :
    tree.walk followLast links start (".." :: rest) =
      tree.walk followLast links start.dropLast rest := by
  rw [walk, directory]
  exact if_pos rfl

variable (directory : tree.node? start = some .directory) (down : name ≠ "..")

include directory down

theorem walk_to_empty (empty : tree.node? (start ++ [name]) = none) :
    tree.walk followLast links start (name :: rest) =
      if rest.isEmpty then .ok (start ++ [name]) else .error .noEntry := by
  rw [walk, directory]
  dsimp only
  rw [if_neg down, empty]

section

variable {target : Pathname} (link : tree.node? (start ++ [name]) = some (.link target))

include link

theorem walk_to_last_link (last : (rest.isEmpty && !followLast) = true) :
    tree.walk followLast links start (name :: rest) = .ok (start ++ [name]) := by
  rw [walk, directory]
  dsimp only
  rw [if_neg down, link]
  dsimp only
  rw [if_pos last]

variable (more : ¬(rest.isEmpty && !followLast) = true)

include more

theorem walk_to_link_zero :
    tree.walk followLast 0 start (name :: rest) = .error .loop := by
  rw [walk, directory]
  dsimp only
  rw [if_neg down, link]
  dsimp only
  rw [if_neg more]

theorem walk_to_link_succ :
    tree.walk followLast (links + 1) start (name :: rest) =
      tree.walk followLast links (if target.root.isEmpty then start else [])
        (target.names ++ rest) := by
  rw [walk, directory]
  dsimp only
  rw [if_neg down, link]
  dsimp only
  rw [if_neg more]

end

theorem walk_to_other (here : tree.node? (start ++ [name]) = some node)
    (other : ∀ target, node ≠ .link target) :
    tree.walk followLast links start (name :: rest) =
      tree.walk followLast links (start ++ [name]) rest := by
  rw [walk, directory]
  dsimp only
  rw [if_neg down, here]
  cases node with
  | link target => exact absurd rfl (other target)
  | _ => rfl

end

/-! ## Trees that differ in what files hold -/

/-- Two trees that differ only in what files hold. -/
def Alike (tree tree' : FileTree) : Prop :=
  ∀ place, tree'.node? place = tree.node? place ∨
    ∃ octets octets', tree.node? place = some (.file octets) ∧
      tree'.node? place = some (.file octets')

theorem Alike.node?_eq (alike : Alike tree tree') {place : Place} {found : Option FileNode}
    (h : tree.node? place = found) (other : ∀ octets, found ≠ some (.file octets)) :
    tree'.node? place = found := by
  rcases alike place with same | ⟨octets, -, here, -⟩
  · exact same.trans h
  · exact absurd (h.symm.trans here) (other octets)

/-- Names lead to the same places in trees that differ only in what files hold. -/
theorem Alike.walk_eq (alike : Alike tree tree') (followLast : Bool) (links : Nat) (place : Place)
    (names : List String) :
    tree'.walk followLast links place names = tree.walk followLast links place names := by
  fun_induction FileTree.walk tree followLast links place names with
  | case1 links place => rw [walk]
  | case2 links place name rest none => rw [walk_of_empty (alike.node?_eq none nofun)]
  | case3 links place rest directory ih =>
      rw [walk_up (alike.node?_eq directory nofun), ih]
  | case4 links place name rest directory down next none last =>
      rw [walk_to_empty (alike.node?_eq directory nofun) down (alike.node?_eq none nofun),
        if_pos last]
  | case5 links place name rest directory down next none more =>
      rw [walk_to_empty (alike.node?_eq directory nofun) down (alike.node?_eq none nofun),
        if_neg more]
  | case6 links place name rest directory down next target link last =>
      rw [walk_to_last_link (alike.node?_eq directory nofun) down (alike.node?_eq link nofun) last]
  | case7 place name rest directory down next target link more =>
      rw [walk_to_link_zero (alike.node?_eq directory nofun) down (alike.node?_eq link nofun) more]
  | case8 place name rest directory down next target link more links start ih =>
      rw [walk_to_link_succ (alike.node?_eq directory nofun) down (alike.node?_eq link nofun) more]
      exact ih
  -- the nodes may differ where both are files, and a walk asks of neither what is in it
  | case9 links place name rest directory down next node other here ih =>
      have directory' := alike.node?_eq directory nofun
      rcases alike next with same | ⟨octets, octets', -, there⟩
      · rw [walk_to_other directory' down (same.trans here) other, ih]
      · rw [walk_to_other directory' down there nofun, ih]
  | case10 links place name rest node other here =>
      rcases alike place with same | ⟨octets, octets', -, there⟩
      · rw [walk_of_other (same.trans here) other]
      · rw [walk_of_other there nofun]

theorem resolveFrom_link {pending : List Place} {name : String} {rest : List String}
    {target : Pathname} (down : name ≠ "..")
    (link : tree.node? (place ++ [name]) = some (.link target)) :
    tree.resolveFrom pending place (name :: rest) =
      if pending.contains (place ++ [name]) then .error (place ++ [name] ++ rest)
      else
        match tree.resolveFrom ((place ++ [name]) :: pending)
            (if target.root.isEmpty then place else []) target.names with
        | .ok reached => tree.resolveFrom pending reached rest
        | .error stuck => .error (stuck ++ rest) := by
  rw [resolveFrom, if_neg down]
  dsimp only
  split
  · rename_i target' here
    rw [link] at here
    cases here
    rfl
  · rename_i other
    exact absurd link (other target)

theorem resolveFrom_other {pending : List Place} {name : String} {rest : List String}
    (down : name ≠ "..") (other : ∀ target, tree.node? (place ++ [name]) ≠ some (.link target)) :
    tree.resolveFrom pending place (name :: rest) =
      tree.resolveFrom pending (place ++ [name]) rest := by
  rw [resolveFrom, if_neg down]
  dsimp only
  split
  · rename_i target here
    exact absurd here (other target)
  · rfl

/-- Names lead to the same places in trees that differ only in what files hold, even where nothing
stands. -/
theorem Alike.resolveFrom_eq (alike : Alike tree tree') (pending : List Place) (place : Place)
    (names : List String) :
    tree'.resolveFrom pending place names = tree.resolveFrom pending place names := by
  have links (place : Place) (target : Pathname) :
      tree'.node? place = some (.link target) ↔ tree.node? place = some (.link target) := by
    rcases alike place with same | ⟨octets, octets', here, there⟩
    · rw [same]
    · rw [here, there]
      exact iff_of_false nofun nofun
  fun_induction FileTree.resolveFrom tree pending place names with
  | case1 pending place => rw [resolveFrom]
  | case2 pending place rest ih => rw [resolveFrom, if_pos rfl, ih]
  | case3 pending place name rest down next target link again =>
      rw [resolveFrom_link down ((links _ _).mpr link), if_pos again]
  | case4 pending place name rest down next target link fresh start reached found inner outer =>
      have follow := inner.trans found
      rw [resolveFrom_link down ((links _ _).mpr link), if_neg fresh]
      simp only [start, next, dite_eq_ite] at follow
      rw [follow]
      exact outer
  | case5 pending place name rest down next target link fresh start stuck found inner =>
      have follow := inner.trans found
      rw [resolveFrom_link down ((links _ _).mpr link), if_neg fresh]
      simp only [start, next, dite_eq_ite] at follow
      rw [follow]
  | case6 pending place name rest down next other ih =>
      rw [resolveFrom_other down fun target => mt (links _ _).mp (other target), ih]

theorem Alike.locate_eq (alike : Alike tree tree') (current : tree'.current = tree.current)
    (followLast : Bool) (path : Pathname) :
    tree'.locate followLast path = tree.locate followLast path := by
  have origin : tree'.origin path = tree.origin path := by rw [origin, origin, current]
  rw [locate, locate, origin, alike.walk_eq]

/-! ## Reading and writing -/

theorem locate_eq_ok_iff {followLast : Bool} :
    tree.locate followLast path = .ok place ↔
      path.hasNull = false ∧
        tree.walk followLast maxLinks (tree.origin path) path.names = .ok place := by
  rw [locate]
  cases path.hasNull with
  | true =>
      constructor
      · intro h
        cases h
      · rintro ⟨⟨⟩, -⟩
  | false =>
      rw [if_neg Bool.false_ne_true, and_iff_right rfl]
      exact Outcome.mapError_eq_ok_iff

theorem hasNull_of_names {longer : Pathname} {name : String}
    (last : longer.names = path.names ++ [name]) (noNull : longer.hasNull = false) :
    path.hasNull = false := by
  rw [Pathname.hasNull, last, List.any_append, Bool.or_eq_false_iff] at noNull
  exact noNull.1

theorem read_eq_ok_iff :
    tree.read path = .ok octets ↔
      ∃ place, tree.locate true path = .ok place ∧ tree.node? place = some (.file octets) := by
  constructor
  · intro h
    obtain ⟨place, found, h⟩ := Outcome.exists_of_bind_eq_ok h
    refine ⟨place, found, ?_⟩
    split at h
    · rename_i here
      cases h
      exact here
    · cases h
    · cases h
  · rintro ⟨place, found, here⟩
    rw [read, found]
    simp only [bind, Except.bind, here]
    rfl

theorem ne_nil_of_node?_file (here : tree.node? place = some (.file octets)) : place ≠ [] := by
  rintro rfl
  cases here

theorem write_eq_ok_iff {written : FileTree} :
    tree.write path octets = .ok written ↔
      ∃ place, tree.locate true path = .ok place ∧ tree.node? place ≠ some .directory ∧
        written = tree.set place (.file octets) := by
  rw [write, modify]
  cases tree.locate true path with
  | error error => exact iff_of_false nofun nofun
  | ok place =>
      simp only [bind, Except.bind, Except.ok.injEq, exists_eq_left']
      split
      · rename_i directory
        exact iff_of_false nofun fun h => h.1 directory
      · rename_i file
        rw [file]
        exact ⟨fun h => ⟨nofun, (Except.ok.inj h).symm⟩, fun h => congrArg Except.ok h.2.symm⟩
      · rename_i other _
        exact ⟨fun h => ⟨other, (Except.ok.inj h).symm⟩, fun h => congrArg Except.ok h.2.symm⟩

theorem alike_set (here : tree.node? place = some (.file octets)) (octets' : List UInt8) :
    Alike tree (tree.set place (.file octets')) := by
  intro other
  rw [node?_set (ne_nil_of_node?_file here)]
  by_cases same : other = place
  · rw [if_pos same, same]
    exact .inr ⟨octets, octets', here, rfl⟩
  · exact .inl (if_neg same)

theorem exists_write (h : tree.read path = .ok octets) (octets' : List UInt8) :
    ∃ written, tree.write path octets' = .ok written ∧ written.read path = .ok octets' := by
  obtain ⟨place, found, here⟩ := read_eq_ok_iff.mp h
  refine ⟨tree.set place (.file octets'), write_eq_ok_iff.mpr ⟨place, found, ?_, rfl⟩, ?_⟩
  · rw [here]
    exact nofun
  · refine read_eq_ok_iff.mpr ⟨place, ((alike_set here _).locate_eq rfl true path).trans found, ?_⟩
    rw [node?_set (ne_nil_of_node?_file here), if_pos rfl]

theorem read_congr (located : tree'.locate true path = tree.locate true path)
    (same : ∀ place, tree.locate true path = .ok place → tree'.node? place = tree.node? place) :
    tree'.read path = tree.read path := by
  rw [read, read, located]
  cases found : tree.locate true path with
  | error error => rfl
  | ok place =>
      simp only [bind, Except.bind]
      rw [same place found]

theorem collectChecked_of_read (h : tree.read path = .ok octets) :
    tree.collectChecked [path] = .ok [path] := by
  obtain ⟨place, found, here⟩ := read_eq_ok_iff.mp h
  have file : tree.directory? path = none := by
    rw [directory?, found]
    dsimp only
    rw [here]
  have candidates : [path].flatMap (Collect.candidates tree) = [path] := by
    rw [List.flatMap_singleton, Collect.candidates, file]
  have there : tree.contains path = true := by
    rw [contains, find?, found]
    dsimp only
    rw [here]
    rfl
  have told : [path].findSome? tree.placeError? = none := by
    rw [List.findSome?_singleton, placeError?, if_pos there]
  rw [collectChecked, collect, candidates, told]
  rfl

end FileTree

end SignatureLint

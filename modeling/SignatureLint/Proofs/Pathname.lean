import SignatureLint.Pathname

/-!
# Reading path names back

The text of a path name that was read is read as the same path name, although the text that it was
read from may have said things that mean nothing.
-/

namespace SignatureLint

namespace Pathname

theorem segments_eq_splitOn (text : List Char) :
    (segments text).1 :: (segments text).2 = text.splitOn '/' := by
  induction text with
  | nil => rfl
  | cons c rest ih =>
      rw [List.splitOn_cons_eq_if_modifyHead, segments, ← ih]
      dsimp only
      split <;> rfl

/-- Names that mean something. -/
def isNamed (name : String) : Bool :=
  name != "" && name != "."

/-- The root that some slashes in front stand for. -/
def rootOf (slashes : Nat) : String :=
  if slashes = 0 then "" else if slashes = 2 then "//" else "/"

/-- The names in a text between slashes that mean something. -/
def namesOf (text : List Char) : List String :=
  ((text.splitOn '/').map String.ofList).filter isNamed

theorem ofString_eq (text : String) :
    ofString text =
      ⟨rootOf (text.toList.takeWhile (· == '/')).length, namesOf text.toList⟩ := by
  rw [namesOf, ← segments_eq_splitOn]
  rfl

theorem not_mem_of_mem_splitOn {text part : List Char} (h : part ∈ text.splitOn '/') :
    '/' ∉ part := by
  induction text generalizing part with
  | nil =>
      rw [List.splitOn_nil, List.mem_singleton] at h
      rw [h]
      exact List.not_mem_nil
  | cons c rest ih =>
      rw [List.splitOn_cons_eq_if_modifyHead] at h
      split at h
      · rcases List.mem_cons.mp h with rfl | h
        · exact List.not_mem_nil
        · exact ih h
      · rename_i plain
        obtain ⟨first, later, shape⟩ := List.exists_cons_of_ne_nil (List.splitOn_ne_nil '/' rest)
        rw [shape] at h ih
        rcases List.mem_cons.mp h with rfl | h
        · rw [List.mem_cons, not_or]
          exact ⟨fun same => plain (by rw [← same]; rfl), ih List.mem_cons_self⟩
        · exact ih (List.mem_cons_of_mem first h)

/-- A path name as it is read. -/
structure Proper (path : Pathname) : Prop where
  root : ∃ slashes, path.root = rootOf slashes ∧ path.root.toList = List.replicate slashes '/'
  named : ∀ name ∈ path.names, isNamed name = true
  plain : ∀ name ∈ path.names, '/' ∉ name.toList

theorem proper_ofString (text : String) : (ofString text).Proper := by
  rw [ofString_eq]
  refine ⟨?_, fun name found => (List.mem_filter.mp found).2, fun name found => ?_⟩
  · dsimp only
    unfold rootOf
    split
    · exact ⟨0, rfl, rfl⟩
    · split
      · exact ⟨2, rfl, rfl⟩
      · exact ⟨1, rfl, rfl⟩
  · obtain ⟨part, here, rfl⟩ := List.mem_map.mp (List.mem_filter.mp found).1
    rw [String.toList_ofList]
    exact not_mem_of_mem_splitOn here

variable {names : List String}

theorem namesOf_intercalate (named : ∀ name ∈ names, isNamed name = true)
    (plain : ∀ name ∈ names, '/' ∉ name.toList) :
    namesOf (['/'].intercalate (names.map String.toList)) = names := by
  cases names with
  | nil => decide
  | cons first rest =>
      have parts : ∀ part ∈ (first :: rest).map String.toList, '/' ∉ part := by
        intro part found
        obtain ⟨name, here, rfl⟩ := List.mem_map.mp found
        exact plain name here
      have same : (String.ofList ∘ String.toList) = id := funext fun _ => String.ofList_toList
      rw [namesOf, List.splitOn_intercalate '/' parts (by simp), List.map_map, same, List.map_id,
        List.filter_eq_self.mpr named]

theorem takeWhile_intercalate (named : ∀ name ∈ names, isNamed name = true)
    (plain : ∀ name ∈ names, '/' ∉ name.toList) :
    (['/'].intercalate (names.map String.toList)).takeWhile (· == '/') = [] := by
  cases names with
  | nil => rfl
  | cons first rest =>
      have nonempty : first.toList ≠ [] := by
        intro empty
        have here := named first List.mem_cons_self
        rw [String.toList_eq_nil_iff.mp empty] at here
        cases here
      obtain ⟨c, more, shape⟩ := List.exists_cons_of_ne_nil nonempty
      have other : (c == '/') = false := by
        rw [beq_eq_false_iff_ne]
        rintro rfl
        exact plain first List.mem_cons_self (shape ▸ List.mem_cons_self)
      rw [List.map_cons, shape]
      cases rest with
      | nil => simp [List.intercalate, other]
      | cons second rest =>
          rw [List.map_cons, List.intercalate_cons_cons, List.cons_append, List.cons_append,
            List.takeWhile_cons_of_neg (by rw [other]; decide)]

theorem namesOf_replicate (slashes : Nat) (text : List Char) :
    namesOf (List.replicate slashes '/' ++ text) = namesOf text := by
  induction slashes with
  | zero => rfl
  | succ slashes ih =>
      rw [List.replicate_succ, List.cons_append, namesOf, List.splitOn_cons_eq_if_modifyHead,
        if_pos (by rfl), List.map_cons, List.filter_cons_of_neg (by decide)]
      exact ih

theorem Proper.ofString_display {path : Pathname} (proper : path.Proper) :
    ofString path.display = path := by
  obtain ⟨root, names⟩ := path
  obtain ⟨slashes, root_eq, slashes_eq⟩ := proper.root
  dsimp only at root_eq slashes_eq
  by_cases empty : (root.isEmpty && names.isEmpty) = true
  · rw [Bool.and_eq_true, String.isEmpty_iff, List.isEmpty_iff] at empty
    rw [empty.1, empty.2]
    decide
  · have text : (display ⟨root, names⟩).toList =
        List.replicate slashes '/' ++ ['/'].intercalate (names.map String.toList) := by
      rw [display, if_neg empty, String.toList_append, String.toList_intercalate, slashes_eq]
      rfl
    rw [ofString_eq, text, namesOf_replicate, namesOf_intercalate proper.named proper.plain,
      List.takeWhile_append_of_pos (by simp), takeWhile_intercalate proper.named proper.plain,
      List.append_nil, List.length_replicate, root_eq]

theorem ofString_display (text : String) : ofString (ofString text).display = ofString text :=
  (proper_ofString text).ofString_display

theorem exists_splitOn_of_suffix {ending text : List Char} (plain : '/' ∉ ending)
    (h : ending <:+ text) : ∃ front last, text.splitOn '/' = front ++ [last] ∧ ending <:+ last := by
  induction text with
  | nil => exact ⟨[], [], rfl, h⟩
  | cons c rest ih =>
      rcases List.suffix_cons_iff.mp h with rfl | h
      · have alone := List.splitOn_intercalate '/' (List.forall_mem_singleton.mpr plain)
          (List.cons_ne_nil _ _)
        rw [List.intercalate_singleton] at alone
        exact ⟨[], c :: rest, alone, List.suffix_rfl⟩
      · obtain ⟨front, last, parts, ends⟩ := ih h
        rw [List.splitOn_cons_eq_if_modifyHead, parts]
        split
        · exact ⟨[] :: front, last, rfl, ends⟩
        · cases front with
          | nil => exact ⟨[], c :: last, rfl, ends.trans (List.suffix_cons c last)⟩
          | cons first front => exact ⟨(c :: first) :: front, last, rfl, ends⟩

theorem exists_names_of_suffix {ending : List Char} {text : String} (plain : '/' ∉ ending)
    (long : 1 < ending.length) (h : ending <:+ text.toList) :
    ∃ front last, (ofString text).names = front ++ [last] ∧ ending <:+ last.toList := by
  obtain ⟨front, last, parts, ends⟩ := exists_splitOn_of_suffix plain h
  have longer := Nat.lt_of_lt_of_le long ends.length_le
  have named : isNamed (String.ofList last) = true := by
    rw [isNamed, Bool.and_eq_true, bne_iff_ne, bne_iff_ne]
    constructor <;> intro same <;> have letters := congrArg String.toList same <;>
      rw [String.toList_ofList] at letters <;> rw [letters] at longer <;> revert longer <;> decide
  refine ⟨(front.map String.ofList).filter isNamed, String.ofList last, ?_, ?_⟩
  · rw [ofString_eq, namesOf, parts, List.map_append, List.filter_append, List.map_singleton,
      List.filter_cons_of_pos named]
    rfl
  · rw [String.toList_ofList]
    exact ends

end Pathname

end SignatureLint

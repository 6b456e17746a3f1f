/-!
# Sets of names

A finite set of names is the list of its members in increasing order.  Two sets
with the same members are equal, and a set is shown by listing it.
-/

namespace SignatureLint

structure NameSet where
  /-- The members in increasing order. -/
  toList : List String
  sorted : toList.Pairwise (· < ·)
  deriving DecidableEq, Repr

namespace NameSet

/-- Put a name at its place in an increasing list, unless it is there already. -/
def place (name : String) : List String → List String
  | [] => [name]
  | first :: rest =>
      if name < first then name :: first :: rest
      else if name = first then first :: rest
      else first :: place name rest

theorem mem_place {name x : String} {names : List String} :
    x ∈ place name names ↔ x = name ∨ x ∈ names := by
  induction names with
  | nil => simp [place]
  | cons first rest ih =>
      unfold place
      split
      · simp
      · split
        · simp_all
        · simp only [List.mem_cons, ih]
          constructor <;> intro h <;> rcases h with h | h | h <;> simp [h]

/-- Placing a name keeps a list increasing. -/
theorem sorted_place {name : String} {names : List String}
    (h : names.Pairwise (· < ·)) : (place name names).Pairwise (· < ·) := by
  induction names with
  | nil => simp [place]
  | cons first rest ih =>
      have rest_sorted := List.pairwise_cons.mp h
      unfold place
      split
      · rename_i below
        refine List.pairwise_cons.mpr ⟨?_, h⟩
        intro x member
        rcases List.mem_cons.mp member with rfl | member
        · exact below
        · exact String.lt_trans below (rest_sorted.1 x member)
      · split
        · exact h
        · rename_i notBelow different
          refine List.pairwise_cons.mpr ⟨?_, ih rest_sorted.2⟩
          intro x member
          rcases mem_place.mp member with rfl | member
          · rcases Classical.em (first < x) with above | notAbove
            · exact above
            · exact absurd
                (String.le_antisymm (String.not_lt.mp notAbove) (String.not_lt.mp notBelow))
                different
          · exact rest_sorted.1 x member

def empty : NameSet := ⟨[], List.Pairwise.nil⟩

instance : EmptyCollection NameSet := ⟨empty⟩

instance : Inhabited NameSet := ⟨empty⟩

/-- A set with one more member. -/
def insert (names : NameSet) (name : String) : NameSet :=
  ⟨place name names.toList, sorted_place names.sorted⟩

def ofList (names : List String) : NameSet :=
  names.foldl insert empty

/-- The members of either set. -/
def union (left right : NameSet) : NameSet :=
  right.toList.foldl insert left

instance : Union NameSet := ⟨union⟩

def contains (names : NameSet) (name : String) : Bool :=
  names.toList.contains name

instance : Membership String NameSet := ⟨fun names name => name ∈ names.toList⟩

theorem mem_def {names : NameSet} {name : String} : name ∈ names ↔ name ∈ names.toList :=
  Iff.rfl

instance (name : String) (names : NameSet) : Decidable (name ∈ names) :=
  inferInstanceAs (Decidable (name ∈ names.toList))

/-- Whether two sets have a common member. -/
def meets (left right : NameSet) : Bool :=
  left.toList.any right.contains

/-! ## Members -/

@[simp] theorem contains_iff {names : NameSet} {name : String} :
    names.contains name = true ↔ name ∈ names := by
  simp [contains, mem_def]

@[simp] theorem not_mem_empty {name : String} : name ∉ (∅ : NameSet) := by
  simp [mem_def, EmptyCollection.emptyCollection, empty]

@[simp] theorem mem_insert {names : NameSet} {name x : String} :
    x ∈ names.insert name ↔ x = name ∨ x ∈ names :=
  mem_place

theorem mem_foldl_insert {names : List String} {start : NameSet} {x : String} :
    x ∈ names.foldl insert start ↔ x ∈ start ∨ x ∈ names := by
  induction names generalizing start with
  | nil => simp
  | cons first rest ih =>
      simp only [List.foldl_cons, ih, mem_insert, List.mem_cons, or_assoc]
      exact or_left_comm

@[simp] theorem mem_ofList {names : List String} {x : String} :
    x ∈ ofList names ↔ x ∈ names := by
  unfold ofList
  rw [mem_foldl_insert]
  constructor
  · intro h
    rcases h with h | h
    · exact absurd h not_mem_empty
    · exact h
  · exact Or.inr

@[simp] theorem mem_union {left right : NameSet} {x : String} :
    x ∈ left ∪ right ↔ x ∈ left ∨ x ∈ right :=
  mem_foldl_insert

@[simp] theorem meets_iff {left right : NameSet} :
    left.meets right = true ↔ ∃ x, x ∈ left ∧ x ∈ right := by
  simp [meets, mem_def]

end NameSet

end SignatureLint

/-!
# Insertions

The same thing is inserted at several places of a list.  Doing so one place after
the other, from the last place to the first one, needs no places to be moved.
-/

namespace SignatureLint.Insertion

variable {α : Type}

/-- A list with something inserted at some places, which are counted from an index on.  The end of
the list is a place too. -/
def insertFrom (added : List α) (places : List Nat) (index : Nat) : List α → List α
  | [] => if index ∈ places then added else []
  | a :: rest =>
      (if index ∈ places then added else []) ++ a :: insertFrom added places (index + 1) rest

def insertAll (added : List α) (places : List Nat) (list : List α) : List α :=
  insertFrom added places 0 list

def insertOne (added list : List α) (place : Nat) : List α :=
  list.take place ++ added ++ list.drop place

theorem insertFrom_congr (added : List α) {places places' : List Nat}
    (same : ∀ place, place ∈ places ↔ place ∈ places') (index : Nat) (list : List α) :
    insertFrom added places index list = insertFrom added places' index list := by
  induction list generalizing index with
  | nil => simp only [insertFrom, same]
  | cons a rest ih => simp only [insertFrom, same, ih]

theorem insertAll_perm (added : List α) {places places' : List Nat} (perm : places.Perm places')
    (list : List α) : insertAll added places list = insertAll added places' list :=
  insertFrom_congr added (fun _ => perm.mem_iff) 0 list

theorem insertFrom_of_lt (added : List α) {places : List Nat} {index : Nat}
    (passed : ∀ place ∈ places, place < index) (list : List α) :
    insertFrom added places index list = list := by
  have absent : index ∉ places := fun found => Nat.lt_irrefl index (passed index found)
  induction list generalizing index with
  | nil => rw [insertFrom, if_neg absent]
  | cons a rest ih =>
      have passed' : ∀ place ∈ places, place < index + 1 :=
        fun place found => Nat.lt_succ_of_lt (passed place found)
      rw [insertFrom, if_neg absent, List.nil_append,
        ih passed' fun found => Nat.lt_irrefl _ (passed' _ found)]

/-- The last place parts the list in two, and the other places are in the first part. -/
theorem insertFrom_cons (added : List α) {last : Nat} {places : List Nat}
    (before : ∀ place ∈ places, place < last) {index : Nat} (reached : index ≤ last)
    (list : List α) (inside : last - index ≤ list.length) :
    insertFrom added (last :: places) index list =
      insertFrom added places index (list.take (last - index)) ++ added ++
        list.drop (last - index) := by
  induction list generalizing index with
  | nil =>
      have here : last = index := by
        simp only [List.length_nil] at inside
        omega
      subst here
      have absent : last ∉ places := fun found => Nat.lt_irrefl last (before last found)
      simp [insertFrom, absent]
  | cons a rest ih =>
      rcases Nat.eq_or_lt_of_le reached with here | later
      · subst here
        -- the place is reached, and all others are passed: the rest is copied
        have passed : ∀ place ∈ index :: places, place < index + 1 := by
          intro place found
          rcases List.mem_cons.mp found with rfl | found
          · exact Nat.lt_succ_self place
          · exact Nat.lt_succ_of_lt (before place found)
        have absent : index ∉ places := fun found => Nat.lt_irrefl index (before index found)
        rw [insertFrom, insertFrom_of_lt added passed, Nat.sub_self]
        simp [insertFrom, absent]
      · have step : last - index = (last - (index + 1)) + 1 := by omega
        have other : index ∈ last :: places ↔ index ∈ places := by
          rw [List.mem_cons]
          exact ⟨fun found => found.resolve_left (Nat.ne_of_lt later), Or.inr⟩
        have shorter : last - (index + 1) ≤ rest.length := by
          simp only [List.length_cons] at inside
          omega
        rw [step, List.take_succ_cons, List.drop_succ_cons, insertFrom, insertFrom,
          ih later shorter]
        simp only [other, List.append_assoc, List.cons_append]

theorem foldl_insertOne_append (added : List α) {places : List Nat} (front back : List α)
    (inside : ∀ place ∈ places, place ≤ front.length) :
    places.foldl (insertOne added) (front ++ back) =
      places.foldl (insertOne added) front ++ back := by
  induction places generalizing front with
  | nil => rfl
  | cons place rest ih =>
      have here : place ≤ front.length := inside place List.mem_cons_self
      have one : insertOne added (front ++ back) place = insertOne added front place ++ back := by
        simp only [insertOne, List.take_append_of_le_length here,
          List.drop_append_of_le_length here,
          List.append_assoc]
      rw [List.foldl_cons, List.foldl_cons, one]
      apply ih
      intro other found
      have := inside other (List.mem_cons_of_mem place found)
      simp only [insertOne, List.length_append, List.length_take, List.length_drop]
      omega

theorem foldl_insertOne (added : List α) {places : List Nat} (list : List α)
    (descending : places.Pairwise fun later earlier => earlier < later)
    (inside : ∀ place ∈ places, place ≤ list.length) :
    places.foldl (insertOne added) list = insertAll added places list := by
  induction places generalizing list with
  | nil => exact (insertFrom_of_lt added (fun _ found => absurd found List.not_mem_nil) list).symm
  | cons last rest ih =>
      obtain ⟨before, descending⟩ := List.pairwise_cons.mp descending
      have here : last ≤ list.length := inside last List.mem_cons_self
      have front : ∀ place ∈ rest, place ≤ (list.take last).length := by
        intro place found
        have := before place found
        rw [List.length_take]
        omega
      rw [List.foldl_cons, insertOne, List.append_assoc, foldl_insertOne_append added _ _ front,
        ih _ descending front, insertAll, insertAll,
        insertFrom_cons added before (Nat.zero_le last) list here, Nat.sub_zero, List.append_assoc]

theorem sublist_insertAll (added : List α) (places : List Nat) (list : List α) :
    list.Sublist (insertAll added places list) := by
  have from_ (index : Nat) : list.Sublist (insertFrom added places index list) := by
    induction list generalizing index with
    | nil => exact List.nil_sublist _
    | cons a rest ih => exact ((ih (index + 1)).cons_cons a).trans (List.sublist_append_right _ _)
  exact from_ 0

/-! ## Replacing elements -/

variable {β : Type} (f : α → List β)

/-- The place to which a place comes when every element is replaced by several ones. -/
def replaced (list : List α) (place : Nat) : Nat :=
  ((list.take place).flatMap f).length

theorem flatMap_insertOne (added list : List α) (place : Nat) :
    (insertOne added list place).flatMap f =
      insertOne (added.flatMap f) (list.flatMap f) (replaced f list place) := by
  have whole : list.flatMap f = (list.take place).flatMap f ++ (list.drop place).flatMap f := by
    rw [← List.flatMap_append, List.take_append_drop]
  rw [insertOne, insertOne, replaced, whole, List.take_left, List.drop_left, List.flatMap_append,
    List.flatMap_append]

theorem replaced_insertOne (added : List α) {list : List α} {place earlier : Nat}
    (before : earlier < place) (inside : place ≤ list.length) :
    replaced f (insertOne added list place) earlier = replaced f list earlier := by
  have front : earlier ≤ (list.take place).length := by
    rw [List.length_take]
    omega
  rw [replaced, replaced, insertOne, List.append_assoc, List.take_append_of_le_length front,
    List.take_take, Nat.min_eq_left (Nat.le_of_lt before)]

/-- Elements may be replaced after several insertions or before them, from the last place to the
first one. -/
theorem flatMap_foldl_insertOne (added : List α) {places : List Nat} (list : List α)
    (descending : places.Pairwise fun later earlier => earlier < later)
    (inside : ∀ place ∈ places, place ≤ list.length) :
    (places.foldl (insertOne added) list).flatMap f =
      (places.map (replaced f list)).foldl (insertOne (added.flatMap f)) (list.flatMap f) := by
  induction places generalizing list with
  | nil => rfl
  | cons last rest ih =>
      obtain ⟨before, descending⟩ := List.pairwise_cons.mp descending
      have here : last ≤ list.length := inside last List.mem_cons_self
      have same : rest.map (replaced f (insertOne added list last)) =
          rest.map (replaced f list) :=
        List.map_congr_left fun place found => replaced_insertOne f added (before place found) here
      rw [List.foldl_cons, List.map_cons, List.foldl_cons, ih _ descending, same,
        flatMap_insertOne]
      intro place found
      have := inside place (List.mem_cons_of_mem last found)
      simp only [insertOne, List.length_append, List.length_take, List.length_drop]
      omega

theorem replaced_add (list : List α) {earlier later : Nat} (order : earlier ≤ later) :
    replaced f list later =
      replaced f list earlier + (((list.take later).drop earlier).flatMap f).length := by
  have whole : list.take later = list.take earlier ++ (list.take later).drop earlier := by
    conv => lhs; rw [← List.take_append_drop earlier (list.take later)]
    rw [List.take_take, Nat.min_eq_left order]
  rw [replaced, replaced, ← List.length_append, ← List.flatMap_append, ← whole]

theorem replaced_mono (list : List α) {earlier later : Nat} (order : earlier ≤ later) :
    replaced f list earlier ≤ replaced f list later := by
  rw [replaced_add f list order]
  exact Nat.le_add_right _ _

theorem replaced_lt (grows : ∀ a, f a ≠ []) {list : List α} {earlier later : Nat}
    (order : earlier < later) (inside : later ≤ list.length) :
    replaced f list earlier < replaced f list later := by
  have middle : (list.take later).drop earlier ≠ [] := by
    rw [← List.length_pos_iff, List.length_drop, List.length_take]
    omega
  obtain ⟨a, rest, shape⟩ := List.exists_cons_of_ne_nil middle
  have := List.length_pos_iff.mpr (grows a)
  rw [replaced_add f list (Nat.le_of_lt order), shape, List.flatMap_cons, List.length_append]
  omega

theorem replaced_le (list : List α) (place : Nat) :
    replaced f list place ≤ (list.flatMap f).length := by
  have whole := congrArg (List.flatMap f) (List.take_append_drop place list)
  rw [List.flatMap_append] at whole
  rw [replaced, ← whole, List.length_append]
  exact Nat.le_add_right _ _

theorem flatMap_insertAll (grows : ∀ a, f a ≠ []) (added : List α) {places : List Nat}
    (list : List α) (ascending : places.Pairwise (· < ·))
    (inside : ∀ place ∈ places, place ≤ list.length) :
    (insertAll added places list).flatMap f =
      insertAll (added.flatMap f) (places.map (replaced f list)) (list.flatMap f) := by
  have descending : places.reverse.Pairwise fun later earlier => earlier < later :=
    List.pairwise_reverse.mpr ascending
  have inside' : ∀ place ∈ places.reverse, place ≤ list.length :=
    fun place found => inside place (List.mem_reverse.mp found)
  have descending' : (places.reverse.map (replaced f list)).Pairwise
      fun later earlier => earlier < later := by
    rw [List.pairwise_map]
    exact descending.imp_of_mem fun found _ order => replaced_lt f grows order (inside' _ found)
  rw [← insertAll_perm added (List.reverse_perm places),
    ← foldl_insertOne added list descending inside',
    flatMap_foldl_insertOne f added list descending inside', foldl_insertOne _ _ descending',
    List.map_reverse, insertAll_perm _ (List.reverse_perm _)]
  intro place found
  obtain ⟨earlier, -, rfl⟩ := List.mem_map.mp found
  exact replaced_le f list earlier

end SignatureLint.Insertion

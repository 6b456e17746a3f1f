import SignatureLint.Proofs.Text.Words
import SignatureLint.Text.Width

/-!
# What is seen of a text

Of a printed text the blanks are not seen.  What is left falls into words, and cutting a text at
blanks or line ends parts no word.
-/

namespace SignatureLint.Text

/-! ## Ink -/

def ink (text : List Char) : List Char :=
  text.filter (!isBlank ·)

@[simp] theorem ink_append (front rest : List Char) : ink (front ++ rest) = ink front ++ ink rest :=
  List.filter_append ..

theorem ink_eq_nil {text : List Char} (blank : ∀ c ∈ text, isBlank c = true) : ink text = [] :=
  List.filter_eq_nil_iff.mpr fun c found => by rw [blank c found]; exact Bool.false_ne_true

theorem ink_eq_self {text : List Char} (filled : ∀ c ∈ text, isBlank c = false) :
    ink text = text :=
  List.filter_eq_self.mpr fun c found => by rw [filled c found]; rfl

theorem ink_trimEnd (text : List Char) : ink (trimEnd text) = ink text := by
  obtain ⟨blanks, blank, whole⟩ := exists_blanks_trimEnd text
  calc ink (trimEnd text) = ink (trimEnd text) ++ ink blanks := by
        rw [ink_eq_nil blank, List.append_nil]
    _ = ink (trimEnd text ++ blanks) := (ink_append ..).symm
    _ = ink text := by rw [← whole]

/-! ## Pieces -/

theorem pieces_ne_nil (cut : Char → Bool) (text : List Char) : pieces cut text ≠ [] := by
  cases text with
  | nil => exact List.cons_ne_nil _ _
  | cons c rest =>
      rw [pieces]
      split
      · exact List.cons_ne_nil _ _
      · split <;> exact List.cons_ne_nil _ _

theorem pieces_append {cut : Char → Bool} {c : Char} (here : cut c = true)
    (front rest : List Char) :
    pieces cut (front ++ c :: rest) = pieces cut front ++ pieces cut rest := by
  induction front with
  | nil =>
      change pieces cut (c :: rest) = [] :: pieces cut rest
      rw [pieces, if_pos here]
  | cons d front ih =>
      rw [List.cons_append, pieces, pieces, ih]
      split
      · rfl
      · cases found : pieces cut front with
        | nil => exact absurd found (pieces_ne_nil cut front)
        | cons first others => rfl

theorem pieces_eq_singleton {cut : Char → Bool} {text : List Char}
    (uncut : ∀ c ∈ text, cut c = false) : pieces cut text = [text] := by
  induction text with
  | nil => rfl
  | cons c rest ih =>
      obtain ⟨here, later⟩ := List.forall_mem_cons.mp uncut
      rw [pieces, if_neg (by rw [here]; exact Bool.false_ne_true), ih later]

theorem uncut_or_exists_cut (cut : Char → Bool) (text : List Char) :
    (∀ c ∈ text, cut c = false) ∨
      ∃ front c rest, (∀ d ∈ front, cut d = false) ∧ cut c = true ∧
        text = front ++ c :: rest := by
  induction text with
  | nil => exact .inl nofun
  | cons c text ih =>
      cases here : cut c with
      | true => exact .inr ⟨[], c, text, nofun, here, rfl⟩
      | false =>
          rcases ih with uncut | ⟨front, d, rest, uncut, cuts, rfl⟩
          · exact .inl (List.forall_mem_cons.mpr ⟨here, uncut⟩)
          · exact .inr ⟨c :: front, d, rest, List.forall_mem_cons.mpr ⟨here, uncut⟩, cuts, rfl⟩

/-! ## Words -/

/-- The words of a text: what stands between blanks. -/
def wordsOf (text : List Char) : List (List Char) :=
  (pieces isBlank text).filter (!·.isEmpty)

theorem wordsOf_append {c : Char} (blank : isBlank c = true) (front rest : List Char) :
    wordsOf (front ++ c :: rest) = wordsOf front ++ wordsOf rest := by
  rw [wordsOf, pieces_append blank, List.filter_append]
  rfl

theorem wordsOf_of_filled {text : List Char} (filled : ∀ c ∈ text, isBlank c = false) :
    wordsOf text = if text = [] then [] else [text] := by
  rw [wordsOf, pieces_eq_singleton filled]
  cases text <;> rfl

theorem wordsOf_append_of_blank {blanks : List Char} (blank : ∀ c ∈ blanks, isBlank c = true)
    (text : List Char) : wordsOf (blanks ++ text) = wordsOf text := by
  induction blanks with
  | nil => rfl
  | cons c blanks ih =>
      obtain ⟨here, blank⟩ := List.forall_mem_cons.mp blank
      exact (wordsOf_append here [] (blanks ++ text)).trans (ih blank)

theorem wordsOf_word {body trail rest : List Char} (filled : ∀ c ∈ body, isBlank c = false)
    (nonempty : body ≠ []) (blank : ∀ c ∈ trail, isBlank c = true)
    (joint : trail = [] → rest = []) : wordsOf (body ++ trail ++ rest) = body :: wordsOf rest := by
  have word : wordsOf body = [body] := by rw [wordsOf_of_filled filled, if_neg nonempty]
  cases trail with
  | nil =>
      rw [joint rfl, List.append_nil, List.append_nil, word]
      rfl
  | cons c trail =>
      obtain ⟨here, blank⟩ := List.forall_mem_cons.mp blank
      rw [List.append_assoc, List.cons_append, wordsOf_append here, word,
        wordsOf_append_of_blank blank]
      rfl

theorem flatten_wordsOf (text : List Char) : (wordsOf text).flatten = ink text := by
  induction size : text.length using Nat.strongRecOn generalizing text with
  | ind size ih =>
      rcases uncut_or_exists_cut isBlank text with filled | ⟨front, c, rest, filled, blank, rfl⟩
      · rw [wordsOf_of_filled filled, ink_eq_self filled]
        cases text with
        | nil => rfl
        | cons c rest => exact List.append_nil _
      · have later := ih rest.length (by rw [← size]; simp; omega) rest rfl
        rw [wordsOf_append blank, List.flatten_append, later, ink_append, wordsOf_of_filled filled,
          ink_eq_self filled, ink, ink, List.filter_cons_of_neg (by rw [blank]; decide)]
        cases front with
        | nil => rfl
        | cons d front => exact congrArg (· ++ _) (List.append_nil _)

theorem wordsOf_eq_flatMap {cut : Char → Bool} (blank : ∀ c, cut c = true → isBlank c = true)
    (text : List Char) : wordsOf text = (pieces cut text).flatMap wordsOf := by
  induction size : text.length using Nat.strongRecOn generalizing text with
  | ind size ih =>
      rcases uncut_or_exists_cut cut text with uncut | ⟨front, c, rest, uncut, cuts, rfl⟩
      · rw [pieces_eq_singleton uncut, List.flatMap_singleton]
      · have later := ih rest.length (by rw [← size]; simp; omega) rest rfl
        rw [wordsOf_append (blank c cuts), pieces_append cuts, pieces_eq_singleton uncut,
          List.flatMap_append, List.flatMap_singleton, later]

theorem ink_eq_flatMap {cut : Char → Bool} (blank : ∀ c, cut c = true → isBlank c = true)
    (text : List Char) : ink text = (pieces cut text).flatMap ink := by
  rw [← flatten_wordsOf, wordsOf_eq_flatMap blank, ← List.flatMap_id, List.flatMap_assoc]
  refine congrArg (List.flatMap · _) (funext fun piece => ?_)
  rw [List.flatMap_id, flatten_wordsOf]

/-! ## Cells -/

@[simp] theorem cells_nil : cells [] = 0 := rfl

@[simp] theorem cells_append (front rest : List Char) :
    cells (front ++ rest) = cells front + cells rest := by
  induction front with
  | nil => exact (Nat.zero_add _).symm
  | cons c front ih => rw [List.cons_append, cells, cells, ih, Nat.add_assoc]

@[simp] theorem cells_reverse (text : List Char) : cells text.reverse = cells text := by
  induction text with
  | nil => rfl
  | cons c text ih =>
      rw [List.reverse_cons, cells_append, ih, cells, cells, cells, Nat.add_zero, Nat.add_comm]

theorem cells_le_of_sublist {part text : List Char} (h : part.Sublist text) :
    cells part ≤ cells text := by
  induction h with
  | slnil => exact Nat.le_refl _
  | cons c _ ih => exact Nat.le_trans ih (Nat.le_add_left _ _)
  | cons_cons c _ ih => exact Nat.add_le_add_left ih _

theorem cells_le_length {text : List Char} (narrow : ∀ c ∈ text, charCells c ≤ 1) :
    cells text ≤ text.length := by
  induction text with
  | nil => exact Nat.le_refl _
  | cons c text ih =>
      obtain ⟨here, narrow⟩ := List.forall_mem_cons.mp narrow
      have := ih narrow
      rw [cells, List.length_cons]
      omega

theorem charCells_le_two (c : Char) : charCells c ≤ 2 := by
  unfold charCells
  dsimp only
  split
  · split <;> decide
  · split
    · decide
    · split <;> decide

end SignatureLint.Text

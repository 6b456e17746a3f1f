import SignatureLint.Text.Lines

/-!
# Line ends

A text may be cut anywhere but between the two characters of a line end.  Both parts
of such a cut are turned to line feeds on their own, every cut of the turned text
comes from one of the text.
-/

namespace SignatureLint.Text

/-- A text is empty, or it begins with a line end of two characters, with a lone carriage return or
with another character. -/
@[elab_as_elim]
theorem newlines_induction {motive : List Char → Prop} (nil : motive [])
    (crlf : ∀ rest, motive rest → motive ('\r' :: '\n' :: rest))
    (cr : ∀ rest, rest.head? ≠ some '\n' → motive rest → motive ('\r' :: rest))
    (other : ∀ c rest, c ≠ '\r' → motive rest → motive (c :: rest)) (text : List Char) :
    motive text := by
  induction text using normalizeNewlines.induct with
  | case1 => exact nil
  | case2 rest ih => exact crlf rest ih
  | case3 rest lone ih =>
      apply cr rest _ ih
      intro head
      cases rest with
      | nil => cases head
      | cons d rest => exact lone rest (by rw [Option.some.inj head])
  | case4 c rest _ plain ih =>
      apply other c rest _ ih
      rintro rfl
      exact plain rfl

/-! ## Cuts -/

/-- Two parts of a text that are not the two characters of one line end. -/
def Clean (before after : List Char) : Prop :=
  before.getLast? = some '\r' → after.head? ≠ some '\n'

theorem clean_nil (after : List Char) : Clean [] after := by
  intro ends
  cases ends

theorem Clean.of_cons {c : Char} {rest after : List Char} (clean : Clean (c :: rest) after) :
    Clean rest after := by
  cases rest with
  | nil => exact clean_nil after
  | cons d rest => rwa [Clean, List.getLast?_cons_cons] at clean

theorem Clean.cons {before after : List Char} (clean : Clean before after) {c : Char}
    (alone : before = [] → c = '\r' → after.head? ≠ some '\n') : Clean (c :: before) after := by
  cases before with
  | nil =>
      intro ends
      exact alone rfl (Option.some.inj ends)
  | cons d rest => rwa [Clean, List.getLast?_cons_cons]

theorem Clean.of_append {front before after : List Char} (clean : Clean (front ++ before) after) :
    Clean before after := by
  induction front with
  | nil => exact clean
  | cons c rest ih => exact ih clean.of_cons

theorem Clean.append {before middle : List Char} (clean : Clean before middle)
    (nonempty : middle ≠ []) (after : List Char) : Clean before (middle ++ after) := by
  cases middle with
  | nil => exact absurd rfl nonempty
  | cons c rest => exact clean

theorem Clean.front {before middle after : List Char} (clean : Clean before (middle ++ after))
    (nonempty : middle ≠ []) : Clean before middle := by
  cases middle with
  | nil => exact absurd rfl nonempty
  | cons c rest => exact clean

/-! ## Turning line ends into line feeds -/

@[simp] theorem normalizeNewlines_nil : normalizeNewlines [] = [] := by
  rw [normalizeNewlines]

@[simp] theorem normalizeNewlines_crlf (rest : List Char) :
    normalizeNewlines ('\r' :: '\n' :: rest) = '\n' :: normalizeNewlines rest := by
  rw [normalizeNewlines]

theorem normalizeNewlines_cr {rest : List Char} (lone : rest.head? ≠ some '\n') :
    normalizeNewlines ('\r' :: rest) = '\n' :: normalizeNewlines rest := by
  rw [normalizeNewlines]
  rintro more rfl
  exact lone rfl

theorem normalizeNewlines_cons {c : Char} (plain : c ≠ '\r') (rest : List Char) :
    normalizeNewlines (c :: rest) = c :: normalizeNewlines rest := by
  rw [normalizeNewlines]
  · rintro more rfl
    exact absurd rfl plain
  · exact plain

theorem normalizeNewlines_append {before after : List Char} (clean : Clean before after) :
    normalizeNewlines (before ++ after) =
      normalizeNewlines before ++ normalizeNewlines after := by
  induction before using newlines_induction with
  | nil => rw [normalizeNewlines_nil, List.nil_append, List.nil_append]
  | crlf rest ih =>
      rw [List.cons_append, List.cons_append, normalizeNewlines_crlf, normalizeNewlines_crlf,
        ih clean.of_cons.of_cons, List.cons_append]
  | cr rest lone ih =>
      have lone' : (rest ++ after).head? ≠ some '\n' := by
        cases rest with
        | nil => exact clean rfl
        | cons d rest => exact lone
      rw [List.cons_append, normalizeNewlines_cr lone, normalizeNewlines_cr lone',
        ih clean.of_cons, List.cons_append]
  | other c rest plain ih =>
      rw [List.cons_append, normalizeNewlines_cons plain, normalizeNewlines_cons plain,
        ih clean.of_cons, List.cons_append]

/-- Every cut of the turned text comes from a clean one of the text. -/
theorem exists_clean_cut (text : List Char) {place : Nat}
    (inside : place ≤ (normalizeNewlines text).length) :
    ∃ before after, text = before ++ after ∧ Clean before after ∧
      normalizeNewlines before = (normalizeNewlines text).take place ∧
      normalizeNewlines after = (normalizeNewlines text).drop place := by
  induction text using newlines_induction generalizing place with
  | nil => exact ⟨[], [], rfl, clean_nil _, by simp, by simp⟩
  | crlf rest ih =>
      cases place with
      | zero => exact ⟨[], _, rfl, clean_nil _, by simp, by simp⟩
      | succ place =>
          rw [normalizeNewlines_crlf, List.length_cons] at inside
          obtain ⟨before, after, rfl, clean, front, back⟩ := ih (Nat.le_of_succ_le_succ inside)
          refine ⟨'\r' :: '\n' :: before, after, rfl, ?_, ?_, ?_⟩
          · exact (clean.cons fun _ other => absurd other (by decide)).cons
              fun empty => by cases empty
          · rw [normalizeNewlines_crlf, normalizeNewlines_crlf, List.take_succ_cons, front]
          · rw [normalizeNewlines_crlf, List.drop_succ_cons, back]
  | cr rest lone ih =>
      cases place with
      | zero => exact ⟨[], _, rfl, clean_nil _, by simp, by simp⟩
      | succ place =>
          rw [normalizeNewlines_cr lone, List.length_cons] at inside
          obtain ⟨before, after, rfl, clean, front, back⟩ := ih (Nat.le_of_succ_le_succ inside)
          -- the front must not end between the two characters of a line end
          have lone' : before.head? ≠ some '\n' := by
            cases before with
            | nil => exact fun other => by cases other
            | cons d rest => exact lone
          refine ⟨'\r' :: before, after, rfl, ?_, ?_, ?_⟩
          · apply clean.cons
            rintro rfl -
            exact lone
          · rw [normalizeNewlines_cr lone', normalizeNewlines_cr lone, List.take_succ_cons, front]
          · rw [normalizeNewlines_cr lone, List.drop_succ_cons, back]
  | other c rest plain ih =>
      cases place with
      | zero => exact ⟨[], _, rfl, clean_nil _, by simp, by simp⟩
      | succ place =>
          rw [normalizeNewlines_cons plain, List.length_cons] at inside
          obtain ⟨before, after, rfl, clean, front, back⟩ := ih (Nat.le_of_succ_le_succ inside)
          refine ⟨c :: before, after, rfl, ?_, ?_, ?_⟩
          · exact clean.cons fun _ same => absurd same plain
          · rw [normalizeNewlines_cons plain, normalizeNewlines_cons plain, List.take_succ_cons,
              front]
          · rw [normalizeNewlines_cons plain, List.drop_succ_cons, back]

theorem normalizeNewlines_ne_nil {text : List Char} (nonempty : text ≠ []) :
    normalizeNewlines text ≠ [] := by
  induction text using newlines_induction with
  | nil => exact absurd rfl nonempty
  | crlf rest => rw [normalizeNewlines_crlf]; exact List.cons_ne_nil _ _
  | cr rest lone => rw [normalizeNewlines_cr lone]; exact List.cons_ne_nil _ _
  | other c rest plain => rw [normalizeNewlines_cons plain]; exact List.cons_ne_nil _ _

/-- The last character of the turned text is that of the text, or both end a line. -/
theorem normalizeNewlines_concat (text : List Char) (c : Char) :
    (∃ front, normalizeNewlines (text ++ [c]) = front ++ [c] ∧ c ≠ '\r') ∨
      ∃ front, normalizeNewlines (text ++ [c]) = front ++ ['\n'] := by
  by_cases feed : c = '\n'
  · subst feed
    right
    -- behind a return the feed is the second half of a line end, whose first half is in the text
    by_cases ends : text.getLast? = some '\r'
    · obtain ⟨front, rfl⟩ : ∃ front, text = front ++ ['\r'] := by
        have nonempty : text ≠ [] := by
          rintro rfl
          cases ends
        refine ⟨text.dropLast, ?_⟩
        have last := List.getLast?_eq_some_getLast nonempty
        rw [ends] at last
        rw [Option.some.inj last, List.dropLast_concat_getLast]
      refine ⟨normalizeNewlines front, ?_⟩
      have clean : Clean front ['\r', '\n'] := fun _ other => absurd other (by decide)
      rw [List.append_assoc, List.singleton_append, normalizeNewlines_append clean,
        normalizeNewlines_crlf, normalizeNewlines_nil]
    · refine ⟨normalizeNewlines text, ?_⟩
      have clean : Clean text ['\n'] := fun other => absurd other ends
      rw [normalizeNewlines_append clean, normalizeNewlines_cons (by decide),
        normalizeNewlines_nil]
  · have clean : Clean text [c] := fun _ other => feed (Option.some.inj other)
    rw [normalizeNewlines_append clean]
    by_cases return_ : c = '\r'
    · subst return_
      right
      exact ⟨normalizeNewlines text, by
        rw [normalizeNewlines_cr (by decide), normalizeNewlines_nil]⟩
    · left
      exact ⟨normalizeNewlines text, by
        rw [normalizeNewlines_cons return_, normalizeNewlines_nil], return_⟩

theorem length_normalizeNewlines_lt {before middle : List Char} (clean : Clean before middle)
    (nonempty : middle ≠ []) :
    (normalizeNewlines before).length < (normalizeNewlines (before ++ middle)).length := by
  have := List.length_pos_iff.mpr (normalizeNewlines_ne_nil nonempty)
  rw [normalizeNewlines_append clean, List.length_append]
  omega

/-! ## Lines -/

@[simp] theorem linesWithEnds_nil : linesWithEnds [] = [] := by
  rw [linesWithEnds]

theorem linesWithEnds_crlf (rest : List Char) :
    linesWithEnds ('\r' :: '\n' :: rest) = ['\r', '\n'] :: linesWithEnds rest := by
  rw [linesWithEnds]

theorem linesWithEnds_cr {rest : List Char} (lone : rest.head? ≠ some '\n') :
    linesWithEnds ('\r' :: rest) = ['\r'] :: linesWithEnds rest := by
  rw [linesWithEnds]
  rintro more rfl
  exact lone rfl

theorem linesWithEnds_lf (rest : List Char) :
    linesWithEnds ('\n' :: rest) = ['\n'] :: linesWithEnds rest := by
  rw [linesWithEnds]

theorem linesWithEnds_cons {c : Char} (plain : c ≠ '\r') (plain' : c ≠ '\n') (rest : List Char) :
    linesWithEnds (c :: rest) = consLine c (linesWithEnds rest) := by
  rw [linesWithEnds]
  · rintro more rfl
    exact absurd rfl plain
  · exact plain
  · exact plain'

/-- Put the beginning of a line before the first line. -/
def joinLine (line : List Char) (lines : List (List Char)) : List (List Char) :=
  line.foldr consLine lines

theorem joinLine_head (line : List Char) (lines : List (List Char)) :
    (joinLine line lines).headD [] = line ++ lines.headD [] := by
  induction line with
  | nil => rfl
  | cons c rest ih =>
      rw [joinLine, List.foldr_cons, ← joinLine, List.cons_append, ← ih]
      cases joinLine rest lines <;> rfl

theorem joinLine_cons (line first : List Char) (rest : List (List Char)) :
    joinLine line (first :: rest) = (line ++ first) :: rest := by
  induction line with
  | nil => rfl
  | cons c more ih =>
      rw [joinLine, List.foldr_cons, ← joinLine, ih]
      rfl

end SignatureLint.Text

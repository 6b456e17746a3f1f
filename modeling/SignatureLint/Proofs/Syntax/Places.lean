import SignatureLint.Proofs.Edit.Insertion
import SignatureLint.Proofs.Syntax.Parts

/-!
# The order of places in a text

A longer front of a text leads to a later place.  So a range covers one part of a text
at most, and it covers the same part when something is inserted behind it.
-/

namespace SignatureLint

open Insertion Lexer Text

/-- A place that comes before another one. -/
def Position.Before (first second : Position) : Prop :=
  first.line < second.line ∨ first.line = second.line ∧ first.column < second.column

theorem Position.Before.ne {first second : Position} (before : first.Before second) :
    first ≠ second := by
  rintro rfl
  unfold Before at before
  omega

namespace Lexer

theorem advance_not_before (text : List Char) (line column : Nat) :
    line < (advance ⟨line, column⟩ text).line ∨
      line = (advance ⟨line, column⟩ text).line ∧
        column ≤ (advance ⟨line, column⟩ text).column := by
  induction text generalizing line column with
  | nil => exact Or.inr ⟨rfl, Nat.le_refl _⟩
  | cons c rest ih =>
      by_cases feed : c = '\n'
      · subst feed
        rw [advance_feed]
        have := ih (line + 1) 0
        omega
      · rw [advance_cons feed]
        have := ih line (column + Utf8.charWidth c)
        omega

theorem before_advance {text : List Char} (nonempty : text ≠ []) (place : Position) :
    place.Before (advance place text) := by
  obtain ⟨line, column⟩ := place
  cases text with
  | nil => exact absurd rfl nonempty
  | cons c rest =>
      unfold Position.Before
      dsimp only
      by_cases feed : c = '\n'
      · subst feed
        rw [advance_feed]
        have := advance_not_before rest (line + 1) 0
        omega
      · rw [advance_cons feed]
        have := advance_not_before rest line (column + Utf8.charWidth c)
        have := Utf8.charWidth_pos c
        omega

end Lexer

theorem before_reach_take {text : List Char} {first later : Nat}
    (clean : Clean (text.take first) (text.drop first)) (longer : first < later)
    (inside : later ≤ text.length) :
    (reach (normalizeNewlines (text.take first))).Before
      (reach (normalizeNewlines (text.take later))) := by
  have nonempty : (text.take later).drop first ≠ [] := by
    apply List.ne_nil_of_length_pos
    rw [List.length_drop, List.length_take]
    omega
  have front : text.take later = text.take first ++ (text.take later).drop first := by
    conv => lhs; rw [← List.take_append_drop first (text.take later)]
    rw [List.take_take, Nat.min_eq_left (Nat.le_of_lt longer)]
  rw [front, normalizeNewlines_append (clean_take later clean), ← advance_reach]
  exact before_advance (normalizeNewlines_ne_nil nonempty) _

namespace Stands

variable {text : List Char} {range range' : Range} {part part' : Nat × Nat}

theorem lt (stands : Stands text range part) : part.1 < part.2 := by
  apply Nat.lt_of_not_le
  intro empty
  obtain ⟨front, last, solid, -⟩ := stands.solid
  rw [List.drop_eq_nil_of_le (Nat.le_trans (List.length_take_le _ _) empty)] at solid
  cases front <;> cases solid

theorem start_before (stands : Stands text range part) (stands' : Stands text range' part')
    (earlier : part.1 < part'.1) : range.start.Before range'.start := by
  rw [stands.range, stands'.range]
  exact before_reach_take stands.clean earlier (Nat.le_trans stands'.order stands'.inside)

theorem stop_before (stands : Stands text range part) (stands' : Stands text range' part')
    (earlier : part.2 < part'.2) : range.stop.Before range'.stop := by
  rw [stands.range, stands'.range]
  exact before_reach_take stands.clean' earlier stands'.inside

theorem start_before_stop (stands : Stands text range part) (stands' : Stands text range' part')
    (earlier : part.1 < part'.2) : range.start.Before range'.stop := by
  rw [stands.range, stands'.range]
  exact before_reach_take stands.clean earlier stands'.inside

theorem unique (stands : Stands text range part) (stands' : Stands text range part') :
    part = part' := by
  apply Prod.ext
  · rcases Nat.lt_trichotomy part.1 part'.1 with earlier | same | later
    · exact absurd rfl (stands.start_before stands' earlier).ne
    · exact same
    · exact absurd rfl (stands'.start_before stands later).ne
  · rcases Nat.lt_trichotomy part.2 part'.2 with earlier | same | later
    · exact absurd rfl (stands.stop_before stands' earlier).ne
    · exact same
    · exact absurd rfl (stands'.stop_before stands later).ne

/-- A range covers the same part when something is inserted behind it. -/
theorem insertOne {added : List Char} {place : Nat} (stands : Stands text range part)
    (behind : part.2 ≤ place) (inside : place ≤ text.length) (plain : added.head? ≠ some '\n')
    (nonempty : added ≠ []) : Stands (Insertion.insertOne added text place) range part := by
  have front (count : Nat) (before : count ≤ place) :
      (Insertion.insertOne added text place).take count = text.take count := by
    have long : count ≤ (text.take place).length := by
      rw [List.length_take]
      omega
    rw [Insertion.insertOne, List.append_assoc, List.take_append_of_le_length long,
      List.take_take, Nat.min_eq_left before]
  have clean (count : Nat) (before : count ≤ place)
      (clean : Clean (text.take count) (text.drop count)) :
      Clean ((Insertion.insertOne added text place).take count)
        ((Insertion.insertOne added text place).drop count) := by
    have long : count ≤ (text.take place).length := by
      rw [List.length_take]
      omega
    rw [front count before, Insertion.insertOne, List.append_assoc,
      List.drop_append_of_le_length long]
    -- at the place itself the added text comes next, so it may not begin with a line feed
    by_cases empty : (text.take place).drop count = []
    · rw [empty, List.nil_append]
      intro _ next
      cases added with
      | nil => exact nonempty rfl
      | cons c rest => exact plain next
    · exact (clean_take place clean).append empty _
  have before := Nat.le_trans stands.order behind
  exact
    { order := stands.order
      inside := by
        rw [Insertion.insertOne, List.length_append, List.length_append, List.length_take]
        omega
      clean := clean part.1 before stands.clean
      clean' := clean part.2 behind stands.clean'
      range := by rw [front part.1 before, front part.2 behind, stands.range]
      solid := by rw [front part.2 behind]; exact stands.solid }

theorem nodup {ranges : List Range} {parts : List (Nat × Nat)}
    (each : List.Forall₂ (Stands text) ranges parts)
    (apart : parts.Pairwise fun first second => first.2 ≤ second.1) : ranges.Nodup := by
  induction each with
  | nil => exact List.nodup_nil
  | @cons range part ranges parts stands others ih =>
      obtain ⟨before, apart⟩ := List.pairwise_cons.mp apart
      refine List.nodup_cons.mpr ⟨?_, ih apart⟩
      intro found
      obtain ⟨part', found', stands'⟩ := Related.exists_of_mem others found
      rw [stands.unique stands'] at before
      have := before part' found'
      have := stands'.lt
      omega

end Stands

end SignatureLint

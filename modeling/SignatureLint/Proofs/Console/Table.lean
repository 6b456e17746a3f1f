import Mathlib.Data.List.Forall2
import Mathlib.Data.List.GetD
import SignatureLint.Console.Table
import SignatureLint.Proofs.Console.Layout

/-!
# Texts in a table

A row of a table stands on several lines, and the lines of a cell are one below the other.  In them
the words of the cell are seen, each as far as the column is wide.
-/

namespace SignatureLint.Console

open Text (ink wordsOf)
open Table (cellLines rowLines)

/-! ## Rows -/

/-- A line of parts with bars around and between them. -/
def barred (edge middle : Char) (parts : List Line) : Line :=
  edge :: ([middle].intercalate parts ++ [edge])

/-- Columns of one height in which texts are seen.  Each has a width, of which a cell at each side
stays free; of a word that is wider than the rest only the beginning is seen, with an ellipsis. -/
inductive Seen (height : Nat) : List Nat → List (List Char) → List (List Line) → Prop
  | nil : Seen height [] [] []
  | cons {width : Nat} {widths : List Nat} {text : List Char} {texts : List (List Char)}
      {column : List Line} {columns : List (List Line)} (high : column.length = height)
      (here : ink column.flatten = (wordsOf text).flatMap (cropped (width - 2)))
      (others : Seen height widths texts columns) :
      Seen height (width :: widths) (text :: texts) (column :: columns)

/-- Lines that are a row of columns in which texts are seen. -/
def RowSeen (edge middle : Char) (widths : List Nat) (texts : List (List Char))
    (lines : List Line) : Prop :=
  ∃ columns, Seen lines.length widths texts columns ∧
    lines = (List.range lines.length).map fun index =>
      barred edge middle (columns.map (·.getD index []))

/-- A text of which each line can be broken into lines of a number of cells. -/
def Breakable (width : Nat) (text : List Char) : Prop :=
  ∀ line ∈ Text.pieces (· == '\n') text, Orderly width line

theorem ink_cellLines (width : Nat) (text : List Char) :
    ink (cellLines width text).flatten = ink (wrap .cut (width - 2) text).flatten := by
  rw [cellLines]
  induction wrap .cut (width - 2) text with
  | nil => rfl
  | cons line lines ih =>
      have padded : ink (' ' :: (pad (width - 2) line ++ [' '])) = ink line := by
        have blank : ink [' '] = [] := by decide
        rw [← List.singleton_append, Text.ink_append, Text.ink_append, blank, ink_pad,
          List.append_nil, List.nil_append]
      rw [List.map_cons, List.flatten_cons, List.flatten_cons, Text.ink_append, Text.ink_append,
        padded, ih]

theorem getD_append_replicate {α : Type} {list : List α} {height index : Nat} (other last : α)
    (low : list.length ≤ height) (inside : index < height) :
    (list ++ List.replicate (height - list.length) last).getD index other =
      list.getD index last := by
  by_cases here : index < list.length
  · rw [List.getD_append _ _ _ _ here, List.getD_eq_getElem _ _ here, List.getD_eq_getElem _ _ here]
  · rw [List.getD_append_right _ _ _ _ (by omega), List.getD_replicate _ (by omega),
      List.getD_eq_default _ _ (by omega)]

/-- The lines of cells can be read column by column. -/
theorem exists_columns {widths : List Nat} {texts : List (List Char)} {height : Nat}
    (breakable : List.Forall₂ (fun width text => Breakable (width - 2) text) widths texts)
    (low : ∀ lines ∈ List.zipWith cellLines widths texts, lines.length ≤ height) :
    ∃ columns, Seen height widths texts columns ∧ ∀ index < height,
      List.zipWith (fun width lines => lines.getD index (blanks width)) widths
        (List.zipWith cellLines widths texts) = columns.map (·.getD index []) := by
  induction breakable with
  | nil => exact ⟨[], .nil, fun _ _ => rfl⟩
  | @cons width text widths texts breakable _ ih =>
      rw [List.zipWith_cons_cons, List.forall_mem_cons] at low
      obtain ⟨columns, seen, same⟩ := ih low.2
      have nothing : ink (List.replicate (height - (cellLines width text).length)
          (blanks width)).flatten = [] := by
        refine Text.ink_eq_nil fun c found => ?_
        obtain ⟨line, member, inside⟩ := List.mem_flatten.mp found
        rw [List.eq_of_mem_replicate member] at inside
        exact isBlank_of_mem_blanks inside
      refine ⟨(cellLines width text ++
        List.replicate (height - (cellLines width text).length) (blanks width)) :: columns,
        .cons ?_ ?_ seen, fun index inside => ?_⟩
      · rw [List.length_append, List.length_replicate]
        exact Nat.add_sub_cancel' low.1
      · rw [List.flatten_append, Text.ink_append, nothing, List.append_nil, ink_cellLines,
          ink_wrap_cut breakable]
      · rw [List.zipWith_cons_cons, List.zipWith_cons_cons, same index inside, List.map_cons,
          getD_append_replicate _ _ low.1 inside]

theorem le_foldl_max {list : List Nat} (least : Nat) :
    least ≤ list.foldl max least ∧ ∀ number ∈ list, number ≤ list.foldl max least := by
  induction list generalizing least with
  | nil => exact ⟨Nat.le_refl _, nofun⟩
  | cons number list ih =>
      obtain ⟨first, later⟩ := ih (max least number)
      refine ⟨Nat.le_trans (Nat.le_max_left _ _) first, List.forall_mem_cons.mpr ⟨?_, later⟩⟩
      exact Nat.le_trans (Nat.le_max_right _ _) first

theorem rowLines_seen {widths : List Nat} {texts : List (List Char)} (edge middle : Char)
    (breakable : List.Forall₂ (fun width text => Breakable (width - 2) text) widths texts) :
    RowSeen edge middle widths texts (rowLines edge middle widths texts) := by
  have low : ∀ lines ∈ List.zipWith cellLines widths texts, lines.length ≤
      ((List.zipWith cellLines widths texts).map List.length).foldl max 1 := fun lines found =>
    (le_foldl_max 1).2 _ (List.mem_map_of_mem found)
  obtain ⟨columns, seen, same⟩ := exists_columns breakable low
  refine ⟨columns, ?_, ?_⟩ <;> rw [rowLines, List.length_map, List.length_range]
  · exact seen
  · refine List.map_congr_left fun index found => ?_
    rw [barred, ← same index (List.mem_range.mp found)]

/-! ## Widths -/

namespace Table

theorem length_takeFrom (width most excess count : Nat) (widths : List Nat) :
    (takeFrom width most excess count widths).length = widths.length := by
  induction widths generalizing excess count with
  | nil => rfl
  | cons first widths ih =>
      rw [takeFrom]
      split <;> exact congrArg (· + 1) (ih _ _)

theorem length_narrow (limit fuel : Nat) (widths : List Nat) :
    (narrow limit fuel widths).length = widths.length := by
  induction fuel generalizing widths with
  | zero => rfl
  | succ fuel ih =>
      rw [narrow]
      split
      · rfl
      · exact (ih _).trans (length_takeFrom ..)

theorem length_widths (table : Table) : table.widths.length = table.columns.length := by
  rw [widths, length_narrow, List.length_map]

/-! ## Lines -/

theorem foldl_max_replicate (count number : Nat) :
    (List.replicate count number).foldl max number = number := by
  induction count with
  | zero => rfl
  | succ count ih => rw [List.replicate_succ, List.foldl_cons, Nat.max_self, ih]

/-- The rows of a table whose columns are about the same things. -/
theorem rows_eq {α : Type} {table : Table} {things : List α} (cellsOf : List (α → List Char))
    (nonempty : cellsOf ≠ [])
    (columns : table.columns.map Column.entries = cellsOf.map fun cellOf => things.map cellOf) :
    table.rows = things.map fun thing => cellsOf.map (· thing) := by
  -- a column is as long as there are things, and there is a column
  have count : (table.columns.map (·.entries.length)).foldl max 0 = things.length := by
    have lengths : table.columns.map (·.entries.length) =
        List.replicate cellsOf.length things.length := by
      calc table.columns.map (·.entries.length)
          = (table.columns.map Column.entries).map List.length := List.map_map.symm
        _ = cellsOf.map fun _ => things.length := by
            rw [columns, List.map_map]
            exact List.map_congr_left fun cellOf _ => List.length_map cellOf
        _ = _ := List.map_const' ..
    obtain ⟨others, some⟩ := Nat.exists_eq_succ_of_ne_zero (List.length_pos_iff.mpr nonempty).ne'
    rw [lengths, some, List.replicate_succ, List.foldl_cons, Nat.zero_max, foldl_max_replicate]
  have row (index : Nat) : table.columns.map (fun column => column.entries.getD index []) =
      cellsOf.map fun cellOf => (things.map cellOf).getD index [] := by
    let entryAt (entries : List (List Char)) : List Char := entries.getD index []
    calc table.columns.map (fun column => entryAt column.entries)
        = (table.columns.map Column.entries).map entryAt := by
            rw [List.map_map]
            rfl
      _ = cellsOf.map fun cellOf => entryAt (things.map cellOf) := by
          rw [columns, List.map_map]
          rfl
  rw [rows, count]
  refine List.ext_getElem (by simp) fun index inside _ => ?_
  rw [List.length_map, List.length_range] at inside
  rw [List.getElem_map, List.getElem_map, List.getElem_range, row]
  refine List.map_congr_left fun cellOf _ => ?_
  rw [List.getD_eq_getElem _ _ (by rwa [List.length_map]), List.getElem_map]

/-- Lines among which rows of a table are seen, with the same lines between them. -/
def RowsSeen (widths : List Nat) (rows : List (List (List Char))) (lines : List Line) : Prop :=
  ∃ (above between below : List Line) (parts : List (List Line)),
    lines = above ++ (between.intercalate parts ++ below) ∧
      List.Forall₂ (RowSeen '│' '│' widths) rows parts

theorem lines_seen {table : Table}
    (breakable : ∀ row ∈ table.rows,
      List.Forall₂ (fun width text => Breakable (width - 2) text) table.widths row) :
    RowsSeen table.widths table.rows table.lines := by
  have seen : List.Forall₂ (RowSeen '│' '│' table.widths) table.rows
      (table.rows.map (rowLines '│' '│' table.widths)) := by
    rw [List.forall₂_map_right_iff, List.forall₂_same]
    exact fun row found => rowLines_seen '│' '│' (breakable row found)
  unfold lines
  extract_lets widths breadth between body
  refine ⟨centred ' ' breadth table.title :: rule '┏' '━' '┳' '┓' widths ::
    (rowLines '┃' '┃' widths (table.columns.map Column.header) ++ [rule '┡' '━' '╇' '┩' widths]),
    between, [rule '└' '─' '┴' '┘' widths], _, ?_, seen⟩
  rw [List.cons_append, List.cons_append, List.append_assoc]
  rfl

end Table

end SignatureLint.Console

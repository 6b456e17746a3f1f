import SignatureLint.Console.Layout

/-!
# Tables

A table has a title, a header and rows.  Columns are as wide as their longest
lines, up to a width that a column may have; if the table is too wide for the
console, the widest columns are made narrower.
-/

namespace SignatureLint.Console

structure Column where
  header : Line
  /-- The most cells that a line of the column may have. -/
  maximum : Option Nat
  entries : List (List Char)
  deriving Repr

/-- A table.  Rules may be drawn between its rows. -/
structure Table where
  title : Line
  columns : List Column
  ruled : Bool
  deriving Repr

def consoleWidth : Nat := 200

namespace Column

/-- The width of a column with a blank at each side, before it is made to fit. -/
def naturalWidth (limit : Nat) (column : Column) : Nat :=
  let longest := ((column.header :: column.entries).map longestLine).foldl max 0
  let width := min (longest + 2) limit
  match column.maximum with
  | none => width
  | some maximum => min width (maximum + 2)

end Column

namespace Table

/-! ## Widths -/

/-- A quotient, rounded; a half is rounded to an even number. -/
def roundedQuotient (number divisor : Nat) : Nat :=
  let quotient := number / divisor
  let twice := 2 * (number % divisor)
  if twice < divisor then quotient
  else if divisor < twice then quotient + 1
  else quotient + quotient % 2

/-- Take an excess from the widths that are as given, the same from each as far as that is possible,
and at most a number of cells from each.  The count is that of the widths to take from. -/
def takeFrom (width most : Nat) : (excess count : Nat) → List Nat → List Nat
  | _, _, [] => []
  | excess, count, first :: rest =>
      if first = width then
        let taken := min most (roundedQuotient excess count)
        (first - taken) :: takeFrom width most (excess - taken) (count - 1) rest
      else first :: takeFrom width most excess count rest

/-- Make the widest columns narrower until the widths fit.  Every step uses up some fuel; the excess
is enough. -/
def narrow (limit : Nat) : (fuel : Nat) → List Nat → List Nat
  | 0, widths => widths
  | fuel + 1, widths =>
      let total := widths.foldl (· + ·) 0
      if total ≤ limit then widths
      else
        let widest := widths.foldl max 0
        let second := (widths.filter (· ≠ widest)).foldl max 0
        let most := min (total - limit) (widest - second)
        narrow limit fuel (takeFrom widest most (total - limit) (widths.count widest) widths)

def widths (table : Table) : List Nat :=
  let limit := consoleWidth - (table.columns.length + 1)
  let natural := table.columns.map (Column.naturalWidth limit)
  narrow limit (natural.foldl (· + ·) 0) natural

/-! ## Lines -/

def rule (left filler middle right : Char) (widths : List Nat) : Line :=
  left :: ([middle].intercalate (widths.map fun width => List.replicate width filler) ++ [right])

/-- The lines of a cell, with a blank at each side. -/
def cellLines (width : Nat) (text : List Char) : List Line :=
  (wrap .cut (width - 2) text).map fun line => ' ' :: (pad (width - 2) line ++ [' '])

def rowLines (edge middle : Char) (widths : List Nat) (cells : List (List Char)) : List Line :=
  let columns := List.zipWith cellLines widths cells
  let height := (columns.map List.length).foldl max 1
  (List.range height).map fun index =>
    let parts := List.zipWith (fun width lines => lines.getD index (blanks width)) widths columns
    edge :: ([middle].intercalate parts ++ [edge])

def rows (table : Table) : List (List (List Char)) :=
  let count := (table.columns.map (·.entries.length)).foldl max 0
  (List.range count).map fun index => table.columns.map fun column => column.entries.getD index []

def lines (table : Table) : List Line :=
  let widths := table.widths
  let breadth := widths.foldl (· + ·) 0 + widths.length + 1
  let between := if table.ruled then [rule '├' '─' '┼' '┤' widths] else []
  let body := between.intercalate (table.rows.map (rowLines '│' '│' widths))
  centred ' ' breadth table.title :: rule '┏' '━' '┳' '┓' widths ::
    (rowLines '┃' '┃' widths (table.columns.map Column.header) ++
      rule '┡' '━' '╇' '┩' widths :: (body ++ [rule '└' '─' '┴' '┘' widths]))

end Table

/-- The lines of a text in a frame as wide as the console, with a title in its upper side. -/
def panel (title : Line) (text : List Char) : List Line :=
  let inner := consoleWidth - 4
  let side (line : Line) : Line := '│' :: ' ' :: (pad inner line ++ [' ', '│'])
  let top := '╭' :: '─' :: (centred '─' inner ([' '] ++ title ++ [' ']) ++ ['─', '╮'])
  let bottom := '╰' :: (List.replicate (consoleWidth - 2) '─' ++ ['╯'])
  top :: ((wrap .fold inner text).map side ++ [bottom])

end SignatureLint.Console

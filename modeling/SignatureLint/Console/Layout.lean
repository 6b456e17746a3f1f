import SignatureLint.Text.Search
import SignatureLint.Text.Table
import SignatureLint.Text.Width

/-!
# Layout of text

A text is broken into lines of a number of cells.  Words are put on a line as
long as they fit.  A word that is longer than a line is either folded or cut.
-/

namespace SignatureLint.Console

open Text (cells charCells)

abbrev Line := List Char

def blanks (count : Nat) : Line :=
  List.replicate count ' '

/-- What is done with a word that is longer than a line. -/
inductive LongWords where
  | fold
  /-- The line is cut, and an ellipsis shows it. -/
  | cut
  deriving DecidableEq, Repr

/-! ## Fitting -/

/-- The longest beginning of a text with at most a number of cells. -/
def takeCells : (count : Nat) → List Char → Line
  | _, [] => []
  | count, c :: rest =>
      if charCells c ≤ count then c :: takeCells (count - charCells c) rest else []

/-- A text with blanks at the end, up to a number of cells. -/
def pad (count : Nat) (text : Line) : Line :=
  text ++ blanks (count - cells text)

/-- A text cut or padded to a number of cells. -/
def fit (count : Nat) (text : Line) : Line :=
  pad count (takeCells count text)

/-- A text cut to a number of cells if it has more. -/
def shorten (long : LongWords) (count : Nat) (text : Line) : Line :=
  if cells text ≤ count then text
  else
    match long with
    | .fold => fit count text
    | .cut => fit (count - 1) text ++ ['…']

/-- Drop blanks at the end of a line as far as it has too many characters. -/
def dropExcess (count : Nat) (line : Line) : Line :=
  let trailing := line.length - (Text.trimEnd line).length
  line.take (line.length - min trailing (line.length - count))

/-! ## Breaking -/

/-- The first word of a text with the blanks around it; without a word, nothing. -/
def firstWord (text : List Char) : List Char :=
  let lead := text.takeWhile Text.isBlank
  let body := (text.drop lead.length).takeWhile (!Text.isBlank ·)
  let trail := (text.drop (lead.length + body.length)).takeWhile Text.isBlank
  if body.isEmpty then [] else lead ++ body ++ trail

/-- The words of a text, each with the blanks after it; the first one has also the blanks before
it. -/
def words : List Char → List (List Char)
  | [] => []
  | c :: rest =>
      match firstWord (c :: rest) with
      | [] => []
      | first :: more => (first :: more) :: words (rest.drop more.length)
termination_by text => text.length
decreasing_by simp only [List.length_drop, List.length_cons]; omega

/-- A text in pieces of at most a number of cells, after a piece in reverse order that has some
cells already. -/
def chopAfter (width : Nat) (line : Line) (filled : Nat) : List Char → List Line
  | [] => [line.reverse]
  | c :: rest =>
      if width < filled + charCells c then
        line.reverse :: chopAfter width [c] (charCells c) rest
      else chopAfter width (c :: line) (filled + charCells c) rest

/-- A text in pieces of at most a number of cells. -/
def chop (width : Nat) (text : List Char) : List Line :=
  chopAfter width [] 0 text

/-- The offset of a break, unless it is the beginning of the text. -/
def breakAt (offset : Nat) : List Nat :=
  if offset = 0 then [] else [offset]

/-- The offsets at which pieces begin. -/
def pieceStarts (start : Nat) : List Line → List Nat
  | [] => []
  | piece :: rest => breakAt start ++ pieceStarts (start + piece.length) rest

/-- The offsets at which lines begin, for words from an offset on and a line with some cells. -/
def breaks (long : LongWords) (width : Nat) (start filled : Nat) : List (List Char) → List Nat
  | [] => []
  | word :: rest =>
      let size := cells (Text.trimEnd word)
      let next := start + word.length
      if filled + size ≤ width then breaks long width next (filled + cells word) rest
      else if width < size then
        match long with
        | .fold =>
            let pieces := chop width word
            pieceStarts start pieces ++ breaks long width next (cells (pieces.getLastD [])) rest
        | .cut => breakAt start ++ breaks long width next (cells word) rest
      else if filled = 0 || start = 0 then breaks long width next filled rest
      else start :: breaks long width next (cells word) rest

/-- A text cut at offsets, the text beginning at an offset itself. -/
def cutAt (start : Nat) : List Nat → List Char → List Line
  | [], text => [text]
  | offset :: rest, text =>
      text.take (offset - start) :: cutAt offset rest (text.drop (offset - start))

/-- A text with blanks in place of tabulators, each up to the next multiple of eight cells. -/
def withoutTabs (column : Nat) : List Char → List Char
  | [] => []
  | c :: rest =>
      if c = '\t' then
        let next := (column / 8 + 1) * 8
        blanks (next - column) ++ withoutTabs next rest
      else c :: withoutTabs (column + charCells c) rest

/-- A line broken into lines of a number of cells. -/
def wrapLine (long : LongWords) (width : Nat) (text : List Char) : List Line :=
  let line := withoutTabs 0 text
  (cutAt 0 (breaks long width 0 0 (words line)) line).map fun part =>
    shorten long width (dropExcess width part)

/-- A text broken into lines of a number of cells. -/
def wrap (long : LongWords) (width : Nat) (text : List Char) : List Line :=
  (Text.pieces (· == '\n') text).flatMap (wrapLine long width)

/-- The lines of a text, whatever they end in; an empty line at the end does not count. -/
def measuredLines (text : List Char) : List Line :=
  Text.pieces (fun c => [10, 11, 12, 13, 0x1C, 0x1D, 0x1E, 0x85, 0x2028, 0x2029].contains c.toNat)
    text

def longestLine (text : List Char) : Nat :=
  ((measuredLines text).map cells).foldl max 0

/-- A text in the middle of a number of cells. -/
def centred (filler : Char) (width : Nat) (text : Line) : Line :=
  let excess := width - cells text
  List.replicate (excess / 2) filler ++ text ++ List.replicate (excess - excess / 2) filler

def ofLines (lines : List Line) : String :=
  String.ofList (lines.flatMap (· ++ ['\n']))

end SignatureLint.Console

/-!
# Tables over code points

A table is written as text: closed ranges `30-39 5F` for a set, entries `DF>53+53` for a map, in
ascending order with blanks between them and code points in hexadecimal.
-/

namespace SignatureLint.Text

/-- The value of a hexadecimal digit, either case; other characters count 0. -/
def hexDigitValue (c : Char) : Nat :=
  if c.isDigit then c.toNat - '0'.toNat
  else if 'A' ≤ c && c ≤ 'F' then c.toNat - 'A'.toNat + 10
  else if 'a' ≤ c && c ≤ 'f' then c.toNat - 'a'.toNat + 10
  else 0

/-- The number that a hexadecimal numeral denotes. -/
def hexValue (digits : List Char) : Nat :=
  digits.foldl (fun value c => value * 16 + hexDigitValue c) 0

/-- The pieces of a text between the characters that `cut` selects, empty pieces included. -/
def pieces (cut : Char → Bool) : List Char → List (List Char)
  | [] => [[]]
  | c :: rest =>
      if cut c then [] :: pieces cut rest
      else match pieces cut rest with
        | [] => [[c]]
        | first :: others => (c :: first) :: others

def tableEntries (text : String) : List (List Char) :=
  (pieces (fun c => c == ' ' || c == '\n') text.toList).filter (fun entry => !entry.isEmpty)

/-- The index of the first entry in `low ..< high` whose key, given by `key`, is above `code`;
`high` if there is none. -/
def searchAbove (key : Nat → Nat) (code low high : Nat) : Nat :=
  if low < high then
    let middle := (low + high) / 2
    if key middle ≤ code then searchAbove key code (middle + 1) high
    else searchAbove key code low middle
  else high
termination_by high - low

/-- A set of code points as ascending, disjoint, closed ranges. -/
structure RangeSet where
  /-- The first and the last code point of each range. -/
  ranges : Array (Nat × Nat)

namespace RangeSet

def ofText (text : String) : RangeSet :=
  ⟨((tableEntries text).map fun entry =>
    match pieces (· == '-') entry with
    | [first, last] => (hexValue first, hexValue last)
    | _ => (hexValue entry, hexValue entry)).toArray⟩

def contains (set : RangeSet) (code : Nat) : Bool :=
  let above := searchAbove (fun i => (set.ranges.getD i (0, 0)).1) code 0 set.ranges.size
  match above with
  | 0 => false
  | i + 1 => code ≤ (set.ranges.getD i (0, 0)).2

end RangeSet

/-- A map from code points to lists of code points, in ascending order of the keys. -/
structure CodeMap where
  /-- The key and the value of each entry. -/
  entries : Array (Nat × List Nat)

namespace CodeMap

def ofText (text : String) : CodeMap :=
  ⟨((tableEntries text).map fun entry =>
    match pieces (· == '>') entry with
    | [key, value] => (hexValue key, (pieces (· == '+') value).map hexValue)
    | _ => (hexValue entry, [])).toArray⟩

/-- The value of a key. -/
def find? (map : CodeMap) (code : Nat) : Option (List Nat) :=
  match searchAbove (fun i => (map.entries.getD i (0, [])).1) code 0 map.entries.size with
  | 0 => none
  | i + 1 =>
      let entry := map.entries.getD i (0, [])
      if entry.1 == code then some entry.2 else none

/-- The characters that a character maps to, itself if it has no entry. -/
def chars (map : CodeMap) (c : Char) : List Char :=
  match map.find? c.toNat with
  | some codes => codes.map Char.ofNat
  | none => [c]

end CodeMap

end SignatureLint.Text

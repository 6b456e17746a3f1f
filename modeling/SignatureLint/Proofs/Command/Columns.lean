import Mathlib
import SignatureLint.Report
import SignatureLint.Proofs.Text.Replacing

/-!
# Columns of reported problems

A column in characters counts the units of the line that begin before a column in octets.  It is
therefore the place of a character in a line of text, whatever else is in the line, and what ends
later on a line is reported no earlier.
-/

namespace SignatureLint

namespace Octets

theorem before_natCast (data : List UInt8) (stop : Nat) : before data stop = data.take stop := by
  rw [before, bound, if_neg (Int.not_lt.mpr (Int.natCast_nonneg stop)), Int.toNat_natCast,
    ← List.take_eq_take_min]

end Octets

namespace SourceLines

variable {lines : SourceLines} {path : String} {number : Int} {line : List UInt8}

theorem charColumn_eq (known : lines.line? path number = some line) (column : Nat) :
    lines.charColumn path number column =
      (Utf8.decodeLenient (line.take column)).length + 1 := by
  rw [charColumn, known, ← Octets.before_natCast]

theorem charColumn_of_reads (known : lines.line? path number = some line)
    {reading : List (List UInt8 × Char)} (reads : Utf8.Reads line reading) (column : Nat) :
    lines.charColumn path number column =
      Utf8.begunBefore column (reading.map (·.1)) + 1 := by
  rw [charColumn_eq known, reads.length_decodeLenient_take]

theorem charColumn_mono (lines : SourceLines) (path : String) (number : Int) {column column' : Nat}
    (h : column ≤ column') :
    lines.charColumn path number column ≤ lines.charColumn path number column' := by
  cases known : lines.line? path number with
  | none =>
      rw [charColumn, charColumn, known]
      exact Int.add_le_add_right (Int.ofNat_le.mpr h) 1
  | some line =>
      obtain ⟨reading, reads, -⟩ := Utf8.exists_reads line
      rw [charColumn_of_reads known reads, charColumn_of_reads known reads]
      exact Int.add_le_add_right (Int.ofNat_le.mpr (Utf8.begunBefore_mono _ h)) 1

theorem column_le_endColumn (config : Config) (lines : SourceLines) {diagnostic : Diagnostic}
    (oneLine : diagnostic.location.startLine = diagnostic.location.endLine)
    (first : 0 ≤ diagnostic.location.startColumn)
    (order : diagnostic.location.startColumn ≤ diagnostic.location.endColumn) :
    (ReportEntry.ofDiagnostic config lines diagnostic).column ≤
      (ReportEntry.ofDiagnostic config lines diagnostic).endColumn := by
  have last := Int.le_trans first order
  have later := lines.charColumn_mono diagnostic.location.path diagnostic.location.startLine
    (Int.toNat_le_toNat order)
  rw [Int.toNat_of_nonneg first, Int.toNat_of_nonneg last] at later
  simpa only [ReportEntry.ofDiagnostic, ← oneLine] using later

/-- The columns of a known line, whether it is text or not.  There is one way to read the line
leniently as units; a column in characters counts those that begin before the column in octets.  In
a line of text it is the place of the character that begins there.  It never decreases, it is never
beyond the column in octets, and what is reported on the line ends no earlier than it begins. -/
theorem charColumn_of_line (known : lines.line? path number = some line) :
    (∃ reading, Utf8.Reads line reading ∧
      ∀ reading', Utf8.Reads line reading' → reading' = reading) ∧
    (∀ reading, Utf8.Reads line reading →
      Utf8.decodeLenient line = reading.map (·.2) ∧
      ∀ column : Nat, lines.charColumn path number column =
        Utf8.begunBefore column (reading.map (·.1)) + 1) ∧
    (∀ front back, line = Utf8.encode (front ++ back) →
      lines.charColumn path number (Utf8.width front) = front.length + 1) ∧
    (∀ column column' : Nat, column ≤ column' →
      lines.charColumn path number column ≤ lines.charColumn path number column') ∧
    (∀ column : Nat, lines.charColumn path number column ≤ column + 1) ∧
    ∀ config diagnostic, diagnostic.location.path = path →
      diagnostic.location.startLine = number → diagnostic.location.endLine = number →
      0 ≤ diagnostic.location.startColumn →
      diagnostic.location.startColumn ≤ diagnostic.location.endColumn →
      (ReportEntry.ofDiagnostic config lines diagnostic).column ≤
        (ReportEntry.ofDiagnostic config lines diagnostic).endColumn := by
  obtain ⟨reading, reads, -⟩ := Utf8.exists_reads line
  refine ⟨⟨reading, reads, fun reading' reads' => reads'.unique reads⟩, ?_, ?_, ?_, ?_, ?_⟩
  · intro reading reads
    exact ⟨reads.decodeLenient_eq, charColumn_of_reads known reads⟩
  · rintro front back rfl
    rw [charColumn_eq known, Utf8.take_width_append, Utf8.decodeLenient_encode]
  · intro column column' h
    exact lines.charColumn_mono path number h
  · intro column
    rw [charColumn_of_reads known reads]
    exact Int.add_le_add_right (Int.ofNat_le.mpr (reads.begunBefore_le column)) 1
  · intro config diagnostic _ start stop first order
    exact column_le_endColumn config lines (start.trans stop.symm) first order

/-- A file of one line: `a`, `é`, the first two octets of a longer character, and `b`. -/
def brokenLines : SourceLines where
  files := [("f.py", #[[0x61, 0xC3, 0xA9, 0xE2, 0x82, 0x62]])]

/-- The columns of that line: inside of a unit they count it. -/
theorem charColumn_of_brokenLines :
    brokenLines.line? "f.py" 1 = some [0x61, 0xC3, 0xA9, 0xE2, 0x82, 0x62] ∧
    (∃ reading, Utf8.Reads [0x61, 0xC3, 0xA9, 0xE2, 0x82, 0x62] reading ∧
      reading.map (·.2) = ['a', 'é', '\uFFFD', 'b'] ∧
      ∀ column : Nat, brokenLines.charColumn "f.py" 1 column =
        Utf8.begunBefore column (reading.map (·.1)) + 1) ∧
    [0, 1, 2, 3, 4, 5, 6].map (brokenLines.charColumn "f.py" 1) = [1, 2, 3, 3, 4, 4, 5] := by
  have known : brokenLines.line? "f.py" 1 = some [0x61, 0xC3, 0xA9, 0xE2, 0x82, 0x62] := by
    decide
  obtain ⟨⟨reading, reads, -⟩, counted, -⟩ := charColumn_of_line known
  obtain ⟨shown, counts⟩ := counted reading reads
  refine ⟨known, ⟨reading, reads, ?_, counts⟩, ?_⟩
  · rw [← shown]
    cbv
  · cbv

end SourceLines

end SignatureLint

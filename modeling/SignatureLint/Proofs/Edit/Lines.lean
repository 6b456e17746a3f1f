import SignatureLint.Proofs.Edit.Placement
import SignatureLint.Proofs.Syntax.Segments

/-!
# Edits by line and column

Edits count lines at line feeds only.  In a text in which every carriage return has a
line feed behind it, that is how lines are counted in a program as well.
-/

namespace SignatureLint

open Lexer Text

namespace Utf8

theorem not_mem_encodeChar {c : Char} {b : UInt8} (low : b.toNat < 128)
    (other : c.toNat ≠ b.toNat) : b ∉ encodeChar c := by
  have octet {n : Nat} (small : n < 256) (different : n ≠ b.toNat) : b ≠ n.toUInt8 := by
    rintro rfl
    exact different (toNat_toUInt8 small).symm
  have valid : c.toNat < 0xD800 ∨ 0xDFFF < c.toNat ∧ c.toNat < 0x110000 := c.valid
  unfold encodeChar
  dsimp only
  split
  · rw [List.mem_singleton]
    exact octet (by omega) other
  · split
    · simp only [List.mem_cons, List.not_mem_nil, or_false, not_or]
      exact ⟨octet (by omega) (by omega), octet (by omega) (by omega)⟩
    · split
      · simp only [List.mem_cons, List.not_mem_nil, or_false, not_or]
        exact ⟨octet (by omega) (by omega), octet (by omega) (by omega),
          octet (by omega) (by omega)⟩
      · simp only [List.mem_cons, List.not_mem_nil, or_false, not_or]
        exact ⟨octet (by omega) (by omega), octet (by omega) (by omega),
          octet (by omega) (by omega), octet (by omega) (by omega)⟩

theorem feed_not_mem_encodeChar {c : Char} (plain : c ≠ '\n') : (10 : UInt8) ∉ encodeChar c :=
  not_mem_encodeChar (by decide) fun same => plain (Char.ext (UInt32.toNat_inj.mp same))

theorem return_not_mem_encodeChar {c : Char} (plain : c ≠ '\r') : (13 : UInt8) ∉ encodeChar c :=
  not_mem_encodeChar (by decide) fun same => plain (Char.ext (UInt32.toNat_inj.mp same))

end Utf8

/-! ## Line ends -/

namespace Text

/-- A text in which every carriage return has a line feed behind it. -/
def ReturnsFeed (text : List Char) : Prop :=
  ∀ before after, text = before ++ '\r' :: after → after.head? = some '\n'

theorem returnsFeed_cons {c : Char} {rest : List Char} :
    ReturnsFeed (c :: rest) ↔ (c = '\r' → rest.head? = some '\n') ∧ ReturnsFeed rest := by
  constructor
  · intro returns
    constructor
    · rintro rfl
      exact returns [] rest rfl
    · rintro before after rfl
      exact returns (c :: before) after rfl
  · rintro ⟨first, others⟩ before after whole
    cases before with
    | nil =>
        cases whole
        exact first rfl
    | cons d more =>
        cases whole
        exact others more after rfl

instance decidableReturnsFeed : DecidablePred ReturnsFeed
  | [] => isTrue fun before _ none => by cases before <;> cases none
  | _ :: rest =>
      have := decidableReturnsFeed rest
      decidable_of_iff _ returnsFeed_cons.symm

theorem ReturnsFeed.front {before after : List Char} (returns : ReturnsFeed (before ++ after))
    (clean : Clean before after) : ReturnsFeed before := by
  rintro front back rfl
  have next := returns front (back ++ after) (by rw [List.append_assoc, List.cons_append])
  cases back with
  | nil => exact absurd next (clean List.getLast?_concat)
  | cons c rest => exact next

theorem ReturnsFeed.back {before after : List Char} (returns : ReturnsFeed (before ++ after)) :
    ReturnsFeed after := by
  rintro front back rfl
  exact returns (before ++ front) back (List.append_assoc _ _ _).symm

theorem ReturnsFeed.append {before after : List Char} (returns : ReturnsFeed before)
    (returns' : ReturnsFeed after) : ReturnsFeed (before ++ after) := by
  induction before with
  | nil => exact returns'
  | cons c rest ih =>
      obtain ⟨first, others⟩ := returnsFeed_cons.mp returns
      refine returnsFeed_cons.mpr ⟨?_, ih others⟩
      intro same
      cases rest with
      | nil => cases first same
      | cons d more => exact first same

theorem ReturnsFeed.advance_normalizeNewlines {text : List Char} (returns : ReturnsFeed text)
    (place : Position) : advance place (normalizeNewlines text) = advance place text := by
  induction text using newlines_induction generalizing place with
  | nil => rw [normalizeNewlines_nil]
  | crlf rest ih =>
      rw [normalizeNewlines_crlf, advance_cons (by decide : '\r' ≠ '\n'), advance_feed,
        advance_feed,
        ih (returnsFeed_cons.mp (returnsFeed_cons.mp returns).2).2]
  | cr rest lone => exact absurd (returns [] rest rfl) lone
  | other c rest plain ih =>
      rw [normalizeNewlines_cons plain]
      by_cases feed : c = '\n'
      · subst feed
        rw [advance_feed, advance_feed, ih (returnsFeed_cons.mp returns).2]
      · rw [advance_cons feed, advance_cons feed, ih (returnsFeed_cons.mp returns).2]

end Text

/-! ## The lines of octets -/

namespace Edit

theorem lineStartsFrom_append {part : List UInt8} (plain : (10 : UInt8) ∉ part) (offset : Nat)
    (rest : List UInt8) :
    lineStartsFrom offset (part ++ rest) = lineStartsFrom (offset + part.length) rest := by
  induction part generalizing offset with
  | nil => rfl
  | cons b more ih =>
      obtain ⟨other, plain⟩ := List.ne_and_not_mem_of_not_mem_cons plain
      rw [List.cons_append, lineStartsFrom, if_neg fun same => other same.symm, ih plain,
        List.length_cons, Nat.add_assoc, Nat.add_comm 1]

/-- The line that a text leads to begins as many octets before the end of the text as the column
says. -/
theorem exists_lineStart (text : List Char) (back : List UInt8) (start line column : Nat) :
    line ≤ (advance ⟨line, column⟩ text).line ∧
      ∃ found,
        (start :: lineStartsFrom (start + column) (Utf8.encode text ++ back))[
          (advance ⟨line, column⟩ text).line - line]? = some found ∧
        found + (advance ⟨line, column⟩ text).column = start + column + Utf8.width text := by
  induction text generalizing start line column with
  | nil =>
      refine ⟨Nat.le_refl _, start, ?_, rfl⟩
      rw [advance_nil, Nat.sub_self, List.getElem?_cons_zero]
  | cons c rest ih =>
      -- a line feed begins a line behind itself; the octets of any other character begin none
      by_cases feed : c = '\n'
      · subst feed
        obtain ⟨later, found, here, same⟩ := ih (start + column + 1) (line + 1) 0
        rw [advance_feed, Utf8.width]
        refine ⟨Nat.le_of_succ_le later, found, ?_, ?_⟩
        · have index : (advance ⟨line + 1, 0⟩ rest).line - line =
              (advance ⟨line + 1, 0⟩ rest).line - (line + 1) + 1 := by omega
          rw [index, List.getElem?_cons_succ, ← here]
          rfl
        · rw [same, Nat.add_zero, Nat.add_assoc (start + column)]
          rfl
      · obtain ⟨later, found, here, same⟩ := ih start line (column + Utf8.charWidth c)
        rw [advance_cons feed, Utf8.width]
        refine ⟨later, found, ?_, ?_⟩
        · rw [Utf8.encode_cons, List.append_assoc,
            lineStartsFrom_append (Utf8.feed_not_mem_encodeChar feed), Utf8.length_encodeChar,
            Nat.add_assoc]
          exact here
        · rw [same]
          omega

theorem offset_reach (front : List Char) (back : List UInt8) (column : Int) :
    offset (lineStarts (Utf8.encode front ++ back)).toArray (reach front).line column =
      .ok (Utf8.width front - (reach front).column + column) := by
  obtain ⟨later, start, here, same⟩ := exists_lineStart front back 0 1 0
  rw [Nat.add_zero] at here
  rw [← reach] at later here same
  rw [offset_eq_ok_iff]
  refine ⟨by omega, start, ?_, by omega⟩
  have index : ((reach front).line - 1 : Int).toNat = (reach front).line - 1 := by omega
  rw [index, List.getElem?_toArray]
  exact here

variable {added : String} {edit : Edit} {text : List Char} {count : Nat}

/-- An edit that adds behind a word, and that ends where the front of a text ends in this word, is
placed there. -/
theorem Extends.exists_place (extend : edit.Extends added) (inside : count ≤ text.length)
    (line : edit.span.endLine = (reach (text.take count)).line)
    (column : edit.span.endColumn = (reach (text.take count)).column)
    (word : edit.expected.toList <:+ text.take count) :
    ∃ placed : Placed,
      place (Utf8.encode text) (lineStarts (Utf8.encode text)).toArray edit = .ok placed ∧
      placed.edit = edit ∧ placed.Fits added text ∧ placed.place text = count ∧
      placed.stop = Utf8.width (text.take count) := by
  obtain ⟨pre, front⟩ := word
  have whole : text = pre ++ edit.expected.toList ++ text.drop count := by
    rw [front, List.take_append_drop]
  have width : Utf8.width pre + Utf8.width edit.expected.toList = Utf8.width (text.take count) := by
    rw [← front, Utf8.width_append]
  -- the widths are octets, so the place may not be taken from the number of characters
  obtain ⟨placed, starts, stops, rfl⟩ : ∃ placed : Placed,
      placed.start + Utf8.width edit.expected.toList = Utf8.width (text.take count) ∧
      placed.stop = Utf8.width (text.take count) ∧ placed.edit = edit :=
    ⟨⟨Utf8.width (text.take count) - Utf8.width edit.expected.toList, _, edit⟩,
      Int.sub_add_cancel _ _, rfl, rfl⟩
  have at_ : placed.place text = count := by
    have parts := Source.splitOctets_width_append (text.take count) (text.drop count)
    rw [List.take_append_drop] at parts
    rw [Placed.place, stops, Int.toNat_natCast, parts, List.length_take, Nat.min_eq_left inside]
  refine ⟨placed, place_eq_ok_iff.mpr ⟨?_, ?_, ?_, rfl⟩, rfl, ?_, at_, stops⟩
  · conv => lhs; rw [extend.line, line, ← List.take_append_drop count text, Utf8.encode_append]
    rw [List.take_append_drop, offset_reach]
    have := extend.width
    refine congrArg Except.ok ?_
    omega
  · conv => lhs; rw [line, column, ← List.take_append_drop count text, Utf8.encode_append]
    rw [List.take_append_drop, offset_reach]
    refine congrArg Except.ok ?_
    omega
  · have start : placed.start = (Utf8.encode pre).length := by
      rw [Utf8.length_encode]
      omega
    have stop : placed.stop =
        (Utf8.encode pre ++ Utf8.encode placed.edit.expected.toList).length := by
      rw [stops, List.length_append, Utf8.length_encode, Utf8.length_encode, width]
    rw [start, stop, whole, Utf8.encode_append, Utf8.encode_append, Octets.slice_append,
      Utf8.decodeLenient_encode, String.ofList_toList]
  · exact
      { extend := extend
        inside := by rw [at_]; exact inside
        start := by omega
        stop := by rw [at_, stops]
        word := by
          rw [at_, ← front]
          exact List.suffix_append _ _ }

end Edit

end SignatureLint

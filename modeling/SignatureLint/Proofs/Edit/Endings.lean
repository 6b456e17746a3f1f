import SignatureLint.Proofs.Edit.Lines

/-!
# Line ends

The lines of a text that end in line feeds can be made to end in other ways.  Reading the text
turns them back, and as long as the lines end in line feeds at all, every place of the text keeps
its line and its column.
-/

namespace SignatureLint

open Lexer

/-- How the lines of a text end. -/
inductive Newline where
  | lf
  | crlf
  | cr
  deriving DecidableEq, Repr

namespace Newline

def characters : Newline → List Char
  | lf => ['\n']
  | crlf => ['\r', '\n']
  | cr => ['\r']

/-- What stands for a character of a text. -/
def replace (newline : Newline) (c : Char) : List Char :=
  if c = '\n' then newline.characters else [c]

/-- A text with other characters in place of its line feeds. -/
def turn (newline : Newline) (text : List Char) : List Char :=
  text.flatMap newline.replace

variable {newline : Newline} {text front rest : List Char} {c : Char}

@[simp] theorem turn_nil (newline : Newline) : newline.turn [] = [] := rfl

@[simp] theorem turn_append (newline : Newline) (front rest : List Char) :
    newline.turn (front ++ rest) = newline.turn front ++ newline.turn rest :=
  List.flatMap_append

theorem turn_feed (newline : Newline) (rest : List Char) :
    newline.turn ('\n' :: rest) = newline.characters ++ newline.turn rest := by
  rw [turn, List.flatMap_cons, replace, if_pos rfl, ← turn]

theorem turn_cons (plain : c ≠ '\n') : newline.turn (c :: rest) = c :: newline.turn rest := by
  rw [turn, List.flatMap_cons, replace, if_neg plain, ← turn, List.singleton_append]

theorem turn_of_not_mem (plain : '\n' ∉ text) : newline.turn text = text := by
  induction text with
  | nil => rfl
  | cons c rest ih =>
      obtain ⟨other, plain⟩ := List.ne_and_not_mem_of_not_mem_cons plain
      rw [turn_cons (Ne.symm other), ih plain]

theorem feed_not_mem_turn_cr (text : List Char) : '\n' ∉ cr.turn text := by
  intro found
  obtain ⟨c, -, found⟩ := List.mem_flatMap.mp found
  unfold replace at found
  split at found
  · cases List.mem_singleton.mp found
  · rename_i plain
    exact plain (List.mem_singleton.mp found).symm

theorem normalizeNewlines_turn (feeds : '\r' ∉ text) :
    Text.normalizeNewlines (newline.turn text) = text := by
  induction text with
  | nil => rw [turn_nil, Text.normalizeNewlines_nil]
  | cons c rest ih =>
      obtain ⟨other, feeds⟩ := List.ne_and_not_mem_of_not_mem_cons feeds
      by_cases feed : c = '\n'
      · rw [feed, turn_feed]
        cases newline with
        | lf =>
            rw [characters, List.singleton_append, Text.normalizeNewlines_cons (by decide),
              ih feeds]
        | crlf =>
            rw [characters, List.cons_append, List.singleton_append,
              Text.normalizeNewlines_crlf, ih feeds]
        | cr =>
            have lone : (cr.turn rest).head? ≠ some '\n' :=
              fun here => feed_not_mem_turn_cr rest (List.mem_of_mem_head? here)
            rw [characters, List.singleton_append, Text.normalizeNewlines_cr lone, ih feeds]
      · rw [turn_cons feed, Text.normalizeNewlines_cons (Ne.symm other), ih feeds]

theorem returnsFeed_turn (ends : newline ≠ .cr) (feeds : '\r' ∉ text) :
    Text.ReturnsFeed (newline.turn text) := by
  induction text with
  | nil =>
      rw [turn_nil]
      decide
  | cons c rest ih =>
      obtain ⟨other, feeds⟩ := List.ne_and_not_mem_of_not_mem_cons feeds
      by_cases feed : c = '\n'
      · rw [feed, turn_feed]
        refine Text.ReturnsFeed.append ?_ (ih feeds)
        cases newline with
        | lf => decide
        | crlf => decide
        | cr => exact absurd rfl ends
      · rw [turn_cons feed]
        exact Text.returnsFeed_cons.mpr ⟨fun same => absurd same.symm other, ih feeds⟩

theorem reach_turn (keeps : newline = .cr → '\n' ∉ text) (feeds : '\r' ∉ text) :
    reach (newline.turn text) = reach text := by
  by_cases ends : newline = .cr
  · rw [turn_of_not_mem (keeps ends)]
  · have same := (returnsFeed_turn ends feeds).advance_normalizeNewlines ⟨1, 0⟩
    rw [normalizeNewlines_turn feeds] at same
    exact same.symm

theorem replace_ne_nil (newline : Newline) (c : Char) : newline.replace c ≠ [] := by
  unfold replace
  split
  · cases newline <;> exact List.cons_ne_nil _ _
  · exact List.cons_ne_nil _ _

/-- The place in a turned text to which a place in the text comes. -/
abbrev placeIn (newline : Newline) (text : List Char) (place : Nat) : Nat :=
  Insertion.replaced newline.replace text place

theorem take_turn (newline : Newline) (text : List Char) (place : Nat) :
    (newline.turn text).take (newline.placeIn text place) = newline.turn (text.take place) := by
  have whole := newline.turn_append (text.take place) (text.drop place)
  rw [List.take_append_drop] at whole
  rw [whole]
  exact List.take_left

theorem drop_turn (newline : Newline) (text : List Char) (place : Nat) :
    (newline.turn text).drop (newline.placeIn text place) = newline.turn (text.drop place) := by
  have whole := newline.turn_append (text.take place) (text.drop place)
  rw [List.take_append_drop] at whole
  rw [whole]
  exact List.drop_left

theorem placeIn_take {newline : Newline} {text : List Char} {place stop : Nat}
    (order : place ≤ stop) :
    newline.placeIn (text.take stop) place = newline.placeIn text place := by
  rw [placeIn, placeIn, Insertion.replaced, Insertion.replaced, List.take_take,
    Nat.min_eq_left order]

theorem turn_insertAll (newline : Newline) {added : List Char} (plain : '\n' ∉ added)
    {places : List Nat} (text : List Char) (ascending : places.Pairwise (· < ·))
    (inside : ∀ place ∈ places, place ≤ text.length) :
    newline.turn (Insertion.insertAll added places text) =
      Insertion.insertAll added (places.map (newline.placeIn text)) (newline.turn text) := by
  have whole := Insertion.flatMap_insertAll newline.replace newline.replace_ne_nil added text
    ascending inside
  rw [turn, whole, ← turn, turn_of_not_mem plain]
  rfl

end Newline

/-! ## Lines -/

theorem line_reach_eq_one_iff {text : List Char} : (reach text).line = 1 ↔ '\n' ∉ text := by
  have later (line column : Nat) (text : List Char) :
      line ≤ (advance ⟨line, column⟩ text).line :=
    (Edit.exists_lineStart text [] 0 line column).1
  have stays (line column : Nat) :
      (advance ⟨line, column⟩ text).line = line ↔ '\n' ∉ text := by
    induction text generalizing line column with
    | nil => exact ⟨fun _ => List.not_mem_nil, fun _ => rfl⟩
    | cons c rest ih =>
        by_cases feed : c = '\n'
        · have below := later (line + 1) 0 rest
          rw [feed, advance_feed]
          constructor
          · intro same
            omega
          · exact fun none => absurd List.mem_cons_self none
        · rw [advance_cons feed, ih, List.mem_cons, not_or]
          exact (and_iff_right (Ne.symm feed)).symm
  exact stays 1 0

theorem lineStarts_of_not_mem {octets : List UInt8} (plain : (10 : UInt8) ∉ octets) :
    Edit.lineStarts octets = [0] := by
  have rest := Edit.lineStartsFrom_append plain 0 []
  rw [List.append_nil] at rest
  rw [Edit.lineStarts, rest]
  rfl

theorem lineStarts_encode_of_not_mem {text : List Char} (plain : '\n' ∉ text) :
    Edit.lineStarts (Utf8.encode text) = [0] := by
  apply lineStarts_of_not_mem
  intro found
  obtain ⟨c, here, octet⟩ := List.mem_flatMap.mp found
  exact Utf8.feed_not_mem_encodeChar (fun same => plain (same ▸ here)) octet

end SignatureLint

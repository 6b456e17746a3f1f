import SignatureLint.Proofs.Outcome
import SignatureLint.Proofs.Text.Words
import SignatureLint.Syntax.Lexer

/-!
# Where tokens stand

The lexer passes over a text from the front to the back without leaving anything
out.  Each token stands where its characters stand, tokens follow one another, and
a token that does more than shape lines ends in a character that is no blank.
-/

namespace SignatureLint.Lexer

/-- Characters that end in one that is no blank. -/
def Solid (chars : List Char) : Prop :=
  ∃ front last, chars = front ++ [last] ∧ Text.isBlank last = false

theorem Solid.of_forall {chars : List Char} (nonempty : chars ≠ [])
    (h : ∀ c ∈ chars, Text.isBlank c = false) : Solid chars :=
  ⟨chars.dropLast, chars.getLast nonempty, (List.dropLast_concat_getLast nonempty).symm,
    h _ (List.getLast_mem nonempty)⟩

theorem Solid.append {back : List Char} (solid : Solid back) (front : List Char) :
    Solid (front ++ back) := by
  obtain ⟨middle, last, rfl, visible⟩ := solid
  exact ⟨front ++ middle, last, (List.append_assoc ..).symm, visible⟩

/-- The place behind the characters at the front of a text. -/
def reach (read : List Char) : Position :=
  advance ⟨1, 0⟩ read

theorem advance_reach (read chars : List Char) :
    advance (reach read) chars = reach (read ++ chars) :=
  (List.foldl_append ..).symm

/-- Tokens that are laid out, one after the other, in the characters that were read. -/
inductive Laid : List Char → List Token → Prop where
  | start : Laid [] []
  | skip {read : List Char} {tokens : List Token} (chars : List Char) (laid : Laid read tokens) :
      Laid (read ++ chars) tokens
  | push {read : List Char} {tokens : List Token} (kind : TokenKind) (chars : List Char)
      (solid : kind.isLayout = true ∨ Solid chars) (laid : Laid read tokens) :
      Laid (read ++ chars) (tokens ++ [⟨kind, ⟨reach read, reach (read ++ chars)⟩⟩])

namespace State

/-- A state after some characters were read. -/
structure Holds (state : State) (read : List Char) : Prop where
  laid : Laid read state.tokens.toList
  position : state.position = reach read

variable {state : State} {read : List Char}

theorem holds_initial : initial.Holds [] :=
  ⟨.start, rfl⟩

theorem Holds.skip (holds : state.Holds read) (chars : List Char) :
    (state.skip chars).Holds (read ++ chars) :=
  ⟨holds.laid.skip chars, by rw [State.skip, holds.position, advance_reach]⟩

theorem Holds.push (holds : state.Holds read) (kind : TokenKind) (chars : List Char)
    (solid : kind.isLayout = true ∨ Solid chars) :
    (state.push kind chars).Holds (read ++ chars) := by
  have laid := holds.laid.push kind chars solid
  rw [← advance_reach, ← holds.position] at laid
  constructor
  · rw [State.push, Array.toList_push]
    exact laid
  · rw [State.push, holds.position, advance_reach]

theorem Holds.push_nil (holds : state.Holds read) {kind : TokenKind}
    (layout : kind.isLayout = true) : (state.push kind []).Holds read := by
  have pushed := holds.push kind [] (Or.inl layout)
  rwa [List.append_nil] at pushed

theorem Holds.of_eq (holds : state.Holds read) {state' : State}
    (tokens : state'.tokens = state.tokens) (position : state'.position = state.position) :
    state'.Holds read :=
  ⟨by rw [tokens]; exact holds.laid, by rw [position]; exact holds.position⟩

end State

/-! ## Line by line -/

variable {state next : State} {read text : List Char} {count : Nat}

theorem holds_closeBlocks (holds : state.Holds read) (column : Nat) (blocks : List (Nat × Nat)) :
    (closeBlocks state column blocks).Holds read := by
  induction blocks generalizing state with
  | nil => exact holds.of_eq rfl rfl
  | cons block outer ih =>
      obtain ⟨open', alt⟩ := block
      rw [closeBlocks]
      split
      · exact ih (holds.push_nil rfl)
      · exact holds.of_eq rfl rfl

theorem holds_indentTo (holds : state.Holds read) {column altColumn : Nat}
    (h : indentTo state column altColumn = .ok next) : next.Holds read := by
  unfold indentTo at h
  dsimp only at h
  split at h
  · split at h
    · cases h
      exact holds
    · cases h
  · split at h
    · split at h
      · cases h
      · cases h
        have opened : ({ state with indents := (column, altColumn) :: state.indents } : State).Holds
            read := holds.of_eq rfl rfl
        exact opened.push_nil rfl
    · split at h
      · cases h
        exact holds_closeBlocks holds _ _
      · cases h

theorem holds_beginLine (holds : state.Holds read)
    (h : beginLine state text = .ok (next, count)) : next.Holds (read ++ text.take count) := by
  obtain ⟨margin, -, h⟩ := Outcome.exists_of_bind_eq_ok h
  have after (blank : Bool) :
      ({ state.skip (text.take margin.count) with blankLine := blank } : State).Holds
        (read ++ text.take margin.count) := (holds.skip _).of_eq rfl rfl
  dsimp only at h
  split at h
  · cases h
    exact after _
  · split at h
    · obtain ⟨indented, step, h⟩ := Outcome.exists_of_bind_eq_ok h
      cases h
      exact holds_indentTo (after _) step
    · obtain ⟨indented, step, h⟩ := Outcome.exists_of_bind_eq_ok h
      cases h
      exact holds_indentTo (after _) step

theorem holds_lineEnd (holds : state.Holds read)
    (h : lineEnd state text = .ok (next, count)) :
    next.Holds (read ++ '\n' :: text.take count) := by
  have ended : State.Holds (if state.blankLine || !state.brackets.isEmpty then state.skip ['\n']
      else state.push .newline ['\n']) (read ++ ['\n']) := by
    split
    · exact holds.skip _
    · exact holds.push _ _ (Or.inl rfl)
  unfold lineEnd at h
  dsimp only at h
  rw [← List.singleton_append, ← List.append_assoc]
  split at h
  · exact holds_beginLine ended h
  · cases h
    rw [List.take_zero, List.append_nil]
    exact ended

/-! ## Numbers -/

theorem not_isBlank_of_ascii {c : Char} (low : 32 < c.toNat) (high : c.toNat < 128) :
    Text.isBlank c = false := by
  cases blank : Text.isBlank c with
  | false => rfl
  | true =>
      have above : ∀ code ∈ Text.blanksAboveAscii, 128 ≤ code := by decide
      rcases Text.code_of_isBlank blank with low' | high'
      · omega
      · have := above _ high'
        omega

/-- The front of a text of some length holds no blank. -/
def Visible (text : List Char) (count : Nat) : Prop :=
  ∀ c ∈ text.take count, Text.isBlank c = false

theorem visible_zero (text : List Char) : Visible text 0 :=
  fun _ found => absurd found List.not_mem_nil

theorem Visible.cons {c : Char} (visible : Text.isBlank c = false) {rest : List Char} {count : Nat}
    (h : Visible rest count) : Visible (c :: rest) (count + 1) := by
  rw [Visible, List.take_succ_cons]
  exact List.forall_mem_cons.mpr ⟨visible, h⟩

theorem Visible.add {text : List Char} {first second : Nat} (h : Visible text first)
    (h' : Visible (text.drop first) second) : Visible text (first + second) := by
  rw [Visible, List.take_add]
  intro c found
  rcases List.mem_append.mp found with found | found
  · exact h c found
  · exact h' c found

theorem not_isBlank_of_either {c first second : Char} (h : (c == first || c == second) = true)
    (visible : Text.isBlank first = false) (visible' : Text.isBlank second = false) :
    Text.isBlank c = false := by
  rcases Bool.or_eq_true_iff.mp h with found | found
  · rw [eq_of_beq found]
    exact visible
  · rw [eq_of_beq found]
    exact visible'

theorem not_isBlank_of_isDigit {c : Char} (h : NumberLiteral.isDigit c = true) :
    Text.isBlank c = false := by
  simp only [NumberLiteral.isDigit, Char.isDigit, Bool.and_eq_true, decide_eq_true_eq, ge_iff_le,
    UInt32.le_iff_toNat_le] at h
  change 48 ≤ c.toNat ∧ c.toNat ≤ 57 at h
  exact not_isBlank_of_ascii (by omega) (by omega)

theorem not_isBlank_of_isHexDigit {c : Char} (h : NumberLiteral.isHexDigit c = true) :
    Text.isBlank c = false := by
  simp only [NumberLiteral.isHexDigit, Char.isDigit, Bool.or_eq_true, Bool.and_eq_true,
    decide_eq_true_eq, ge_iff_le, UInt32.le_iff_toNat_le, Char.le_def] at h
  change ((48 ≤ c.toNat ∧ c.toNat ≤ 57) ∨ (97 ≤ c.toNat ∧ c.toNat ≤ 102)) ∨
    (65 ≤ c.toNat ∧ c.toNat ≤ 70) at h
  exact not_isBlank_of_ascii (by omega) (by omega)

theorem visible_digitRun {isDigit : Char → Bool}
    (digit : ∀ c, isDigit c = true → Text.isBlank c = false) {text digits : List Char}
    {count : Nat} (h : NumberLiteral.digitRun? isDigit text = some (digits, count)) :
    Visible text count := by
  fun_induction NumberLiteral.digitRun? isDigit text generalizing digits count with
  | case1 =>
      cases h
      exact visible_zero _
  | case2 => cases h
  | case3 c rest isDigit ih =>
      obtain ⟨⟨digits', count'⟩, found, h⟩ := Option.map_eq_some_iff.mp h
      cases h
      exact ((ih found).cons (digit c isDigit)).cons (by decide)
  | case4 => cases h
  | case5 c rest _ _ isDigit ih =>
      obtain ⟨⟨digits', count'⟩, found, h⟩ := Option.map_eq_some_iff.mp h
      cases h
      exact (ih found).cons (digit c isDigit)
  | case6 =>
      cases h
      exact visible_zero _

theorem digitRun_pos {isDigit : Char → Bool} {c : Char} (digit : isDigit c = true)
    {rest digits : List Char} {count : Nat}
    (h : NumberLiteral.digitRun? isDigit (c :: rest) = some (digits, count)) : 0 < count := by
  unfold NumberLiteral.digitRun? at h
  split at h
  · rename_i absent
    cases absent
  · cases h
  · split at h
    · obtain ⟨_, -, h⟩ := Option.map_eq_some_iff.mp h
      cases h
      exact Nat.succ_pos _
    · cases h
  · rename_i same
    cases same
    rw [if_pos digit] at h
    obtain ⟨_, -, h⟩ := Option.map_eq_some_iff.mp h
    cases h
    exact Nat.succ_pos _

theorem visible_fraction {text digits : List Char} {count : Nat}
    (h : NumberLiteral.fraction? text = some (digits, count)) : Visible text count := by
  unfold NumberLiteral.fraction? at h
  split at h
  · split at h
    · obtain ⟨⟨digits', count'⟩, found, h⟩ := Option.map_eq_some_iff.mp h
      cases h
      exact (visible_digitRun (fun _ => not_isBlank_of_isDigit) found).cons (by decide)
    · cases h
      exact (visible_zero _).cons (by decide)
  · cases h
    exact (visible_zero _).cons (by decide)
  · cases h
    exact visible_zero _

theorem fraction_pos {rest digits : List Char} {count : Nat}
    (h : NumberLiteral.fraction? ('.' :: rest) = some (digits, count)) : 0 < count := by
  unfold NumberLiteral.fraction? at h
  split at h
  · split at h
    · obtain ⟨_, -, h⟩ := Option.map_eq_some_iff.mp h
      cases h
      exact Nat.succ_pos _
    · cases h
      exact Nat.succ_pos _
  · cases h
    exact Nat.succ_pos _
  · rename_i other _
    cases rest with
    | nil => exact absurd rfl ‹_›
    | cons d rest => exact absurd rfl (other d rest)

theorem visible_exponentDigits {negative : Bool} {signed count : Nat} {digits : List Char}
    {value : Int} (h : NumberLiteral.exponentDigits? negative signed digits = some (value, count)) :
    count = 0 ∨ ∃ more, count = more + signed + 1 ∧ Visible digits more := by
  unfold NumberLiteral.exponentDigits? at h
  split at h
  · split at h
    · obtain ⟨⟨run, more⟩, found, h⟩ := Option.bind_eq_some_iff.mp h
      cases h
      exact Or.inr ⟨more, rfl, visible_digitRun (fun _ => not_isBlank_of_isDigit) found⟩
    · split at h
      · cases h
      · cases h
        exact Or.inl rfl
  · split at h
    · cases h
    · cases h
      exact Or.inl rfl

theorem visible_exponent {text : List Char} {value : Int} {count : Nat}
    (h : NumberLiteral.exponent? text = some (value, count)) : Visible text count := by
  unfold NumberLiteral.exponent? at h
  split at h
  · split at h
    · cases h
      exact visible_zero _
    · rename_i e rest other
      have marked : (e == 'e' || e == 'E') = true := by
        rw [bne, bne, ← Bool.not_or, Bool.not_eq_true', Bool.not_eq_false] at other
        exact other
      have visible := not_isBlank_of_either marked (by decide) (by decide)
      split at h
      · rcases visible_exponentDigits h with rfl | ⟨more, rfl, digits⟩
        · exact visible_zero _
        · exact (digits.cons (c := '-') (by decide)).cons visible
      · rcases visible_exponentDigits h with rfl | ⟨more, rfl, digits⟩
        · exact visible_zero _
        · exact (digits.cons (c := '+') (by decide)).cons visible
      · rcases visible_exponentDigits h with rfl | ⟨more, rfl, digits⟩
        · exact visible_zero _
        · exact digits.cons visible
  · cases h
    exact visible_zero _

theorem visible_radix {base : Nat} {isDigit : Char → Bool}
    (digit : ∀ c, isDigit c = true → Text.isBlank c = false) {rest : List Char} {value : Constant}
    {count : Nat} (h : NumberLiteral.radix? base isDigit rest = some (value, count)) :
    ∃ more, count = more + 2 ∧ Visible rest more := by
  unfold NumberLiteral.radix? at h
  obtain ⟨⟨digits, more⟩, found, h⟩ := Option.bind_eq_some_iff.mp h
  dsimp only at h
  split at h
  · cases h
  · cases h
    exact ⟨more, rfl, visible_digitRun digit found⟩

theorem count_of_unmarked {whole : List Char} {isReal : Bool} {real : Binary64} {count more : Nat}
    {value : Constant}
    (h : NumberLiteral.unmarked? whole isReal real count = some (value, more)) : more = count := by
  unfold NumberLiteral.unmarked? at h
  dsimp only at h
  split at h
  · cases h
    rfl
  · split at h
    · cases h
    · cases h
      rfl

/-- A decimal number that begins with a digit or a point holds no blank and is not empty. -/
theorem visible_decimal {c : Char} {rest : List Char} {value : Constant} {count : Nat}
    (begins : NumberLiteral.isDigit c = true ∨ c = '.')
    (h : NumberLiteral.decimal? (c :: rest) = some (value, count)) :
    0 < count ∧ Visible (c :: rest) count := by
  unfold NumberLiteral.decimal? at h
  obtain ⟨⟨whole, wholeCount⟩, first, h⟩ := Option.bind_eq_some_iff.mp h
  obtain ⟨⟨fraction, fractionCount⟩, second, h⟩ := Option.bind_eq_some_iff.mp h
  obtain ⟨⟨exponent, exponentCount⟩, third, h⟩ := Option.bind_eq_some_iff.mp h
  dsimp only at second third h
  have visible : Visible (c :: rest) (wholeCount + fractionCount + exponentCount) := by
    apply Visible.add
    · exact (visible_digitRun (fun _ => not_isBlank_of_isDigit) first).add (visible_fraction second)
    · rw [← List.drop_drop]
      exact visible_exponent third
  have positive : 0 < wholeCount + fractionCount + exponentCount := by
    rcases begins with digit | rfl
    · have := digitRun_pos digit first
      omega
    · have : wholeCount = 0 := by
        cases first
        rfl
      subst this
      have := fraction_pos second
      omega
  -- behind the digits there may be the letter of an imaginary number, one character more
  split at h
  · rename_i mark more behind
    split at h
    · rename_i marked
      split at h
      · cases h
        have visible' := not_isBlank_of_either marked (by decide) (by decide)
        refine ⟨Nat.succ_pos _, visible.add ?_⟩
        rw [← List.drop_drop, ← List.drop_drop, behind]
        exact (visible_zero more).cons visible'
      · cases h
    · split at h
      · rw [count_of_unmarked h]
        exact ⟨positive, visible⟩
      · cases h
  · rw [count_of_unmarked h]
    exact ⟨positive, visible⟩

/-- A number that begins with a digit or a point holds no blank and is not empty. -/
theorem visible_scan {c : Char} {rest : List Char} {value : Constant} {count : Nat}
    (begins : NumberLiteral.isDigit c = true ∨ c = '.')
    (h : NumberLiteral.scan? (c :: rest) = some (value, count)) :
    0 < count ∧ Visible (c :: rest) count := by
  unfold NumberLiteral.scan? at h
  split at h
  · rename_i mark rest same
    cases same
    have radix {base : Nat} {isDigit : Char → Bool}
        (digit : ∀ c, isDigit c = true → Text.isBlank c = false)
        (visible : Text.isBlank mark = false)
        (h : NumberLiteral.radix? base isDigit rest = some (value, count)) :
        0 < count ∧ Visible ('0' :: mark :: rest) count := by
      obtain ⟨more, rfl, digits⟩ := visible_radix digit h
      exact ⟨Nat.succ_pos _, (digits.cons visible).cons (by decide)⟩
    split at h
    · rename_i marked
      exact radix (fun _ => not_isBlank_of_isHexDigit)
        (not_isBlank_of_either marked (by decide) (by decide)) h
    · split at h
      · rename_i marked
        refine radix (fun d digit => ?_) (not_isBlank_of_either marked (by decide) (by decide)) h
        simp only [Bool.and_eq_true, decide_eq_true_eq, Char.le_def,
          UInt32.le_iff_toNat_le] at digit
        change 48 ≤ d.toNat ∧ d.toNat ≤ 55 at digit
        exact not_isBlank_of_ascii (by omega) (by omega)
      · split at h
        · rename_i marked
          exact radix (fun d digit => not_isBlank_of_either digit (by decide) (by decide))
            (not_isBlank_of_either marked (by decide) (by decide)) h
        · exact visible_decimal begins h
  · exact visible_decimal begins h

/-! ## Texts -/

theorem take_cons_ends {text : List Char} {quote : Char} {count : Nat} (c : Char)
    (h : ∃ front, text.take count = front ++ [quote]) :
    ∃ front, (c :: text).take (count + 1) = front ++ [quote] := by
  obtain ⟨front, taken⟩ := h
  exact ⟨c :: front, by rw [List.take_succ_cons, taken, List.cons_append]⟩

theorem shortBody_ends {quote : Char} {text body : List Char} {count : Nat}
    (h : shortBody? quote text = some (body, count)) :
    ∃ front, text.take count = front ++ [quote] := by
  fun_induction shortBody? quote text generalizing body count with
  | case1 => cases h
  | case2 => cases h
  | case3 c rest ih =>
      obtain ⟨⟨body', count'⟩, found, h⟩ := Option.map_eq_some_iff.mp h
      cases h
      exact take_cons_ends _ (take_cons_ends c (ih found))
  | case4 c rest _ _ same =>
      cases h
      exact ⟨[], by rw [eq_of_beq same]; rfl⟩
  | case5 => cases h
  | case6 c rest _ _ _ _ ih =>
      obtain ⟨⟨body', count'⟩, found, h⟩ := Option.map_eq_some_iff.mp h
      cases h
      exact take_cons_ends c (ih found)

theorem longBody_ends {quote : Char} {text body : List Char} {count : Nat}
    (h : longBody? quote text = some (body, count)) :
    ∃ front, text.take count = front ++ [quote] := by
  fun_induction longBody? quote text generalizing body count with
  | case1 => cases h
  | case2 => cases h
  | case3 c rest ih =>
      obtain ⟨⟨body', count'⟩, found, h⟩ := Option.map_eq_some_iff.mp h
      cases h
      exact take_cons_ends _ (take_cons_ends c (ih found))
  | case4 c rest _ _ same =>
      cases h
      obtain ⟨first, others⟩ := Bool.and_eq_true_iff.mp same
      exact ⟨[c, quote], by rw [List.take_succ_cons, eq_of_beq others]; rfl⟩
  | case5 c rest _ _ _ ih =>
      obtain ⟨⟨body', count'⟩, found, h⟩ := Option.map_eq_some_iff.mp h
      cases h
      exact take_cons_ends c (ih found)

theorem take_add_ends {text : List Char} {quote : Char} {first second : Nat}
    (h : ∃ front, (text.drop first).take second = front ++ [quote]) :
    ∃ front, text.take (first + second) = front ++ [quote] := by
  obtain ⟨front, taken⟩ := h
  exact ⟨text.take first ++ front, by rw [List.take_add, taken, List.append_assoc]⟩

theorem string_ends {marks text : List Char} {quote : Char} {literal : StringToken} {count : Nat}
    (h : string? marks quote (text.drop marks.length) = some (literal, count)) :
    ∃ front, text.take count = front ++ [quote] := by
  unfold string? at h
  dsimp only at h
  split at h
  · obtain ⟨⟨body, more⟩, found, h⟩ := Option.bind_eq_some_iff.mp h
    cases h
    obtain ⟨⟨body', count'⟩, long, found⟩ := Option.map_eq_some_iff.mp found
    cases found
    rw [Nat.add_comm, Nat.add_comm count']
    exact take_add_ends (take_add_ends (longBody_ends long))
  · obtain ⟨⟨body, more⟩, found, h⟩ := Option.bind_eq_some_iff.mp h
    cases h
    obtain ⟨⟨body', count'⟩, short, found⟩ := Option.map_eq_some_iff.mp found
    cases found
    rw [Nat.add_comm, Nat.add_comm count']
    exact take_add_ends (take_add_ends (shortBody_ends short))

/-- A quote is no blank. -/
theorem not_isBlank_of_stringPrefix {text marks : List Char} {quote : Char}
    (h : stringPrefix? text = some (marks, quote)) : Text.isBlank quote = false := by
  have quoted {c : Char} (h : (c == '"' || c == '\x27') = true) : Text.isBlank c = false :=
    not_isBlank_of_either h (by decide) (by decide)
  unfold stringPrefix? at h
  split at h
  · split at h
    · cases h
      exact quoted ‹_›
    · split at h
      · split at h
        · cases h
          exact quoted ‹_›
        · cases h
      · split at h
        · dsimp only at h
          split at h
          · cases h
            exact quoted ‹_›
          · cases h
        · cases h
  · split at h
    · cases h
      exact quoted ‹_›
    · split at h
      · rename_i both
        cases h
        exact quoted (Bool.and_eq_true_iff.mp both).1
      · cases h
  · split at h
    · cases h
      exact quoted ‹_›
    · cases h
  · cases h

/-! ## Names and symbols -/

theorem holds_push_take (holds : state.Holds read) (kind : TokenKind) {c : Char} {rest : List Char}
    {count : Nat} (solid : Solid ((c :: rest).take count)) :
    (state.push kind ((c :: rest).take count)).Holds (read ++ c :: rest.take (count - 1)) := by
  have pushed := holds.push kind _ (Or.inr solid)
  cases count with
  | zero =>
      obtain ⟨front, last, empty, -⟩ := solid
      cases front <;> cases empty
  | succ count => rwa [List.take_succ_cons] at pushed

theorem holds_push_prefix (holds : state.Holds read) (kind : TokenKind) {c : Char}
    {rest chars : List Char} (front : chars <+: c :: rest) (solid : Solid chars) :
    (state.push kind chars).Holds (read ++ c :: rest.take (chars.length - 1)) := by
  have taken : chars = (c :: rest).take chars.length := List.prefix_iff_eq_take.mp front
  rw [taken] at solid
  have pushed := holds_push_take holds kind solid
  rwa [← taken] at pushed

/-- A name reads its characters. -/
theorem holds_word (holds : state.Holds read) {c : Char} {rest : List Char}
    (name : isNameChar c = true) (h : word state (c :: rest) = .ok (next, count)) :
    next.Holds (read ++ c :: rest.take count) := by
  have front : (c :: rest).takeWhile isNameChar <+: c :: rest := List.takeWhile_prefix _
  have nonempty : (c :: rest).takeWhile isNameChar ≠ [] := by
    rw [List.takeWhile_cons_of_pos name]
    exact List.cons_ne_nil _ _
  unfold word at h
  dsimp only at h
  -- a word in ASCII is taken as it is, any other one has to be an identifier
  split at h
  · rename_i ascii
    cases h
    apply holds_push_prefix holds _ front
    apply Solid.of_forall nonempty
    intro d found
    have low := of_decide_eq_true (List.all_eq_true.mp ascii d found)
    have letter := List.all_eq_true.mp List.all_takeWhile d found
    rcases Bool.or_eq_true_iff.mp letter with letter | high
    · exact not_isBlank_of_ascii (Text.lt_code_of_isAsciiWord letter) low
    · exact absurd low (Nat.not_lt.mpr (of_decide_eq_true high))
  · split at h
    · rename_i identifier
      cases h
      apply holds_push_prefix holds _ front
      apply Solid.of_forall nonempty
      obtain ⟨first, others, spelled⟩ := List.exists_cons_of_ne_nil nonempty
      rw [spelled, Text.isIdentifier, Bool.and_eq_true] at identifier
      rw [spelled]
      exact List.forall_mem_cons.mpr ⟨Text.not_isBlank_of_isIdentifierStart identifier.1,
        fun d found =>
          Text.not_isBlank_of_isIdentifierPart (List.all_eq_true.mp identifier.2 d found)⟩
    · cases h

theorem solid_of_mem_operators {op : List Char} (h : op ∈ operators) : Solid op := by
  have visible : ∀ op ∈ operators, op ≠ [] ∧ op.all (!Text.isBlank ·) = true := by decide
  obtain ⟨nonempty, visible⟩ := visible op h
  apply Solid.of_forall nonempty
  intro c found
  exact (Bool.not_eq_true' _).mp (List.all_eq_true.mp visible c found)

theorem holds_bracket (holds : state.Holds read) {c : Char} (h : bracket state c = .ok next) :
    next.Holds read := by
  unfold bracket at h
  split at h
  · split at h
    · cases h
    · cases h
      exact holds.of_eq rfl rfl
  · split at h
    · split at h
      · cases h
      · split at h
        · cases h
          exact holds.of_eq rfl rfl
        · cases h
    · cases h
      exact holds

theorem holds_operator (holds : state.Holds read) {c : Char} {rest : List Char}
    (h : operator state (c :: rest) = .ok (next, count)) :
    next.Holds (read ++ c :: rest.take count) := by
  unfold operator at h
  split at h
  · cases h
  · rename_i op found
    have solid := solid_of_mem_operators (List.mem_of_find?_eq_some found)
    have front : op <+: c :: rest := List.isPrefixOf_iff_prefix.mp (List.find?_some found :)
    split at h
    · obtain ⟨tracked, step, h⟩ := Outcome.exists_of_bind_eq_ok h
      cases h
      exact holds_push_prefix (holds_bracket holds step) _ front solid
    · cases h
      exact holds_push_prefix holds _ front solid

/-! ## Whole texts -/

theorem solid_of_scan {c : Char} {rest : List Char} {value : Constant} {fraction : Bool}
    (begins : (NumberLiteral.isDigit c || (c == '.' && fraction)) = true)
    (scanned : NumberLiteral.scan? (c :: rest) = some (value, count)) :
    Solid ((c :: rest).take count) := by
  have begins : NumberLiteral.isDigit c = true ∨ c = '.' := by
    rcases Bool.or_eq_true_iff.mp begins with digit | point
    · exact Or.inl digit
    · exact Or.inr (eq_of_beq (Bool.and_eq_true_iff.mp point).1)
  obtain ⟨positive, visible⟩ := visible_scan begins scanned
  refine Solid.of_forall ?_ visible
  intro empty
  rcases List.take_eq_nil_iff.mp empty with none | none
  · omega
  · cases none

/-- One lexeme reads its characters. -/
theorem holds_step (holds : state.Holds read) {c : Char} {rest : List Char}
    (h : step state c rest = .ok (next, count)) : next.Holds (read ++ c :: rest.take count) := by
  -- the branches of a step in order: blanks, comments, line ends, continuations, numbers, texts,
  -- and last words and operators
  unfold step at h
  split at h
  · cases h
    exact holds.skip [c]
  split at h
  · cases h
    have comment : rest.takeWhile (· != '\n') =
        rest.take (rest.takeWhile (· != '\n')).length :=
      List.prefix_iff_eq_take.mp (List.takeWhile_prefix _)
    rw [← comment]
    exact holds.skip _
  split at h
  · rename_i feed
    rw [eq_of_beq feed]
    exact holds_lineEnd holds h
  split at h
  · split at h
    · rename_i backslash _ _ _
      cases h
      rw [eq_of_beq backslash]
      exact holds.skip ['\\', '\n']
    · cases h
  split at h
  · rename_i begins
    split at h
    · cases h
    · rename_i value count scanned
      cases h
      exact holds_push_take holds _ (solid_of_scan begins scanned)
  split at h
  · rename_i marks quote marked
    split at h
    · cases h
    · rename_i literal count found
      cases h
      obtain ⟨front, taken⟩ := string_ends found
      exact holds_push_take holds _ ⟨front, quote, taken, not_isBlank_of_stringPrefix marked⟩
  · split at h
    · exact holds_word holds ‹_› h
    · exact holds_operator holds h

theorem holds_run (holds : state.Holds read) (h : run state text = .ok next) :
    next.Holds (read ++ text) := by
  fun_induction run state text generalizing read with
  | case1 state =>
      cases h
      rwa [List.append_nil]
  | case2 => cases h
  | case3 state c rest after count found ih =>
      have all := ih (holds_step holds found) h
      rwa [List.append_assoc, List.cons_append, List.take_append_drop] at all

theorem laid_tokens {tokens : Array Token} (h : Lexer.tokens text = .ok tokens) :
    Laid text tokens.toList ∧ ∃ last, tokens.back? = some last ∧ last.kind.isLayout = true := by
  unfold Lexer.tokens at h
  obtain ⟨⟨first, count⟩, begun, h⟩ := Outcome.exists_of_bind_eq_ok h
  obtain ⟨last, done, h⟩ := Outcome.exists_of_bind_eq_ok h
  dsimp only at done h
  split at h
  · cases h
  · cases h
    have all := holds_run (holds_beginLine State.holds_initial begun) done
    rw [List.nil_append, List.take_append_drop] at all
    refine ⟨(all.push_nil rfl).laid, _, Array.back?_push .., rfl⟩

/-! ## Cuts -/

/-- A token that stands in a text between two of its characters. -/
structure Cut (text : List Char) (token : Token) (cut : Nat × Nat) : Prop where
  forward : cut.1 ≤ cut.2
  inside : cut.2 ≤ text.length
  range : token.range = ⟨reach (text.take cut.1), reach (text.take cut.2)⟩
  solid : token.kind.isLayout = true ∨ Solid ((text.take cut.2).drop cut.1)

theorem Cut.append {token : Token} {cut : Nat × Nat} (h : Cut text token cut) (more : List Char) :
    Cut (text ++ more) token cut := by
  have last : (text ++ more).take cut.2 = text.take cut.2 :=
    List.take_append_of_le_length h.inside
  have first : (text ++ more).take cut.1 = text.take cut.1 :=
    List.take_append_of_le_length (Nat.le_trans h.forward h.inside)
  exact
    { forward := h.forward
      inside := by
        rw [List.length_append]
        exact Nat.le_trans h.inside (Nat.le_add_right _ _)
      range := by rw [first, last]; exact h.range
      solid := by rw [last]; exact h.solid }

/-- Tokens that are laid out in a text stand in it one after the other. -/
theorem Laid.exists_cuts {tokens : List Token} (laid : Laid text tokens) :
    ∃ cuts, List.Forall₂ (Cut text) tokens cuts ∧
      (cuts.Pairwise fun first second => first.2 ≤ second.1) ∧
      ∀ cut ∈ cuts, cut.2 ≤ text.length := by
  induction laid with
  | start => exact ⟨[], .nil, .nil, fun _ found => absurd found List.not_mem_nil⟩
  | @skip read tokens chars laid ih =>
      obtain ⟨cuts, each, order, inside⟩ := ih
      refine ⟨cuts, each.imp fun _ _ cut => cut.append chars, order, ?_⟩
      intro cut found
      rw [List.length_append]
      exact Nat.le_trans (inside cut found) (Nat.le_add_right _ _)
  | @push read tokens kind chars solid laid ih =>
      obtain ⟨cuts, each, order, inside⟩ := ih
      refine ⟨cuts ++ [(read.length, (read ++ chars).length)], ?_, ?_, ?_⟩
      · refine List.rel_append (each.imp fun _ _ cut => cut.append chars) (.cons ?_ .nil)
        exact
          { forward := by simp
            inside := Nat.le_refl _
            range := by rw [List.take_left, List.take_length]
            solid := by rw [List.take_length, List.drop_left]; exact solid }
      · refine List.pairwise_append.mpr ⟨order, List.pairwise_singleton _ _, ?_⟩
        intro cut found last single
        rw [List.mem_singleton.mp single]
        exact inside cut found
      · intro cut found
        rcases List.mem_append.mp found with found | found
        · rw [List.length_append]
          exact Nat.le_trans (inside cut found) (Nat.le_add_right _ _)
        · apply Nat.le_of_eq
          rw [List.mem_singleton.mp found]

end SignatureLint.Lexer

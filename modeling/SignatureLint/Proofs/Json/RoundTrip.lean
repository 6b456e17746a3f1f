import Mathlib.Algebra.Group.Nat.Defs
import SignatureLint.Proofs.Json.Texts

/-!
# Reading JSON back

A value without fractions is read back from what is written of it, on one line or on several.  What
may stand between its words is said once, and both ways of writing keep to it.  Texts come back with
the halves of pairs joined, and an integer comes back if its digits are not too many for the reader.
-/

namespace SignatureLint

namespace Json

/-! ## Values that are read back -/

/-- A value without fractions that is read back as it is from what is written of it. -/
inductive Plain : Json → Prop where
  | null : Plain .null
  | boolean (value : Bool) : Plain (.boolean value)
  | integer {value : Int} (short : value.natAbs < 10 ^ Decimal.maxDigits) : Plain (.integer value)
  | text {value : LooseText} (readable : value.Readable) : Plain (.text value)
  | array {elements : List Json} (each : ∀ element ∈ elements, Plain element) :
      Plain (.array elements)
  | object {entries : List (LooseText × Json)} (distinct : (entries.map Prod.fst).Nodup)
      (keys : ∀ entry ∈ entries, entry.1.Readable) (values : ∀ entry ∈ entries, Plain entry.2) :
      Plain (.object entries)

/-- A value without fractions whose texts are of some kind.  The keys of its objects are
distinct. -/
inductive Fractionless (kind : LooseText → Prop) : Json → Prop where
  | null : Fractionless kind .null
  | boolean (value : Bool) : Fractionless kind (.boolean value)
  | integer (value : Int) : Fractionless kind (.integer value)
  | text {value : LooseText} (proper : kind value) : Fractionless kind (.text value)
  | array {elements : List Json} (each : ∀ element ∈ elements, Fractionless kind element) :
      Fractionless kind (.array elements)
  | object {entries : List (LooseText × Json)} (distinct : (entries.map Prod.fst).Nodup)
      (keys : ∀ entry ∈ entries, kind entry.1)
      (values : ∀ entry ∈ entries, Fractionless kind entry.2) : Fractionless kind (.object entries)

theorem Fractionless.imp {kind kind' : LooseText → Prop} (h : ∀ {text}, kind text → kind' text)
    {value : Json} (fractionless : Fractionless kind value) : Fractionless kind' value := by
  induction fractionless with
  | null => exact .null
  | boolean value => exact .boolean value
  | integer value => exact .integer value
  | text proper => exact .text (h proper)
  | array _ each => exact .array each
  | object distinct keys _ values =>
      exact .object distinct (fun entry found => h (keys entry found)) values

theorem Plain.fractionless {value : Json} (plain : Plain value) :
    Fractionless LooseText.Readable value := by
  induction plain with
  | null => exact .null
  | boolean value => exact .boolean value
  | integer short => exact .integer _
  | text readable => exact .text readable
  | array _ each => exact .array each
  | object distinct keys _ values => exact .object distinct keys values

/-! ### Lengths of integers -/

section

variable {limit : Nat}

theorem elementsKeepTo_iff {elements : List Json} :
    elementsKeepTo limit elements = true ↔ ∀ element ∈ elements, keepsTo limit element = true := by
  induction elements with
  | nil => exact iff_of_true rfl nofun
  | cons first others ih =>
      rw [elementsKeepTo, Bool.and_eq_true, ih, List.forall_mem_cons]

theorem entriesKeepTo_iff {entries : List (LooseText × Json)} :
    entriesKeepTo limit entries = true ↔ ∀ entry ∈ entries, keepsTo limit entry.2 = true := by
  induction entries with
  | nil => exact iff_of_true rfl nofun
  | cons first others ih =>
      rw [entriesKeepTo, Bool.and_eq_true, ih, List.forall_mem_cons]

theorem keepsTo_array_iff {elements : List Json} :
    keepsTo limit (.array elements) = true ↔
      ∀ element ∈ elements, keepsTo limit element = true := by
  rw [keepsTo, elementsKeepTo_iff]

theorem keepsTo_object_iff {entries : List (LooseText × Json)} :
    keepsTo limit (.object entries) = true ↔ ∀ entry ∈ entries, keepsTo limit entry.2 = true := by
  rw [keepsTo, entriesKeepTo_iff]

theorem keepsTo_text (text : LooseText) : keepsTo limit (.text text) = true := by
  rw [keepsTo] <;> exact nofun

theorem keepsTo_integer_iff {value : Int} (positive : limit ≠ 0) :
    keepsTo limit (.integer value) = true ↔ value.natAbs < 10 ^ limit := by
  rw [keepsTo, decide_eq_true_iff]
  exact Nat.length_toDigits_le_iff (by decide) (Nat.pos_of_ne_zero positive)

end

theorem Plain.isWritable {value : Json} (plain : Plain value) : value.isWritable = true := by
  induction plain with
  | null => rfl
  | boolean value => rfl
  | integer short => exact (keepsTo_integer_iff (by decide)).mpr short
  | text readable => rfl
  | array _ each => exact keepsTo_array_iff.mpr each
  | object _ _ _ values => exact keepsTo_object_iff.mpr values

/-- What follows a value in a text: nothing, a blank, or the end of an array or an object or of one
of their parts. -/
def Ends (rest : List Char) : Prop :=
  ∀ c ∈ rest.head?, isSpace c = true ∨ c = ',' ∨ c = ']' ∨ c = '}'

/-! ## Integers -/

theorem short_of_digit {number : Nat} (digit : number < 10) : number < 10 ^ Decimal.maxDigits :=
  digit.trans_le (Nat.le_self_pow (by decide) 10)

theorem isDigit_of_mem_toDigits {number : Nat} {c : Char} (found : c ∈ Nat.toDigits 10 number) :
    isDigit c = true := by
  have digit := Nat.isDigit_of_mem_toDigits (by decide) (by decide) found
  rw [Char.isDigit, Bool.and_eq_true, decide_eq_true_eq, decide_eq_true_eq] at digit
  rw [isDigit, Bool.and_eq_true, decide_eq_true_eq, decide_eq_true_eq]
  exact digit

theorem decimal_toDigits (number : Nat) : decimal (Nat.toDigits 10 number) = number := by
  have steps : (fun (value : Nat) (c : Char) => value * 10 + (c.toNat - 48)) =
      fun value c => 10 * value + (c.toNat - '0'.toNat) := by
    funext value c
    rw [Nat.mul_comm]
    rfl
  rw [decimal, steps, ← Nat.ofDigitChars_eq_foldl, Nat.ofDigitChars_ten_toDigits]

theorem head?_toDigits {number : Nat} (positive : number ≠ 0) :
    (Nat.toDigits 10 number).head? ≠ some '0' := by
  induction number using Nat.strongRecOn with
  | ind number ih =>
      have digits : ∀ digit < 10, digit ≠ 0 → Nat.digitChar digit ≠ '0' := by decide
      rw [Nat.toDigits_eq_if (by decide)]
      split
      · intro zero
        exact digits number ‹_› positive (Option.some.inj zero)
      · rw [List.head?_append_of_ne_nil _ Nat.toDigits_ne_nil]
        exact ih (number / 10) (by omega) (by omega)

theorem Ends.numberless {rest : List Char} (ends : Ends rest) :
    rest.takeWhile isDigit = [] ∧ rest.dropWhile isDigit = rest ∧ fraction rest = ([], rest) ∧
      exponent rest = (none, rest) := by
  cases rest with
  | nil => exact ⟨rfl, rfl, rfl, rfl⟩
  | cons c rest =>
      rcases ends c rfl with blank | rfl | rfl | rfl
      · simp only [isSpace, Bool.or_eq_true, beq_iff_eq] at blank
        rcases blank with ((rfl | rfl) | rfl) | rfl <;> exact ⟨rfl, rfl, rfl, rfl⟩
      all_goals exact ⟨rfl, rfl, rfl, rfl⟩

theorem wholeDigits_toDigits (number : Nat) {rest : List Char} (ends : Ends rest) :
    wholeDigits (Nat.toDigits 10 number ++ rest) = (Nat.toDigits 10 number, rest) := by
  obtain ⟨none, all, -, -⟩ := ends.numberless
  by_cases zero : number = 0
  · subst zero
    rfl
  · have first := head?_toDigits zero
    have digit : ∀ c ∈ Nat.toDigits 10 number, isDigit c = true := fun _ => isDigit_of_mem_toDigits
    obtain ⟨c, more, shape⟩ := List.exists_cons_of_ne_nil (@Nat.toDigits_ne_nil number 10)
    rw [wholeDigits, List.takeWhile_append_of_pos digit, List.dropWhile_append_of_pos digit, none,
      all, List.append_nil]
    intro tail begins
    rw [shape, List.cons_append] at begins
    rw [shape, (List.cons.inj begins).1] at first
    exact first rfl

theorem number_toDigits {limit : Nat} (negative : Bool) {number : Nat}
    (short : (Nat.toDigits 10 number).length ≤ limit) {rest : List Char} (ends : Ends rest) :
    Json.number limit negative (Nat.toDigits 10 number ++ rest) =
      .ok (some (.integer (if negative then -(number : Int) else number), rest)) := by
  obtain ⟨-, -, noFraction, noExponent⟩ := ends.numberless
  have length : ¬limit < (Nat.toDigits 10 number).length := Nat.not_lt.mpr short
  have written : ¬(Nat.toDigits 10 number).isEmpty = true := by
    rw [List.isEmpty_iff]
    exact Nat.toDigits_ne_nil
  rw [Json.number, wholeDigits_toDigits number ends]
  dsimp only
  rw [if_neg written, noFraction]
  dsimp only
  rw [noExponent]
  dsimp only
  rw [if_pos (by rfl : ([].isEmpty && Option.isNone none) = true), if_neg length, decimal_toDigits]

/-! ## Words and numbers -/

theorem digitless_words : ∀ entry ∈ words,
    2 ≤ entry.1.length ∧ ∀ c ∈ entry.1, isDigit c = false := by
  simp [words, isDigit]

theorem word?_of_digit {c : Char} {text : List Char} (digit : isDigit c = true)
    (near : c ∈ text.take 2) : word? text = none := by
  rw [word?, List.findSome?_eq_none_iff]
  intro entry found
  obtain ⟨long, letters⟩ := digitless_words entry found
  refine if_neg fun front => ?_
  obtain ⟨rest, rfl⟩ := List.isPrefixOf_iff_prefix.mp front
  rw [List.take_append_of_le_length long] at near
  have letter := letters c (List.mem_of_mem_take near)
  rw [digit] at letter
  cases letter

/-- Digits are read as a number, with or without a sign. -/
theorem scalar_of_digit {limit : Nat} {c : Char} {text : List Char} {found : Json × List Char}
    (digit : isDigit c = true) (negative : Bool)
    (read : Json.number limit negative (c :: text) = .ok (some found)) :
    scalar limit (if negative then '-' :: c :: text else c :: text) = .ok found := by
  have unsigned : c ≠ '-' := by
    rintro rfl
    cases digit
  cases negative with
  | true =>
      rw [if_pos rfl, scalar, word?_of_digit digit (List.mem_cons_of_mem _ List.mem_cons_self)]
      dsimp only
      split
      · rename_i shape
        cases shape
        rw [read]
        rfl
      · rename_i other
        exact absurd rfl (other _)
  | false =>
      rw [if_neg Bool.false_ne_true, scalar, word?_of_digit digit List.mem_cons_self]
      dsimp only
      split
      · rename_i shape
        exact absurd (List.cons.inj shape).1 unsigned
      · rw [read]
        rfl

theorem toList_toString (value : Int) : (toString value).toList =
    if decide (value < 0) then '-' :: Nat.toDigits 10 value.natAbs
    else Nat.toDigits 10 value.natAbs := by
  cases value with
  | ofNat number =>
      rw [if_neg (by simp)]
      exact Nat.toList_repr
  | negSucc number =>
      rw [if_pos (by simp)]
      change ("-" ++ number.succ.repr).toList = _
      rw [String.toList_append, Nat.toList_repr]
      rfl

theorem scalar_integer {limit : Nat} {value : Int}
    (short : (Nat.toDigits 10 value.natAbs).length ≤ limit) {rest : List Char}
    (ends : Ends rest) :
    scalar limit ((toString value).toList ++ rest) = .ok (.integer value, rest) := by
  obtain ⟨c, more, shape⟩ := List.exists_cons_of_ne_nil (@Nat.toDigits_ne_nil value.natAbs 10)
  have digit : isDigit c = true :=
    isDigit_of_mem_toDigits (shape ▸ List.mem_cons_self : c ∈ Nat.toDigits 10 value.natAbs)
  have signed : (if decide (value < 0) then -(value.natAbs : Int) else value.natAbs) = value := by
    simp only [decide_eq_true_eq]
    omega
  have read := number_toDigits (value < 0) short ends
  rw [signed, shape, List.cons_append] at read
  have whole := scalar_of_digit digit _ read
  rw [toList_toString, shape]
  split at whole <;> rename_i sign
  · rwa [if_pos sign]
  · rwa [if_neg sign]

/-! ## Gaps -/

def Blank (gap : List Char) : Prop :=
  ∀ c ∈ gap, isSpace c = true

theorem blank_nil : Blank [] :=
  List.forall_mem_nil _

theorem blank_space : Blank [' '] :=
  List.forall_mem_singleton.mpr rfl

theorem blank_lineAt (depth : Nat) : Blank (lineAt depth) :=
  List.forall_mem_cons.mpr ⟨rfl, fun _ found => (List.eq_of_mem_replicate found).symm ▸ rfl⟩

variable {limit : Nat} {gap rest : List Char}

theorem skip_blank (blank : Blank gap) (text : List Char) : skip (gap ++ text) = skip text :=
  List.dropWhile_append_of_pos blank

theorem skip_visible {c : Char} (visible : isSpace c = false) (text : List Char) :
    skip (c :: text) = c :: text := by
  rw [skip, List.dropWhile_cons_of_neg (by rw [visible]; decide)]

theorem ends_of_blank (blank : Blank gap) {c : Char} (closes : c = ',' ∨ c = ']' ∨ c = '\x7d') :
    Ends (gap ++ c :: rest) := by
  cases gap with
  | nil =>
      rintro _ ⟨⟩
      exact .inr closes
  | cons d gap =>
      rintro _ ⟨⟩
      exact .inl (blank d List.mem_cons_self)

/-! ## Texts of values -/

/-- The first character of a value is visible, closes no array and is no mark. -/
def Opens (text : List Char) : Prop :=
  ∃ c more, text = c :: more ∧ isSpace c = false ∧ c ≠ ']' ∧ c ≠ '\uFEFF'

/-- A text that is read as a value wherever it stands, given enough fuel. -/
structure ReadsAs (limit : Nat) (text : List Char) (value : Json) : Prop where
  opens : Opens text
  valueAt : ∀ {fuel : Nat} {rest : List Char}, 2 * text.length ≤ fuel → Ends rest →
    valueAt limit fuel (text ++ rest) = .ok (value, rest)

/-- A text between quotes that is read as a key wherever it stands. -/
def QuotesAs (text : List Char) (key : LooseText) : Prop :=
  ∃ inside points, text = '"' :: inside ∧ LooseText.ofPoints points = key ∧
    ∀ opening rest, stringBody opening (inside ++ rest) = .ok (points, rest)

/-- Put values at their keys, one after the other. -/
def putAll (earlier entries : List (LooseText × Json)) : List (LooseText × Json) :=
  entries.foldl (fun found entry => put found entry.1 entry.2) earlier

/-- The text of the elements of an array up to its closing bracket. -/
inductive ReadsElements (limit : Nat) : List Char → List Json → Prop where
  | last {text gap : List Char} {value : Json} (reads : ReadsAs limit text value)
      (blank : Blank gap) : ReadsElements limit (text ++ (gap ++ [']'])) [value]
  | cons {text gap next more : List Char} {value : Json} {others : List Json}
      (reads : ReadsAs limit text value) (blank : Blank gap) (blank' : Blank next)
      (later : ReadsElements limit more others) :
      ReadsElements limit (text ++ (gap ++ ',' :: (next ++ more))) (value :: others)

/-- The text of the entries of an object up to its closing bracket. -/
inductive ReadsEntries (limit : Nat) : List Char → List (LooseText × Json) → Prop where
  | last {quote between text gap : List Char} {key : LooseText} {value : Json}
      (quotes : QuotesAs quote key) (inside : Blank between) (reads : ReadsAs limit text value)
      (blank : Blank gap) :
      ReadsEntries limit (quote ++ ':' :: (between ++ (text ++ (gap ++ ['\x7d'])))) [(key, value)]
  | cons {quote between text gap next more : List Char} {key : LooseText} {value : Json}
      {others : List (LooseText × Json)} (quotes : QuotesAs quote key) (inside : Blank between)
      (reads : ReadsAs limit text value) (blank : Blank gap) (blank' : Blank next)
      (later : ReadsEntries limit more others) :
      ReadsEntries limit (quote ++ ':' :: (between ++ (text ++ (gap ++ ',' :: (next ++ more)))))
        ((key, value) :: others)

namespace ReadsAs

variable {text : List Char} {value : Json}

theorem skip_eq (reads : ReadsAs limit text value) (blank : Blank gap) (rest : List Char) :
    skip (gap ++ (text ++ rest)) = text ++ rest := by
  obtain ⟨c, more, rfl, visible, -⟩ := reads.opens
  rw [skip_blank blank, List.cons_append, skip_visible visible]

theorem whole (reads : ReadsAs limit text value) (blank : Blank gap) :
    Json.whole limit (text ++ gap) = .ok value := by
  have ends : Ends gap := fun c first => .inl (blank c (List.mem_of_mem_head? first))
  have start := reads.skip_eq blank_nil gap
  have nothing : skip gap = [] := by
    rw [← List.append_nil gap, skip_blank blank]
    rfl
  have enough : 2 * text.length ≤ 2 * (text ++ gap).length + 2 := by
    rw [List.length_append]
    omega
  have found := reads.valueAt enough ends
  have noMark : (text ++ gap).head? ≠ some '\uFEFF' := by
    obtain ⟨c, more, rfl, -, -, noMark⟩ := reads.opens
    exact fun mark => noMark (Option.some.inj mark)
  rw [List.nil_append] at start
  rw [Json.whole, if_neg noMark, start, found]
  dsimp only [bind, Except.bind]
  rw [nothing]
  rfl

end ReadsAs

namespace ReadsElements

variable {text : List Char} {elements : List Json}

theorem opens (reads : ReadsElements limit text elements) : Opens text := by
  cases reads with
  | last reads =>
      obtain ⟨c, more, rfl, first⟩ := reads.opens
      exact ⟨c, _, rfl, first⟩
  | cons reads =>
      obtain ⟨c, more, rfl, first⟩ := reads.opens
      exact ⟨c, _, rfl, first⟩

/-- Elements are read up to their closing bracket. -/
theorem elementsAt (reads : ReadsElements limit text elements) {fuel : Nat}
    (enough : 2 * text.length ≤ fuel) (rest : List Char) :
    elementsAt limit fuel (text ++ rest) = .ok (elements, rest) := by
  induction reads generalizing fuel with
  | @last text gap value reads blank =>
      simp only [List.length_append, List.length_singleton] at enough
      obtain ⟨fuel, rfl⟩ := Nat.exists_eq_succ_of_ne_zero (show fuel ≠ 0 by omega)
      rw [List.append_assoc, List.append_assoc, List.singleton_append, Json.elementsAt,
        reads.valueAt (by omega) (ends_of_blank blank (.inr (.inl rfl)))]
      dsimp only [bind, Except.bind]
      rw [skip_blank blank, skip_visible (by decide)]
      rfl
  | @cons text gap next more value others reads blank blank' later ih =>
      simp only [List.length_append, List.length_cons] at enough
      obtain ⟨fuel, rfl⟩ := Nat.exists_eq_succ_of_ne_zero (show fuel ≠ 0 by omega)
      obtain ⟨c, tail, shape, visible, -⟩ := later.opens
      have found := ih (show 2 * more.length ≤ fuel by omega)
      rw [List.append_assoc, List.append_assoc, List.cons_append, Json.elementsAt,
        reads.valueAt (by omega) (ends_of_blank blank (.inl rfl))]
      dsimp only [bind, Except.bind]
      rw [skip_blank blank, skip_visible (by decide)]
      change (Json.elementsAt limit fuel (skip (next ++ more ++ rest)) >>=
        fun found => pure (value :: found.1, found.2)) = _
      rw [List.append_assoc, skip_blank blank', shape, List.cons_append, skip_visible visible,
        ← List.cons_append, ← shape, found]
      rfl

end ReadsElements

namespace ReadsEntries

variable {text : List Char} {entries : List (LooseText × Json)}

theorem opens (reads : ReadsEntries limit text entries) : ∃ more, text = '"' :: more := by
  cases reads with
  | last quotes =>
      obtain ⟨inside, points, rfl, -⟩ := quotes
      exact ⟨_, rfl⟩
  | cons quotes =>
      obtain ⟨inside, points, rfl, -⟩ := quotes
      exact ⟨_, rfl⟩

theorem entriesAt_entry {fuel : Nat} {earlier : List (LooseText × Json)}
    {quote between text after : List Char} {key : LooseText} {value : Json}
    (quotes : QuotesAs quote key) (inside : Blank between) (reads : ReadsAs limit text value)
    (enough : 2 * text.length ≤ fuel) (ends : Ends after) :
    entriesAt limit (fuel + 1) earlier (quote ++ ':' :: (between ++ (text ++ after))) =
      match skip after with
      | '}' :: rest => .ok (put earlier key value, rest)
      | ',' :: more => entriesAt limit fuel (put earlier key value) (skip more)
      | other => .error (.at .comma other.length) := by
  obtain ⟨within, points, rfl, rfl, quoted⟩ := quotes
  rw [List.cons_append, Json.entriesAt, quoted]
  dsimp only [bind, Except.bind]
  rw [skip_visible (by decide)]
  change (valueAt limit fuel (skip (between ++ (text ++ after))) >>= _) = _
  rw [reads.skip_eq inside, reads.valueAt enough ends]
  rfl

theorem entriesAt (reads : ReadsEntries limit text entries) {fuel : Nat}
    (enough : 2 * text.length ≤ fuel) (earlier : List (LooseText × Json)) (rest : List Char) :
    entriesAt limit fuel earlier (text ++ rest) = .ok (putAll earlier entries, rest) := by
  induction reads generalizing fuel earlier with
  | @last quote between text gap key value quotes inside reads blank =>
      simp only [List.length_append, List.length_cons] at enough
      obtain ⟨fuel, rfl⟩ := Nat.exists_eq_succ_of_ne_zero (show fuel ≠ 0 by omega)
      simp only [List.append_assoc, List.cons_append, List.nil_append]
      rw [entriesAt_entry quotes inside reads (by omega) (ends_of_blank blank (.inr (.inr rfl))),
        skip_blank blank, skip_visible (by decide)]
      rfl
  | @cons quote between text gap next more key value others quotes inside reads blank blank' later
      ih =>
      simp only [List.length_append, List.length_cons] at enough
      obtain ⟨fuel, rfl⟩ := Nat.exists_eq_succ_of_ne_zero (show fuel ≠ 0 by omega)
      obtain ⟨tail, shape⟩ := later.opens
      have found := ih (show 2 * more.length ≤ fuel by omega) (put earlier key value)
      simp only [List.append_assoc, List.cons_append]
      rw [entriesAt_entry quotes inside reads (by omega) (ends_of_blank blank (.inl rfl)),
        skip_blank blank, skip_visible (by decide)]
      change Json.entriesAt limit fuel (put earlier key value) (skip (next ++ (more ++ rest))) = _
      rw [skip_blank blank', shape, List.cons_append, skip_visible (by decide),
        ← List.cons_append, ← shape, found]
      rfl

end ReadsEntries

/-! ## Values -/

theorem valueAt_scalar {c : Char} {text : List Char} (others : c ∉ ['"', '{', '['])
    (fuel : Nat) : valueAt limit (fuel + 1) (c :: text) = scalar limit (c :: text) := by
  simp only [List.mem_cons, List.not_mem_nil, or_false, not_or] at others
  rw [valueAt]
  · rintro rest ⟨⟩
    exact others.1 rfl
  · rintro rest ⟨⟩
    exact others.2.1 rfl
  · rintro rest ⟨⟩
    exact others.2.2 rfl

theorem number_of_isDigit {c : Char} (digit : isDigit c = true) :
    isSpace c = false ∧ c ∉ [']', '﻿', '"', '{', '['] := by
  refine ⟨Bool.eq_false_iff.mpr fun blank => ?_, fun found => ?_⟩
  · simp only [isSpace, Bool.or_eq_true, beq_iff_eq] at blank
    rcases blank with ((rfl | rfl) | rfl) | rfl <;> cases digit
  · simp only [List.mem_cons, List.not_mem_nil, or_false] at found
    rcases found with rfl | rfl | rfl | rfl | rfl <;> cases digit

namespace ReadsAs

theorem of_scalar {value : Json} {c : Char} {text : List Char} (visible : isSpace c = false)
    (others : c ∉ [']', '﻿', '"', '{', '['])
    (reads : ∀ rest, Ends rest → scalar limit (c :: text ++ rest) = .ok (value, rest)) :
    ReadsAs limit (c :: text) value where
  opens := ⟨c, text, rfl, visible, List.ne_of_not_mem_cons others,
    List.ne_of_not_mem_cons (List.not_mem_of_not_mem_cons others)⟩
  valueAt := by
    intro fuel rest enough ends
    rw [List.length_cons] at enough
    obtain ⟨fuel, rfl⟩ := Nat.exists_eq_succ_of_ne_zero (show fuel ≠ 0 by omega)
    rw [← reads rest ends, List.cons_append]
    exact valueAt_scalar
      (List.not_mem_of_not_mem_cons (List.not_mem_of_not_mem_cons others)) fuel

theorem null : ReadsAs limit "null".toList .null :=
  .of_scalar (by decide) (by decide) fun _ _ => rfl

theorem boolean (value : Bool) :
    ReadsAs limit (if value then "true" else "false").toList (.boolean value) := by
  cases value <;> exact .of_scalar (by decide) (by decide) fun _ _ => rfl

theorem integer {value : Int} (short : keepsTo limit (.integer value) = true) :
    ReadsAs limit (toString value).toList (.integer value) := by
  rw [keepsTo, decide_eq_true_iff] at short
  have reads := fun rest (ends : Ends rest) => scalar_integer short ends
  have shape := toList_toString value
  split at shape
  · rw [shape] at reads ⊢
    exact .of_scalar (by decide) (by decide) reads
  · obtain ⟨c, more, digits⟩ := List.exists_cons_of_ne_nil (@Nat.toDigits_ne_nil value.natAbs 10)
    have digit : isDigit c = true :=
      isDigit_of_mem_toDigits (digits ▸ List.mem_cons_self : c ∈ Nat.toDigits 10 value.natAbs)
    have ⟨visible, others⟩ := number_of_isDigit digit
    rw [shape.trans digits] at reads ⊢
    exact .of_scalar visible others reads

theorem text {quote : List Char} {value : LooseText} (quotes : QuotesAs quote value) :
    ReadsAs limit quote (.text value) := by
  obtain ⟨inside, points, rfl, rfl, quoted⟩ := quotes
  refine ⟨⟨'"', inside, rfl, by decide⟩, ?_⟩
  intro fuel rest enough _
  rw [List.length_cons] at enough
  obtain ⟨fuel, rfl⟩ := Nat.exists_eq_succ_of_ne_zero (show fuel ≠ 0 by omega)
  rw [List.cons_append, Json.valueAt, quoted]
  rfl

theorem array_nil : ReadsAs limit ['[', ']'] (.array []) where
  opens := ⟨'[', _, rfl, by decide⟩
  valueAt := by
    intro fuel rest enough _
    obtain ⟨fuel, rfl⟩ := Nat.exists_eq_succ_of_ne_zero (show fuel ≠ 0 by rintro rfl; cases enough)
    rfl

theorem array {elements : List Json} {text : List Char} (blank : Blank gap)
    (reads : ReadsElements limit text elements) :
    ReadsAs limit ('[' :: (gap ++ text)) (.array elements) where
  opens := ⟨'[', _, rfl, by decide⟩
  valueAt := by
    intro fuel rest enough _
    rw [List.length_cons, List.length_append] at enough
    obtain ⟨fuel, rfl⟩ := Nat.exists_eq_succ_of_ne_zero (show fuel ≠ 0 by omega)
    obtain ⟨c, more, shape, visible, other, -⟩ := reads.opens
    have found := reads.elementsAt (show 2 * text.length ≤ fuel by omega) rest
    rw [List.cons_append, List.append_assoc, Json.valueAt, skip_blank blank]
    rw [shape, List.cons_append] at found ⊢
    rw [skip_visible visible]
    split
    · rename_i bracket
      exact absurd (List.cons.inj bracket).1 other
    · rw [found]
      rfl

theorem object_nil : ReadsAs limit ['{', '}'] (.object []) where
  opens := ⟨'{', _, rfl, by decide⟩
  valueAt := by
    intro fuel rest enough _
    obtain ⟨fuel, rfl⟩ := Nat.exists_eq_succ_of_ne_zero (show fuel ≠ 0 by rintro rfl; cases enough)
    rfl

theorem object {entries : List (LooseText × Json)} {text : List Char} (blank : Blank gap)
    (reads : ReadsEntries limit text entries) :
    ReadsAs limit ('{' :: (gap ++ text)) (.object (putAll [] entries)) where
  opens := ⟨'{', _, rfl, by decide⟩
  valueAt := by
    intro fuel rest enough _
    rw [List.length_cons, List.length_append] at enough
    obtain ⟨fuel, rfl⟩ := Nat.exists_eq_succ_of_ne_zero (show fuel ≠ 0 by omega)
    obtain ⟨more, shape⟩ := reads.opens
    have found := reads.entriesAt (show 2 * text.length ≤ fuel by omega) [] rest
    rw [List.cons_append, List.append_assoc, Json.valueAt, skip_blank blank]
    rw [shape, List.cons_append] at found ⊢
    rw [skip_visible (by decide)]
    change (Json.entriesAt limit fuel [] _ >>= fun found => pure (Json.object found.1, found.2)) = _
    rw [found]
    rfl

end ReadsAs

end Json

end SignatureLint

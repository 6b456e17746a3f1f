import Mathlib.Data.List.Chain
import SignatureLint.Json.Reader
import SignatureLint.Json.Writer

/-!
# Texts in JSON

A text that was written between quotes is read back, whichever characters were escaped.  Lone
surrogates are read back too, except that a first half of a pair and the second half right behind it
are read as the character that the pair stands for.
-/

namespace SignatureLint

namespace Json

/-! ## Hexadecimal digits -/

theorem hexDigit?_hexDigit : ∀ value < 16, hexDigit? (hexDigit value) = some value := by
  decide

theorem hexCode?_digits {code : Nat} (most : code < 0x10000) :
    hexCode? (hexDigit (code / 4096 % 16)) (hexDigit (code / 256 % 16))
      (hexDigit (code / 16 % 16)) (hexDigit (code % 16)) = some code := by
  rw [hexCode?, hexDigit?_hexDigit _ (Nat.mod_lt _ (by decide)),
    hexDigit?_hexDigit _ (Nat.mod_lt _ (by decide)),
    hexDigit?_hexDigit _ (Nat.mod_lt _ (by decide)),
    hexDigit?_hexDigit _ (Nat.mod_lt _ (by decide))]
  refine congrArg some ?_
  omega

/-! ## The forms of a code point -/

/-- How a code point may be written in a text. -/
inductive Spells : (code : Nat) → List Char → Prop where
  | short {code : Nat} {letter : Char} (named : simpleEscape? letter = some code) :
      Spells code ['\\', letter]
  | plain {code : Nat} {c : Char} (same : c.toNat = code) (least : 32 ≤ code) (noQuote : c ≠ '"')
      (noEscape : c ≠ '\\') : Spells code [c]
  | unit {code : Nat} (most : code < 0x10000) : Spells code (unicodeEscape code)
  | pair {high low : Nat} (first : isHighSurrogate high = true)
      (second : isLowSurrogate low = true) :
      Spells (joinSurrogates high low) (unicodeEscape high ++ unicodeEscape low)

theorem spells_of_shortEscape? {code : Nat} {escape : List Char}
    (h : shortEscape? code = some escape) : Spells code escape := by
  unfold shortEscape? at h
  repeat' split at h
  all_goals cases h
  all_goals
    rename_i same
    subst same
    exact .short rfl

theorem ne_of_shortEscape?_eq_none {code : Nat} (h : shortEscape? code = none) :
    code ≠ '"'.toNat ∧ code ≠ '\\'.toNat := by
  constructor <;> rintro rfl <;> cases h

theorem toNat_ofNat_of_lt {code : Nat} (ascii : code < 0x80) : (Char.ofNat code).toNat = code := by
  rw [Char.ofNat, dif_pos (.inl (by omega))]
  rfl

theorem halves {code : Nat} (least : 0x10000 ≤ code) (most : code < 0x110000) :
    isHighSurrogate (0xD800 + (code - 0x10000) / 0x400) = true ∧
      isLowSurrogate (0xDC00 + (code - 0x10000) % 0x400) = true ∧
      joinSurrogates (0xD800 + (code - 0x10000) / 0x400)
        (0xDC00 + (code - 0x10000) % 0x400) = code := by
  refine ⟨?_, ?_, ?_⟩
  · simp only [isHighSurrogate, Bool.and_eq_true, decide_eq_true_eq]
    omega
  · simp only [isLowSurrogate, Bool.and_eq_true, decide_eq_true_eq]
    omega
  · unfold joinSurrogates
    omega

theorem spells_asciiPoint {code : Nat} (most : code < 0x110000) :
    Spells code (asciiPoint code) := by
  unfold asciiPoint
  cases short : shortEscape? code with
  | some escape => exact spells_of_shortEscape? short
  | none =>
      dsimp only
      split
      · rename_i ascii
        rw [Bool.and_eq_true, decide_eq_true_eq, decide_eq_true_eq] at ascii
        have same : (Char.ofNat code).toNat = code := toNat_ofNat_of_lt (by omega)
        obtain ⟨noQuote, noEscape⟩ := ne_of_shortEscape?_eq_none short
        exact .plain same ascii.1 (fun h => noQuote (same ▸ congrArg Char.toNat h))
          (fun h => noEscape (same ▸ congrArg Char.toNat h))
      · split
        · exact .unit ‹_›
        · obtain ⟨first, second, joined⟩ := halves (Nat.not_lt.mp ‹_›) most
          have pair := Spells.pair first second
          rwa [joined] at pair

/-! ## Reading one code point -/

section

variable {opening code : Nat} {text : List Char}

/-- Put a code point in front of what was read of a text. -/
def withPoint (code : Nat) (found : List Nat × List Char) : List Nat × List Char :=
  (code :: found.1, found.2)

theorem stringBody_quote (opening : Nat) (rest : List Char) :
    stringBody opening ('"' :: rest) = .ok ([], rest) := by
  rw [stringBody]

theorem stringBody_short {letter : Char} (named : simpleEscape? letter = some code) :
    stringBody opening ('\\' :: letter :: text) =
      (stringBody opening text).map (withPoint code) := by
  have other : letter ≠ 'u' := by
    rintro rfl
    cases named
  rw [stringBody.eq_def]
  split <;> rename_i shape <;> cases shape
  · exact absurd rfl other
  · rw [named]
    cases stringBody opening text <;> rfl
  · rename_i escape _
    exact (escape letter text rfl rfl).elim

theorem stringBody_plain {c : Char} (least : 32 ≤ c.toNat) (noQuote : c ≠ '"')
    (noEscape : c ≠ '\\') :
    stringBody opening (c :: text) = (stringBody opening text).map (withPoint c.toNat) := by
  rw [stringBody.eq_def]
  split <;> rename_i shape <;> cases shape
  · exact absurd rfl noQuote
  · exact absurd rfl noEscape
  · exact absurd rfl noEscape
  · exact absurd rfl noEscape
  · rw [if_neg (Nat.not_lt.mpr least)]
    cases stringBody opening text <;> rfl

/-- An escape of four digits is read as its code, unless the second half of a pair follows the
first. -/
theorem stringBody_digits {a b c d next : Char} {after : List Char}
    (value : hexCode? a b c d = some code)
    (alone : isHighSurrogate code = true → secondHalf (next :: after) = .ok none) :
    stringBody opening ('\\' :: 'u' :: a :: b :: c :: d :: next :: after) =
      (stringBody opening (next :: after)).map (withPoint code) := by
  rw [stringBody, value]
  dsimp only
  by_cases high : isHighSurrogate code = true
  · rw [if_pos high]
    split <;> rename_i half <;> rw [alone high] at half <;> cases half
    cases stringBody opening (next :: after) <;> rfl
  · rw [if_neg high]
    cases stringBody opening (next :: after) <;> rfl

theorem stringBody_halves {a b c d next : Char} {after rest : List Char} {low : Nat}
    (value : hexCode? a b c d = some code) (high : isHighSurrogate code = true)
    (follows : secondHalf (next :: after) = .ok (some (low, rest))) :
    stringBody opening ('\\' :: 'u' :: a :: b :: c :: d :: next :: after) =
      (stringBody opening rest).map (withPoint (joinSurrogates code low)) := by
  rw [stringBody, value]
  dsimp only
  rw [if_pos high]
  split <;> rename_i half <;> rw [follows] at half <;> cases half
  cases stringBody opening rest <;> rfl

end

/-! ## Halves of pairs -/

section

variable {code : Nat} {text : List Char}

theorem lt_of_half {half : Nat} (h : isHighSurrogate half = true ∨ isLowSurrogate half = true) :
    half < 0x10000 := by
  simp only [isHighSurrogate, isLowSurrogate, Bool.and_eq_true, decide_eq_true_eq] at h
  omega

theorem not_low_of_high (high : isHighSurrogate code = true) : isLowSurrogate code = false := by
  simp only [isHighSurrogate, isLowSurrogate, Bool.and_eq_true, Bool.and_eq_false_iff,
    decide_eq_true_eq, decide_eq_false_iff_not] at high ⊢
  omega

theorem not_high_joinSurrogates (high low : Nat) :
    ¬isHighSurrogate (joinSurrogates high low) = true := by
  have least : 0x10000 ≤ joinSurrogates high low := by
    unfold joinSurrogates
    omega
  exact fun half => Nat.not_lt.mpr least (lt_of_half (.inl half))

theorem secondHalf_unicodeEscape (most : code < 0x10000) (more : text ≠ []) :
    secondHalf (unicodeEscape code ++ text) =
      .ok (if isLowSurrogate code then some (code, text) else none) := by
  obtain ⟨next, after, rfl⟩ := List.exists_cons_of_ne_nil more
  simp only [unicodeEscape, List.cons_append, List.nil_append, secondHalf, hexCode?_digits most]
  split <;> rfl

/-- Behind a first half only a second half is read with it. -/
theorem secondHalf_of_spells {form : List Char} (spells : Spells code form)
    (other : isLowSurrogate code = false) (more : text ≠ []) :
    secondHalf (form ++ text) = .ok none := by
  -- only a unit can be the second half, and only one that is low
  cases spells with
  | @short _ letter named =>
      have noUnit : letter ≠ 'u' := by
        rintro rfl
        cases named
      rw [secondHalf.eq_def]
      split
      · rename_i shape
        cases shape
        exact absurd rfl noUnit
      · rfl
  | plain same least noQuote noEscape =>
      rw [secondHalf.eq_def]
      split
      · rename_i shape
        cases shape
        exact absurd rfl noEscape
      · rfl
  | unit most =>
      rw [secondHalf_unicodeEscape most more, other]
      rfl
  | pair first second =>
      rw [List.append_assoc,
        secondHalf_unicodeEscape (lt_of_half (.inl first))
          (List.append_ne_nil_of_right_ne_nil _ more),
        not_low_of_high first]
      rfl

theorem stringBody_of_spells {opening : Nat} {form : List Char} (spells : Spells code form)
    (alone : isHighSurrogate code = true → secondHalf text = .ok none) (more : text ≠ []) :
    stringBody opening (form ++ text) = (stringBody opening text).map (withPoint code) := by
  obtain ⟨next, after, rfl⟩ := List.exists_cons_of_ne_nil more
  cases spells with
  | short named => exact stringBody_short named
  | plain same least noQuote noEscape =>
      subst same
      exact stringBody_plain least noQuote noEscape
  | unit most => exact stringBody_digits (hexCode?_digits most) alone
  | @pair high low first second =>
      have follows : secondHalf (unicodeEscape low ++ next :: after) =
          .ok (some (low, next :: after)) := by
        rw [secondHalf_unicodeEscape (lt_of_half (.inr second)) more, if_pos second]
      rw [List.append_assoc]
      exact stringBody_halves (hexCode?_digits (lt_of_half (.inl first))) first follows

end

/-! ## Whole texts -/

/-- Code points among which no first half of a pair comes right before a second half. -/
def Unpaired (points : List Nat) : Prop :=
  points.IsChain fun first second =>
    isHighSurrogate first = true → isLowSurrogate second = false

/-- Code points in which each first half of a pair is joined with a second half right behind it. -/
def joinPairs : List Nat → List Nat
  | [] => []
  | [point] => [point]
  | first :: second :: rest =>
      if isHighSurrogate first && isLowSurrogate second then
        joinSurrogates first second :: joinPairs rest
      else first :: joinPairs (second :: rest)

/-- A way to write the code points of a text that can be read back: each in one of its forms, and
halves of pairs as what they are. -/
structure Spelling (point : Nat → List Char) (points : List Nat) : Prop where
  spells : ∀ code ∈ points, Spells code (point code)
  halves : ∀ code ∈ points, isHighSurrogate code = true ∨ isLowSurrogate code = true →
    point code = unicodeEscape code

theorem Spelling.tail {point : Nat → List Char} {code : Nat} {points : List Nat}
    (spelling : Spelling point (code :: points)) : Spelling point points where
  spells other found := spelling.spells other (List.mem_cons_of_mem code found)
  halves other found := spelling.halves other (List.mem_cons_of_mem code found)

/-- The code points of a text up to its closing quote are read back with pairs joined. -/
theorem stringBody_points (opening : Nat) {point : Nat → List Char} {points : List Nat}
    (spelling : Spelling point points) (rest : List Char) :
    stringBody opening (points.flatMap point ++ '"' :: rest) = .ok (joinPairs points, rest) := by
  have nonempty (points : List Nat) : points.flatMap point ++ '"' :: rest ≠ [] :=
    List.append_ne_nil_of_right_ne_nil _ (List.cons_ne_nil _ _)
  fun_induction joinPairs points with
  | case1 => exact stringBody_quote opening rest
  | case2 code =>
      rw [List.flatMap_cons, List.append_assoc,
        stringBody_of_spells (spelling.spells code List.mem_cons_self) (fun _ => rfl) (nonempty [])]
      rw [List.flatMap_nil, List.nil_append, stringBody_quote]
      rfl
  | case3 high low more pair ih =>
      -- both halves are escapes, and the reader looks at the second one with the first
      obtain ⟨first, second⟩ := Bool.and_eq_true_iff.mp pair
      have both : low ∈ high :: low :: more := List.mem_cons_of_mem high List.mem_cons_self
      rw [List.flatMap_cons, List.flatMap_cons,
        spelling.halves high List.mem_cons_self (.inl first),
        spelling.halves low both (.inr second), List.append_assoc, List.append_assoc,
        ← List.append_assoc,
        stringBody_of_spells (.pair first second)
          (fun half => absurd half (not_high_joinSurrogates high low)) (nonempty more),
        ih spelling.tail.tail]
      rfl
  | case4 code next more other ih =>
      have alone (high : isHighSurrogate code = true) :
          secondHalf ((next :: more).flatMap point ++ '"' :: rest) = .ok none := by
        rw [high, Bool.true_and, Bool.not_eq_true] at other
        rw [List.flatMap_cons, List.append_assoc]
        exact secondHalf_of_spells (spelling.tail.spells next List.mem_cons_self) other
          (nonempty more)
      rw [List.flatMap_cons, List.append_assoc,
        stringBody_of_spells (spelling.spells code List.mem_cons_self) alone
          (nonempty (next :: more)),
        ih spelling.tail]
      rfl

end Json

namespace Json

/-! ## Ways of writing -/

theorem spelling_asciiPoint {points : List Nat} (most : ∀ point ∈ points, point < 0x110000) :
    Spelling asciiPoint points where
  spells code found := spells_asciiPoint (most code found)
  halves code found half := by
    have most := lt_of_half half
    have short : shortEscape? code = none := by
      simp only [isHighSurrogate, isLowSurrogate, Bool.and_eq_true, decide_eq_true_eq] at half
      unfold shortEscape?
      repeat rw [if_neg (by omega)]
    have visible : ¬(decide (32 ≤ code) && decide (code < 127)) = true := by
      simp only [isHighSurrogate, isLowSurrogate, Bool.and_eq_true, decide_eq_true_eq] at half ⊢
      omega
    rw [asciiPoint, short]
    dsimp only
    rw [if_neg visible, if_pos most]

theorem spells_plainPoint (c : Char) : Spells c.toNat (plainPoint c.toNat) := by
  unfold plainPoint
  cases short : shortEscape? c.toNat with
  | some escape => exact spells_of_shortEscape? short
  | none =>
      dsimp only
      split
      · exact .unit (by omega)
      · obtain ⟨noQuote, noEscape⟩ := ne_of_shortEscape?_eq_none short
        rw [Char.ofNat_toNat]
        exact .plain rfl (Nat.not_lt.mp ‹_›) (fun h => noQuote (congrArg Char.toNat h))
          (fun h => noEscape (congrArg Char.toNat h))

end Json

namespace LooseText

/-- A text as the program builds it: an ordinary one, or code points that are none. -/
inductive IsProper : LooseText → Prop where
  | clean (text : String) : IsProper (.clean text)
  | broken {points : List Nat} (halved : points.any isSurrogate = true)
      (most : ∀ point ∈ points, point < 0x110000) : IsProper (.broken points)

inductive IsClean : LooseText → Prop where
  | clean (text : String) : IsClean (.clean text)

/-- A text with the halves of pairs joined that come right behind each other. -/
def rejoined (text : LooseText) : LooseText :=
  ofPoints (Json.joinPairs text.points)

/-- A text that is read back from what is written of it: an ordinary one, or code points that are
no ordinary text and among which no two halves make up a pair. -/
inductive Readable : LooseText → Prop where
  | clean (text : String) : Readable (.clean text)
  | broken {points : List Nat} (halved : points.any isSurrogate = true)
      (most : ∀ point ∈ points, point < 0x110000) (unpaired : Json.Unpaired points) :
      Readable (.broken points)

theorem not_surrogate_toNat (c : Char) : isSurrogate c.toNat = false := by
  have valid : c.toNat < 0xD800 ∨ 0xDFFF < c.toNat ∧ c.toNat < 0x110000 := c.valid
  simp only [isSurrogate, Bool.and_eq_false_iff, decide_eq_false_iff_not]
  omega

theorem isSurrogate_of_half {code : Nat}
    (half : Json.isHighSurrogate code = true ∨ Json.isLowSurrogate code = true) :
    isSurrogate code = true := by
  simp only [Json.isHighSurrogate, Json.isLowSurrogate, isSurrogate, Bool.and_eq_true,
    decide_eq_true_eq] at half ⊢
  omega

variable {text : LooseText}

theorem Readable.ofPoints_points (readable : text.Readable) : ofPoints text.points = text := by
  cases readable with
  | clean text =>
      have whole : (text.toList.map Char.toNat).any isSurrogate = false := by
        rw [List.any_map, List.any_eq_false]
        intro c _
        rw [Function.comp_apply, not_surrogate_toNat]
        exact Bool.false_ne_true
      rw [LooseText.points, ofPoints, whole, if_neg Bool.false_ne_true, List.map_map]
      have same : Char.ofNat ∘ Char.toNat = id := funext Char.ofNat_toNat
      rw [same, List.map_id, String.ofList_toList]
  | broken halved => exact if_pos halved

theorem IsClean.readable (clean : text.IsClean) : text.Readable := by
  cases clean with
  | clean text => exact .clean text

theorem Readable.isProper (readable : text.Readable) : text.IsProper := by
  cases readable with
  | clean text => exact .clean text
  | broken halved most => exact .broken halved most

theorem IsProper.lt_of_mem_points (proper : text.IsProper) :
    ∀ point ∈ text.points, point < 0x110000 := by
  cases proper with
  | clean text =>
      rintro _ found
      obtain ⟨c, -, rfl⟩ := List.mem_map.mp found
      have valid : c.toNat < 0xD800 ∨ 0xDFFF < c.toNat ∧ c.toNat < 0x110000 := c.valid
      omega
  | broken _ most => exact most

theorem Readable.unpaired (readable : text.Readable) : Json.Unpaired text.points := by
  cases readable with
  | clean text =>
      refine List.Pairwise.isChain (List.pairwise_of_forall_mem_list ?_)
      intro first _ second found _
      obtain ⟨c, -, rfl⟩ := List.mem_map.mp found
      rw [Bool.eq_false_iff]
      intro low
      have half := isSurrogate_of_half (.inr low)
      rw [not_surrogate_toNat] at half
      cases half
  | broken _ _ unpaired => exact unpaired

theorem joinPairs_of_unpaired {points : List Nat} (unpaired : Json.Unpaired points) :
    Json.joinPairs points = points := by
  fun_induction Json.joinPairs points with
  | case1 => rfl
  | case2 => rfl
  | case3 high low more pair _ =>
      obtain ⟨first, second⟩ := Bool.and_eq_true_iff.mp pair
      have alone := (List.isChain_cons_cons.mp unpaired).1 first
      rw [second] at alone
      cases alone
  | case4 code next more _ ih => rw [ih unpaired.of_cons]

theorem Readable.rejoined_eq (readable : text.Readable) : text.rejoined = text := by
  rw [rejoined, joinPairs_of_unpaired readable.unpaired, readable.ofPoints_points]

theorem IsProper.spelling (proper : text.IsProper) :
    Json.Spelling Json.asciiPoint text.points :=
  Json.spelling_asciiPoint proper.lt_of_mem_points

theorem IsClean.spelling (clean : text.IsClean) : Json.Spelling Json.plainPoint text.points := by
  cases clean with
  | clean text =>
      constructor <;> intro code found
      · obtain ⟨c, -, rfl⟩ := List.mem_map.mp found
        exact Json.spells_plainPoint c
      · obtain ⟨c, -, rfl⟩ := List.mem_map.mp found
        intro half
        have surrogate := isSurrogate_of_half half
        rw [not_surrogate_toNat] at surrogate
        cases surrogate

end LooseText

end SignatureLint

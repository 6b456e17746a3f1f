import Mathlib.Data.List.TakeWhile
import SignatureLint.Proofs.Json.RoundTrip

/-!
# Texts with long integers

Reading a JSON text stops at an integer with too many digits.  Such an integer then stands in the
text, because each step of the reading goes on with an end of what it was given.
-/

namespace SignatureLint

namespace Json

variable {α β : Type} {text rest whole : List Char} {digits : Nat}

/-- A text with an integer in it, without a fraction or an exponent, whose digits are too many. -/
def HoldsLong (text : List Char) (digits : Nat) : Prop :=
  Decimal.maxDigits < digits ∧ ∃ front integer rest, text = front ++ integer ++ rest ∧
    integer.length = digits ∧ (∀ c ∈ integer, isDigit c = true) ∧
    (∀ c ∈ rest.head?, isDigit c = false) ∧ (fraction rest).1 = [] ∧ (exponent rest).1 = none

theorem HoldsLong.of_suffix (long : HoldsLong text digits) (suffix : text <:+ whole) :
    HoldsLong whole digits := by
  obtain ⟨many, front, integer, rest, rfl, found⟩ := long
  obtain ⟨before, rfl⟩ := suffix
  exact ⟨many, before ++ front, integer, rest, by simp only [List.append_assoc], found⟩

/-- A step of a reading goes on with an end of its text, and stops at a long integer only if there
is one in the text. -/
structure Follows (text : List Char) (step : Except Fault (α × List Char)) : Prop where
  suffix : ∀ {value rest}, step = .ok (value, rest) → rest <:+ text
  long : ∀ {digits}, step = .error (.longInteger digits) → HoldsLong text digits

namespace Follows

variable {step : Except Fault (α × List Char)}

theorem ok (suffix : rest <:+ text) (value : α) :
    Follows text (.ok (value, rest) : Except Fault (α × List Char)) where
  suffix := by
    rintro _ _ ⟨⟩
    exact suffix
  long := nofun

theorem stop (problem : JsonProblem) (remaining : Nat) :
    Follows text (.error (.at problem remaining) : Except Fault (α × List Char)) where
  suffix := nofun
  long := nofun

theorem of_suffix (follows : Follows text step) (suffix : text <:+ whole) : Follows whole step where
  suffix h := (follows.suffix h).trans suffix
  long h := (follows.long h).of_suffix suffix

theorem bind {next : α × List Char → Except Fault (β × List Char)} (follows : Follows text step)
    (after : ∀ value rest, rest <:+ text → Follows rest (next (value, rest))) :
    Follows text (step >>= next) := by
  cases step with
  | error fault =>
      refine ⟨nofun, fun h => follows.long ?_⟩
      cases h
      rfl
  | ok found =>
      obtain ⟨value, rest⟩ := found
      have suffix := follows.suffix rfl
      exact (after value rest suffix).of_suffix suffix

theorem change {next : α × List Char → Except Fault (β × List Char)} (follows : Follows text step)
    (same : ∀ value rest, ∃ result, next (value, rest) = .ok (result, rest)) :
    Follows text (step >>= next) := by
  refine follows.bind fun value rest _ => ?_
  obtain ⟨result, here⟩ := same value rest
  rw [here]
  exact .ok List.suffix_rfl result

end Follows

theorem skip_suffix (text : List Char) : skip text <:+ text :=
  List.dropWhile_suffix isSpace

theorem suffix_of_skip {c : Char} (h : skip text = c :: rest) : rest <:+ text :=
  (List.suffix_cons c rest).trans (h ▸ skip_suffix text)

/-! ## Texts -/

theorem suffix_unicodeEscape (a b c d : Char) (text : List Char) :
    text <:+ '\\' :: 'u' :: a :: b :: c :: d :: text :=
  List.suffix_append ['\\', 'u', a, b, c, d] text

theorem suffix_of_secondHalf {code : Nat} (h : secondHalf text = .ok (some (code, rest))) :
    rest <:+ text := by
  unfold secondHalf at h
  split at h
  · split at h
    · cases h
    · split at h
      · cases h
        exact suffix_unicodeEscape _ _ _ _ _
      · cases h
  · cases h

theorem secondHalf_ne_longInteger : secondHalf text ≠ .error (.longInteger digits) := by
  unfold secondHalf
  intro h
  split at h
  · split at h
    · cases h
    · split at h <;> cases h
  · cases h

/-- A text goes on behind its closing quote, and holds no integer. -/
theorem follows_stringBody (opening : Nat) (text : List Char) :
    Follows text (stringBody opening text) := by
  fun_induction stringBody opening text with
  | case1 => exact .stop _ _
  | case2 rest => exact .ok (List.suffix_cons _ _) _
  | case3 a b c d next more none => exact .stop _ _
  | case4 a b c d next more code here high fault half =>
      refine ⟨nofun, ?_⟩
      rintro _ ⟨⟩
      exact absurd half secondHalf_ne_longInteger
  | case5 a b c d next more code here high low after half ih =>
      refine .of_suffix (ih.change fun _ _ => ⟨_, rfl⟩) ((suffix_of_secondHalf half).trans ?_)
      exact suffix_unicodeEscape a b c d (next :: more)
  | case6 a b c d next more code here high half ih =>
      exact .of_suffix (ih.change fun _ _ => ⟨_, rfl⟩) (suffix_unicodeEscape a b c d _)
  | case7 a b c d next more code here low ih =>
      exact .of_suffix (ih.change fun _ _ => ⟨_, rfl⟩) (suffix_unicodeEscape a b c d _)
  | case8 rest short => exact .stop _ _
  | case9 c rest other none => exact .stop _ _
  | case10 c rest other code here ih =>
      exact .of_suffix (ih.change fun _ _ => ⟨_, rfl⟩) (List.suffix_append ['\\', c] _)
  | case11 => exact .stop _ _
  | case12 c rest quote unicode escape last control => exact .stop _ _
  | case13 c rest quote unicode escape last visible ih =>
      exact .of_suffix (ih.change fun _ _ => ⟨_, rfl⟩) (List.suffix_cons c rest)

/-! ## Numbers -/

section

variable {negative : Bool} {integer part : List Char} {power : Option Int}

theorem append_of_wholeDigits (h : wholeDigits text = (integer, rest)) :
    integer ++ rest = text := by
  unfold wholeDigits at h
  split at h
  · cases h
    rfl
  · cases h
    exact List.takeWhile_append_dropWhile

theorem all_of_wholeDigits (h : wholeDigits text = (integer, rest)) (several : 1 < integer.length) :
    (∀ c ∈ integer, isDigit c = true) ∧ ∀ c ∈ rest.head?, isDigit c = false := by
  unfold wholeDigits at h
  split at h
  · cases h
    cases Nat.lt_irrefl 1 several
  · cases h
    refine ⟨List.all_eq_true.mp List.all_takeWhile, fun c first => ?_⟩
    have stops := List.head?_dropWhile_not isDigit text
    rw [Option.mem_def.mp first] at stops
    exact stops

theorem suffix_of_fraction (h : fraction text = (part, rest)) : rest <:+ text := by
  have suffix : (fraction text).2 <:+ text := by
    fun_cases fraction text with
    | case1 first more digit =>
        exact (List.dropWhile_suffix isDigit).trans (List.suffix_append ['.', first] more)
    | case2 first more other => exact List.suffix_rfl
    | case3 other => exact List.suffix_rfl
  rwa [h] at suffix

theorem eq_of_fraction (h : fraction text = ([], rest)) : rest = text := by
  have same : (fraction text).1 = [] → (fraction text).2 = text := by
    fun_cases fraction text with
    | case1 first more digit => exact nofun
    | case2 first more other => exact fun _ => rfl
    | case3 other => exact fun _ => rfl
  rw [h] at same
  exact same rfl

theorem suffix_of_exponent (h : exponent text = (power, rest)) : rest <:+ text := by
  have suffix : (exponent text).2 <:+ text := by
    fun_cases exponent text with
    | case1 mark more marked sign digits shape value none => exact List.suffix_rfl
    | case2 mark more marked sign digits shape value some =>
        -- the sign may be missing
        have digits_suffix : digits <:+ more := by
          split at shape <;> cases shape
          · exact List.suffix_cons _ _
          · exact List.suffix_cons _ _
          · exact List.suffix_rfl
        exact (List.dropWhile_suffix isDigit).trans
          (digits_suffix.trans (List.suffix_cons mark more))
    | case3 mark more other => exact List.suffix_rfl
    | case4 => exact List.suffix_rfl
  rwa [h] at suffix

theorem suffix_of_parts {after behind : List Char} (whole : wholeDigits text = (integer, after))
    (fractional : fraction after = (part, behind)) (exponential : exponent behind = (power, rest)) :
    rest <:+ text := by
  have suffix : after <:+ text := ⟨integer, append_of_wholeDigits whole⟩
  exact (suffix_of_exponent exponential).trans ((suffix_of_fraction fractional).trans suffix)

theorem follows_number (negative : Bool) (text : List Char) (remaining : Nat) :
    Follows text (do
      match ← number Decimal.maxDigits negative text with
      | some found => return found
      | none => throw (.at .value remaining)) := by
  fun_cases number Decimal.maxDigits negative text with
  | case1 integer after whole none => exact .stop _ _
  | case2 integer after whole some part behind fractional power rest exponential bare many =>
      obtain ⟨noFraction, noExponent⟩ := Bool.and_eq_true_iff.mp bare
      obtain rfl := List.isEmpty_iff.mp noFraction
      obtain rfl := eq_of_fraction fractional
      -- a lone zero is too short to be refused, so these are all digits in front
      have several : 1 < integer.length := Nat.lt_trans (by decide) many
      obtain ⟨all, ends⟩ := all_of_wholeDigits whole several
      refine ⟨nofun, ?_⟩
      rintro _ ⟨⟩
      refine ⟨many, [], integer, behind, (append_of_wholeDigits whole).symm, rfl, all, ends, ?_, ?_⟩
      · rw [fractional]
      · rw [exponential]
        exact Option.isNone_iff_eq_none.mp noExponent
  | case3 integer after whole some part behind fractional power rest exponential =>
      exact .ok (suffix_of_parts whole fractional exponential) _
  | case4 integer after whole some part behind fractional power rest exponential =>
      exact .ok (suffix_of_parts whole fractional exponential) _

end

theorem suffix_of_word? {value : Json} (h : word? text = some (value, rest)) : rest <:+ text := by
  obtain ⟨entry, -, found⟩ := List.exists_of_findSome?_eq_some h
  dsimp only at found
  split at found
  · cases found
    exact List.drop_suffix _ _
  · cases found

theorem follows_scalar (text : List Char) : Follows text (scalar Decimal.maxDigits text) := by
  rw [scalar]
  cases word : word? text with
  | some found => exact .ok (suffix_of_word? word) _
  | none =>
      dsimp only
      split
      · exact (follows_number true _ _).of_suffix (List.suffix_cons _ _)
      · exact follows_number false _ _

/-! ## Values -/

mutual

theorem follows_valueAt : (fuel : Nat) → (source : List Char) →
    Follows source (valueAt Decimal.maxDigits fuel source)
  | 0, _ => .stop _ _
  | fuel + 1, source => by
      rw [valueAt.eq_def]
      dsimp only
      split
      · rename_i rest
        refine .of_suffix ?_ (List.suffix_cons _ rest)
        exact (follows_stringBody _ rest).change fun _ _ => ⟨_, rfl⟩
      · rename_i rest
        refine .of_suffix ?_ (List.suffix_cons _ rest)
        split
        · exact .ok (suffix_of_skip ‹_›) _
        · refine .of_suffix ?_ (skip_suffix rest)
          exact (follows_entriesAt fuel _ _).change fun _ _ => ⟨_, rfl⟩
      · rename_i rest
        refine .of_suffix ?_ (List.suffix_cons _ rest)
        split
        · exact .ok (suffix_of_skip ‹_›) _
        · refine .of_suffix ?_ (skip_suffix rest)
          exact (follows_elementsAt fuel _).change fun _ _ => ⟨_, rfl⟩
      · exact follows_scalar source

theorem follows_elementsAt : (fuel : Nat) → (source : List Char) →
    Follows source (elementsAt Decimal.maxDigits fuel source)
  | 0, _ => .stop _ _
  | fuel + 1, source => by
      rw [elementsAt]
      refine (follows_valueAt fuel source).bind fun first rest _ => ?_
      dsimp only
      split
      · exact .ok (suffix_of_skip ‹_›) _
      · rename_i more comma
        refine .of_suffix ?_ ((skip_suffix more).trans (suffix_of_skip comma))
        exact (follows_elementsAt fuel _).change fun _ _ => ⟨_, rfl⟩
      · exact .stop _ _

theorem follows_entriesAt : (fuel : Nat) → (earlier : List (LooseText × Json)) →
    (source : List Char) → Follows source (entriesAt Decimal.maxDigits fuel earlier source)
  | 0, _, _ => .stop _ _
  | fuel + 1, earlier, source => by
      rw [entriesAt.eq_def]
      dsimp only
      split
      · rename_i rest
        refine .of_suffix ?_ (List.suffix_cons _ rest)
        refine (follows_stringBody _ rest).bind fun points afterKey _ => ?_
        dsimp only
        split
        · rename_i afterColon colon
          refine .of_suffix ?_ ((skip_suffix afterColon).trans (suffix_of_skip colon))
          refine (follows_valueAt fuel _).bind fun value afterValue _ => ?_
          dsimp only
          split
          · exact .ok (suffix_of_skip ‹_›) _
          · rename_i more comma
            refine .of_suffix (follows_entriesAt fuel _ _) ?_
            exact (skip_suffix more).trans (suffix_of_skip comma)
          · exact .stop _ _
        · exact .stop _ _
      · exact .stop _ _

end

end Json

end SignatureLint

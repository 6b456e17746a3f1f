import SignatureLint.Text.Search

/-!
# Words, blanks and trimming

No letter of a word or of an identifier is a blank.  ASCII is settled by the
codes; above it no range of the tables holds one of the few blanks.  A text
whose ends are no blanks is its own trimmed form.
-/

namespace SignatureLint.Text

/-! ## Tables -/

theorem searchAbove_spec (key : Nat → Nat) (code low high : Nat) (h : low ≤ high) :
    low ≤ searchAbove key code low high ∧ searchAbove key code low high ≤ high ∧
      (low < searchAbove key code low high →
        key (searchAbove key code low high - 1) ≤ code) := by
  fun_induction searchAbove key code low high with
  | case1 low high inside middle below ih =>
      obtain ⟨atLeast, atMost, found⟩ := ih (by omega)
      refine ⟨by omega, atMost, fun _ => ?_⟩
      rcases Nat.eq_or_lt_of_le atLeast with same | later
      · rw [← same]
        exact below
      · exact found later
  | case2 low high inside middle above ih =>
      obtain ⟨atLeast, atMost, found⟩ := ih (by omega)
      exact ⟨atLeast, by omega, found⟩
  | case3 low high outside =>
      exact ⟨h, Nat.le_refl _, fun later => absurd later outside⟩

theorem RangeSet.exists_range_of_contains {set : RangeSet} {code : Nat}
    (h : set.contains code = true) :
    ∃ range ∈ set.ranges.toList, range.1 ≤ code ∧ code ≤ range.2 := by
  obtain ⟨-, atMost, found⟩ :=
    searchAbove_spec (fun i => (set.ranges.getD i (0, 0)).1) code 0 set.ranges.size (Nat.zero_le _)
  unfold RangeSet.contains at h
  generalize searchAbove (fun i => (set.ranges.getD i (0, 0)).1) code 0 set.ranges.size = above
    at h atMost found
  cases above with
  | zero => cases h
  | succ i =>
      have below := found (Nat.succ_pos i)
      have inside : i < set.ranges.size := atMost
      simp only [Nat.add_sub_cancel, Array.getD_eq_getD_getElem?,
        Array.getElem?_eq_getElem inside, Option.getD_some] at below
      simp only [Array.getD_eq_getD_getElem?, Array.getElem?_eq_getElem inside, Option.getD_some,
        decide_eq_true_eq] at h
      exact ⟨_, Array.getElem_mem_toList inside, below, h⟩

/-- No range of a set holds one of the given codes. -/
def RangeSet.Avoids (set : RangeSet) (codes : List Nat) : Prop :=
  ∀ range ∈ set.ranges.toList, ∀ code ∈ codes, ¬ (range.1 ≤ code ∧ code ≤ range.2)

instance (set : RangeSet) (codes : List Nat) : Decidable (set.Avoids codes) :=
  inferInstanceAs
    (Decidable (∀ range ∈ set.ranges.toList, ∀ code ∈ codes, ¬ (range.1 ≤ code ∧ code ≤ range.2)))

theorem RangeSet.Avoids.not_contains {set : RangeSet} {codes : List Nat} {code : Nat}
    (avoids : set.Avoids codes) (member : code ∈ codes) : set.contains code = false := by
  cases h : set.contains code with
  | false => rfl
  | true =>
      obtain ⟨range, inSet, inRange⟩ := RangeSet.exists_range_of_contains h
      exact absurd inRange (avoids range inSet code member)

/-! ## Blanks -/

def blanksAboveAscii : List Nat :=
  [0x85, 0xA0, 0x1680, 0x2000, 0x2001, 0x2002, 0x2003, 0x2004, 0x2005, 0x2006, 0x2007, 0x2008,
    0x2009, 0x200A, 0x2028, 0x2029, 0x202F, 0x205F, 0x3000]

theorem code_of_isBlank {c : Char} (h : isBlank c = true) :
    c.toNat ≤ 32 ∨ c.toNat ∈ blanksAboveAscii := by
  simp only [isBlank, Bool.or_eq_true, Bool.and_eq_true, decide_eq_true_eq, beq_iff_eq] at h
  simp only [blanksAboveAscii, List.mem_cons, List.not_mem_nil, or_false]
  omega

theorem wordRanges_avoid_blanks : wordRanges.Avoids blanksAboveAscii := by
  unfold wordRanges RangeSet.ofText tableEntries
  rw [String.toList_ofList]
  decide +kernel

theorem identifierPartRanges_avoid_blanks : identifierPartRanges.Avoids blanksAboveAscii := by
  unfold identifierPartRanges RangeSet.ofText tableEntries
  rw [String.toList_ofList]
  decide +kernel

theorem identifierStartRanges_avoid_blanks : identifierStartRanges.Avoids blanksAboveAscii := by
  unfold identifierStartRanges RangeSet.ofText tableEntries
  rw [String.toList_ofList]
  decide +kernel

theorem lt_code_of_isAsciiWord {c : Char} (h : isAsciiWord c = true) : 32 < c.toNat := by
  change (((decide (65 ≤ c.val ∧ c.val ≤ 90) ||
    (decide (97 ≤ c.val) && decide (c.val ≤ 122))) ||
      (decide (48 ≤ c.val) && decide (c.val ≤ 57))) || c == '_') = true at h
  simp only [Bool.or_eq_true, Bool.and_eq_true, decide_eq_true_eq, beq_iff_eq,
    UInt32.le_iff_toNat_le] at h
  change ((((65 ≤ c.toNat ∧ c.toNat ≤ 90) ∨ (97 ≤ c.toNat ∧ c.toNat ≤ 122)) ∨
    (48 ≤ c.toNat ∧ c.toNat ≤ 57)) ∨ c = '_') at h
  rcases h with letterOrDigit | rfl
  · omega
  · decide

theorem not_isBlank_of_class {set : RangeSet} (avoids : set.Avoids blanksAboveAscii) {c : Char}
    (h : (if c.toNat < 128 then isAsciiWord c else set.contains c.toNat) = true) :
    isBlank c = false := by
  cases blank : isBlank c with
  | false => rfl
  | true =>
      exfalso
      split at h
      · have := lt_code_of_isAsciiWord h
        rcases code_of_isBlank blank with low | high
        · omega
        · have : ∀ code ∈ blanksAboveAscii, 128 ≤ code := by decide
          have := this _ high
          omega
      · rcases code_of_isBlank blank with low | high
        · omega
        · rw [avoids.not_contains high] at h
          cases h

theorem not_isBlank_of_isWord {c : Char} (h : isWord c = true) : isBlank c = false :=
  not_isBlank_of_class wordRanges_avoid_blanks h

theorem not_isBlank_of_isIdentifierPart {c : Char} (h : isIdentifierPart c = true) :
    isBlank c = false :=
  not_isBlank_of_class identifierPartRanges_avoid_blanks h

theorem not_isBlank_of_isIdentifierStart {c : Char} (h : isIdentifierStart c = true) :
    isBlank c = false := by
  apply not_isBlank_of_class identifierStartRanges_avoid_blanks
  unfold isIdentifierStart at h
  split at h
  · rename_i ascii
    rw [if_pos ascii]
    simp only [isAsciiWord, Char.isAlphanum, Bool.or_eq_true] at h ⊢
    exact h.imp_left Or.inl
  · rename_i ascii
    rwa [if_neg ascii]

/-! ## Beginnings -/

theorem drop_length_takeWhile (p : Char → Bool) (text : List Char) :
    text.drop (text.takeWhile p).length = text.dropWhile p := by
  calc text.drop (text.takeWhile p).length =
        (text.takeWhile p ++ text.dropWhile p).drop (text.takeWhile p).length := by
        rw [List.takeWhile_append_dropWhile]
    _ = text.dropWhile p := List.drop_left

/-! ## Trimming -/

theorem trimStart_eq_self {text : List Char} (begins : ∀ c ∈ text.head?, isBlank c = false) :
    trimStart text = text := by
  cases text with
  | nil => rfl
  | cons c rest =>
      unfold trimStart
      rw [List.dropWhile_cons_of_neg]
      rw [begins c rfl]
      exact Bool.false_ne_true

/-- A text that neither begins nor ends with a blank. -/
structure Trimmed (text : List Char) : Prop where
  head : ∀ c ∈ text.head?, isBlank c = false
  last : ∀ c ∈ text.getLast?, isBlank c = false

namespace Trimmed

theorem of_forall {text : List Char} (h : ∀ c ∈ text, isBlank c = false) : Trimmed text :=
  ⟨fun c member => h c (List.mem_of_mem_head? member),
    fun c member => h c (List.mem_of_mem_getLast? member)⟩

theorem of_all {text : List Char} (h : text.all (!isBlank ·) = true) : Trimmed text := by
  apply of_forall
  intro c member
  exact (Bool.not_eq_true' _).mp (List.all_eq_true.mp h c member)

theorem append {front back : List Char} (first : Trimmed front) (second : Trimmed back) :
    Trimmed (front ++ back) := by
  constructor
  · intro c member
    cases front with
    | nil => exact second.head c member
    | cons d rest => exact first.head c member
  · intro c member
    rw [List.getLast?_append] at member
    cases last : back.getLast? with
    | none =>
        rw [last] at member
        exact first.last c member
    | some d =>
        rw [last] at member
        exact second.last c (last ▸ member)

theorem of_ends {front back : List Char} (middle : List Char) (first : Trimmed front)
    (second : Trimmed back) (frontNonempty : front ≠ []) (backNonempty : back ≠ []) :
    Trimmed (front ++ middle ++ back) := by
  constructor
  · intro c member
    cases front with
    | nil => exact absurd rfl frontNonempty
    | cons d rest => exact first.head c member
  · intro c member
    rw [List.getLast?_append, List.getLast?_eq_some_getLast backNonempty, Option.some_or,
      ← List.getLast?_eq_some_getLast backNonempty] at member
    exact second.last c member

theorem trimStart_eq {text : List Char} (h : Trimmed text) : trimStart text = text :=
  trimStart_eq_self h.head

theorem trimEnd_eq {text : List Char} (h : Trimmed text) : trimEnd text = text := by
  have reversed : Trimmed text.reverse :=
    ⟨fun c member => h.last c (by rwa [List.head?_reverse] at member),
      fun c member => h.head c (by rwa [List.getLast?_reverse] at member)⟩
  have same := reversed.trimStart_eq
  unfold trimStart at same
  unfold trimEnd
  rw [same, List.reverse_reverse]

theorem trim_eq {text : List Char} (h : Trimmed text) : trim text = text := by
  unfold trim
  rw [h.trimStart_eq, h.trimEnd_eq]

end Trimmed

theorem trimStart_cons_of_isBlank {c : Char} (blank : isBlank c = true) (text : List Char) :
    trimStart (c :: text) = trimStart text := by
  unfold trimStart
  rw [List.dropWhile_cons_of_pos blank]

theorem trimEnd_append_of_blank {blanks : List Char} (blank : ∀ c ∈ blanks, isBlank c = true)
    (text : List Char) : trimEnd (text ++ blanks) = trimEnd text := by
  have passed : ∀ c ∈ blanks.reverse, isBlank c = true :=
    fun c member => blank c (List.mem_reverse.mp member)
  rw [trimEnd, List.reverse_append, List.dropWhile_append_of_pos passed, ← trimEnd]

theorem exists_blanks_trimEnd (text : List Char) :
    ∃ blanks, (∀ c ∈ blanks, isBlank c = true) ∧ text = trimEnd text ++ blanks := by
  refine ⟨(text.reverse.takeWhile isBlank).reverse, fun c member => ?_, ?_⟩
  · exact List.all_eq_true.mp List.all_takeWhile c (List.mem_reverse.mp member)
  · rw [trimEnd, ← List.reverse_append, List.takeWhile_append_dropWhile, List.reverse_reverse]

theorem mem_trim_iff {c : Char} (other : isBlank c = false) (text : List Char) :
    c ∈ trim text ↔ c ∈ text := by
  obtain ⟨blanks, blank, whole⟩ := exists_blanks_trimEnd (trimStart text)
  have dropped {cut : List Char} (blank : ∀ d ∈ cut, isBlank d = true) : c ∉ cut := by
    intro member
    rw [blank c member] at other
    cases other
  have front : c ∉ text.takeWhile isBlank :=
    dropped fun d member => List.all_eq_true.mp List.all_takeWhile d member
  have start : c ∈ trimStart text ↔ c ∈ text := by
    constructor
    · exact fun member => (List.dropWhile_sublist isBlank).subset member
    · intro member
      rw [← List.takeWhile_append_dropWhile (p := isBlank) (l := text)] at member
      exact (List.mem_append.mp member).resolve_left front
  rw [← start, whole, List.mem_append, ← trim]
  exact ⟨Or.inl, fun either => either.resolve_right (dropped blank)⟩

theorem trimEnd_append_blanks {text blanks : List Char}
    (ends : ∀ c ∈ text.getLast?, isBlank c = false) (blank : ∀ c ∈ blanks, isBlank c = true) :
    trimEnd (text ++ blanks) = text := by
  have stays : trimStart text.reverse = text.reverse :=
    trimStart_eq_self fun c member => ends c (by rwa [List.head?_reverse] at member)
  rw [trimStart] at stays
  rw [trimEnd_append_of_blank blank, trimEnd, stays, List.reverse_reverse]

theorem trimmed_trim (text : List Char) : Trimmed (trim text) := by
  have head : ∀ c ∈ (trimStart text).head?, isBlank c = false := by
    intro c member
    have stops := List.head?_dropWhile_not isBlank text
    rw [← trimStart, Option.mem_def.mp member] at stops
    exact stops
  constructor
  · intro c member
    obtain ⟨blanks, -, whole⟩ := exists_blanks_trimEnd (trimStart text)
    rw [whole] at head
    apply head c
    rw [List.head?_append, ← trim, Option.mem_def.mp member]
    rfl
  · intro c member
    have stops := List.head?_dropWhile_not isBlank (trimStart text).reverse
    rw [trim, trimEnd, List.getLast?_reverse] at member
    rw [Option.mem_def.mp member] at stops
    exact stops

theorem exists_blanks_trim {text : List Char} (begins : ∀ c ∈ text.head?, isBlank c = false) :
    ∃ blanks, (∀ c ∈ blanks, isBlank c = true) ∧ text = trim text ++ blanks := by
  rw [trim, trimStart_eq_self begins]
  exact exists_blanks_trimEnd text

end SignatureLint.Text

import SignatureLint.Proofs.Console.Markup

/-!
# Emoji codes in places

A place is a path and two numbers with colons between them, so the number of a line stands where the
name of an emoji may stand.  Three numbers are such names.
-/

namespace SignatureLint.Console

/-! ## Numbers -/

/-- A digit, or the sign of a number. -/
def isNumeral (c : Char) : Bool :=
  c.isDigit || c == '-'

def emojiNumbers : List (List Char) :=
  ["-1".toList, "100".toList, "1234".toList]

/-- An entry of the table that is for no number, or for one of those listed. -/
def IsOrdinary (entry : List Char) : Prop :=
  (entry.takeWhile (· != '=')).all isNumeral = true →
    entry.takeWhile (· != '=') ∈ emojiNumbers

instance (entry : List Char) : Decidable (IsOrdinary entry) :=
  inferInstanceAs (Decidable (_ → _))

theorem isOrdinary_of_mem {entry : List Char} (found : entry ∈ emojiEntries) :
    IsOrdinary entry := by
  have pages : ∀ page ∈ emojiPages, ∀ entry ∈ Text.tableEntries page, IsOrdinary entry := by
    simp only [emojiPages, List.forall_mem_cons]
    refine ⟨?_, ?_, ?_, ?_, ?_, ?_, ?_, ?_, ?_, ?_, ?_, ?_, ?_, ?_, ?_, ?_, ?_, ?_, ?_, ?_, ?_,
      nofun⟩
    all_goals
      unfold Text.tableEntries
      rw [String.toList_ofList]
      decide +kernel
  obtain ⟨page, member, inside⟩ := List.mem_flatMap.mp found
  exact pages page member entry inside

theorem code_of_isNumeral {c : Char} (numeral : isNumeral c = true) :
    45 ≤ c.toNat ∧ c.toNat < 58 := by
  simp only [isNumeral, Char.isDigit, Bool.or_eq_true, Bool.and_eq_true, decide_eq_true_eq,
    beq_iff_eq, UInt32.le_iff_toNat_le] at numeral
  change (48 ≤ c.toNat ∧ c.toNat ≤ 57) ∨ c = '-' at numeral
  rcases numeral with digit | rfl
  · omega
  · decide

theorem ne_of_isNumeral {c d : Char} (numeral : isNumeral c = true) (high : 58 ≤ d.toNat) :
    c ≠ d := by
  rintro rfl
  exact absurd (code_of_isNumeral numeral).2 (Nat.not_lt.mpr high)

theorem isPlain_of_isNumeral {c : Char} (numeral : isNumeral c = true) : isPlain c = true := by
  have code := code_of_isNumeral numeral
  have kept : isDropped c = false := by
    simp only [isDropped, List.contains_eq_mem, List.mem_cons, List.not_mem_nil, or_false,
      decide_eq_false_iff_not]
    omega
  have other (d : Char) (high : 58 ≤ d.toNat) : c ≠ d := ne_of_isNumeral numeral high
  rw [isPlain_iff, isInside, Bool.and_eq_true, bne_iff_ne, bne_iff_ne]
  exact ⟨⟨other '[' (by decide), other ']' (by decide)⟩, other '\\' (by decide), kept⟩

theorem lower_of_numeral {name : List Char} (numeral : ∀ c ∈ name, isNumeral c = true) :
    Text.lower (String.ofList name) = String.ofList name := by
  have from_ (before : List Char) : Text.lowerFrom before name = name := by
    induction name generalizing before with
    | nil => rfl
    | cons c name ih =>
        obtain ⟨here, numeral⟩ := List.forall_mem_cons.mp numeral
        have code := code_of_isNumeral here
        have sigma : (c.toNat == 0x3A3) = false := beq_eq_false_iff_ne.mpr (by omega)
        have same : c.toLower = c := dif_neg fun letter => by
          have above : 65 ≤ c.toNat := UInt32.le_iff_toNat_le.mp letter.1
          omega
        have form : Text.lowerChar c = [c] := by rw [Text.lowerChar, if_pos (by omega), same]
        rw [Text.lowerFrom, sigma, form, ih numeral]
        rfl
  rw [Text.lower, String.toList_ofList, from_]

theorem emojiOf?_of_numeral {name : List Char} (numeral : ∀ c ∈ name, isNumeral c = true)
    (other : name ∉ emojiNumbers) : emojiOf? name = none := by
  have plain : variants.find? (fun x => x.1.isSuffixOf name) = none := by
    have letter : ∀ variant ∈ variants, 'e' ∈ variant.1 := by decide
    refine List.find?_eq_none.mpr fun variant found ends => ?_
    have inside := (List.isSuffixOf_iff_suffix.mp ends).subset (letter variant found)
    exact absurd (numeral _ inside) (by decide)
  have unknown : emojiEntries.find? (name ++ ['=']).isPrefixOf = none := by
    refine List.find?_eq_none.mpr fun entry found begins => other ?_
    obtain ⟨rest, rfl⟩ := List.isPrefixOf_iff_prefix.mp begins
    have key : (name ++ ['='] ++ rest).takeWhile (· != '=') = name := by
      rw [List.append_assoc, List.takeWhile_append_of_pos, List.singleton_append,
        List.takeWhile_cons_of_neg (by decide), List.append_nil]
      exact fun c inside => bne_iff_ne.mpr (ne_of_isNumeral (numeral c inside) (by decide))
    have ordinary := isOrdinary_of_mem found
    rw [IsOrdinary, key] at ordinary
    exact ordinary (List.all_eq_true.mpr numeral)
  unfold emojiOf? emoji?
  rw [lower_of_numeral numeral, String.toList_ofList]
  dsimp only
  rw [plain, unknown]
  rfl

/-! ## Places -/

theorem Nameless.append {front rest : List Char} (first : Nameless (front ++ [':']))
    (second : Nameless (':' :: rest)) : Nameless (front ++ ':' :: rest) := by
  intro before body after whole inside
  rcases List.append_eq_append_iff.mp whole with ⟨between, rfl, same⟩ | ⟨between, rfl, same⟩
  · exact second between body after same inside
  · cases between with
    | nil => exact second [] body after (same.symm) inside
    | cons c between =>
        obtain ⟨rfl, later⟩ := List.cons.inj same
        rcases List.append_eq_append_iff.mp later with ⟨behind, rfl, last⟩ | ⟨behind, rfl, last⟩
        · cases behind with
          | nil => exact first before body [] (by simp) inside
          | cons c behind =>
              obtain ⟨rfl, -⟩ := List.cons.inj last
              exact first before body (behind ++ [':']) (by simp) inside
        · cases behind with
          | nil => exact first before _ [] (by simp) inside
          | cons c behind =>
              -- The colon that joins the texts would be a part of the code.
              obtain ⟨rfl, -⟩ := List.cons.inj last
              exact absurd rfl (inside ':' (by simp)).1

/-- A text without brackets ends no tag in front of it. -/
theorem tagBody?_append_of_inside {tail : List Char} (bracketless : ∀ c ∈ tail, isInside c = true)
    (rest : List Char) : tagBody? (rest ++ tail) = tagBody? rest := by
  have endless {text : List Char} (inside : ∀ c ∈ text, isInside c = true) :
      text.dropWhile isInside = [] := List.dropWhile_eq_nil_iff.mpr inside
  cases rest with
  | nil =>
      cases tail with
      | nil => rfl
      | cons c tail =>
          rw [List.nil_append, tagBody?_cons, endless (List.forall_mem_cons.mp bracketless).2]
          exact if_neg (by simp)
  | cons c rest =>
      rw [List.cons_append, tagBody?_cons, tagBody?_cons, List.dropWhile_append,
        List.takeWhile_append, endless bracketless]
      have whole := List.takeWhile_append_dropWhile (p := isInside) (l := rest)
      cases after : rest.dropWhile isInside with
      | nil => simp
      | cons d after' =>
          have more : (rest.takeWhile isInside).length ≠ rest.length := by
            intro same
            rw [after] at whole
            have := congrArg List.length whole
            simp [same] at this
          rw [if_neg more]
          rfl

/-- A colon and a plain text may stand behind an unmarked text. -/
theorem Unmarked.append {front tail : List Char} (unmarked : Unmarked (front ++ [':']))
    (plains : tail.all isPlain = true) (nameless : Nameless (':' :: tail)) :
    Unmarked (front ++ ':' :: tail) := by
  have plains : ∀ c ∈ ':' :: tail, isPlain c = true :=
    List.forall_mem_cons.mpr ⟨by decide, List.all_eq_true.mp plains⟩
  have inside : ∀ c ∈ ':' :: tail, isInside c = true :=
    fun c found => (isPlain_iff.mp (plains c found)).1
  -- A bracket stands in front of the colon.
  have bracket : ∀ before after, front ++ ':' :: tail = before ++ '[' :: after →
      ∃ between, front = before ++ '[' :: between ∧ after = between ++ ':' :: tail := by
    intro before after whole
    rcases List.append_eq_append_iff.mp whole with ⟨between, rfl, same⟩ | ⟨between, rfl, same⟩
    · have found : '[' ∈ ':' :: tail := by
        rw [same]
        exact List.mem_append_right _ List.mem_cons_self
      exact absurd (inside _ found) (by decide)
    · cases between with
      | nil => cases same
      | cons c between =>
          obtain ⟨rfl, later⟩ := List.cons.inj same
          exact ⟨between, rfl, later⟩
  refine ⟨fun before after whole => ?_, fun before after whole => ?_,
    unmarked.nameless.append nameless, fun c found => ?_⟩
  · obtain ⟨between, rfl, rfl⟩ := bracket before after whole
    have none := unmarked.untagged before (between ++ [':']) (List.append_assoc ..)
    rw [tagBody?_append_of_inside (List.forall_mem_singleton.mpr rfl)] at none
    rw [tagBody?_append_of_inside inside, none]
  · obtain ⟨between, rfl, rfl⟩ := bracket (before ++ ['\\']) after (by rw [whole]; simp)
    exact unmarked.unescaped before (between ++ [':']) (by simp)
  · rcases List.mem_append.mp found with found | found
    · exact unmarked.kept c (List.mem_append_left _ found)
    · exact (isPlain_iff.mp (plains c found)).2.2

theorem nameless_of_count_le {text : List Char} (few : text.count ':' ≤ 1) : Nameless text := by
  rintro front body rest rfl -
  simp only [List.count_append, List.count_cons_self] at few
  omega

theorem unmarked_of_plain {text : List Char} (plains : text.all isPlain = true)
    (few : text.count ':' ≤ 1) : Unmarked text := by
  have plain (c : Char) (found : c ∈ text) := isPlain_iff.mp (List.all_eq_true.mp plains c found)
  refine ⟨fun front rest whole => ?_, fun front rest whole => ?_, nameless_of_count_le few,
    fun c found => (plain c found).2.2⟩
  · refine absurd (plain '[' ?_).1 (by decide)
    rw [whole]
    exact List.mem_append_right front List.mem_cons_self
  · refine absurd rfl (plain '\\' ?_).2.1
    rw [whole]
    exact List.mem_append_right front List.mem_cons_self

theorem shown_of_plain {text : List Char} (plains : text.all isPlain = true)
    (few : text.count ':' ≤ 1) : shown text = text :=
  shown_eq_self (unmarked_of_plain plains few)

theorem takeWhile_append_colon {text : List Char} (colonless : ∀ c ∈ text, c ≠ ':')
    (rest : List Char) : (text ++ ':' :: rest).takeWhile (· != ':') = text := by
  rw [List.takeWhile_append_of_pos fun c found => bne_iff_ne.mpr (colonless c found),
    List.takeWhile_cons_of_neg (by decide), List.append_nil]

theorem colonless_of_numeral {number : List Char} (numeral : ∀ c ∈ number, isNumeral c = true) :
    ∀ c ∈ number, c ≠ ':' :=
  fun c found => ne_of_isNumeral (numeral c found) (by decide)

theorem count_of_numeral {number : List Char} (numeral : ∀ c ∈ number, isNumeral c = true) :
    number.count ':' = 0 :=
  List.count_eq_zero.mpr fun found => colonless_of_numeral numeral ':' found rfl

theorem plains_of_numeral {number : List Char} (numeral : ∀ c ∈ number, isNumeral c = true) :
    number.all isPlain = true :=
  List.all_eq_true.mpr fun c found => isPlain_of_isNumeral (numeral c found)

/-- A place in an unmarked path is unmarked, unless the number of the line is the name of an
emoji. -/
theorem unmarked_place {path line column : List Char} (unmarked : Unmarked (path ++ [':']))
    (numeral : ∀ c ∈ line, isNumeral c = true) (other : line ∉ emojiNumbers)
    (numeral' : ∀ c ∈ column, isNumeral c = true) :
    Unmarked (path ++ ':' :: (line ++ ':' :: column)) := by
  have nameless : Nameless (':' :: line ++ [':']) := by
    intro before body after whole inside
    cases before with
    | nil =>
        have first : (line ++ [':']).takeWhile (· != ':') =
            (body ++ ':' :: after).takeWhile (· != ':') := congrArg _ (List.cons.inj whole).2
        rw [takeWhile_append_colon (colonless_of_numeral numeral),
          takeWhile_append_colon fun c found => (inside c found).1] at first
        rw [← first]
        exact emojiOf?_of_numeral numeral other
    | cons c before =>
        have one : Nameless (line ++ [':']) :=
          nameless_of_count_le (by rw [List.count_append, count_of_numeral numeral]; decide)
        exact one before body after (List.cons.inj whole).2 inside
  refine unmarked.append ?_ ?_
  · rw [List.all_append, List.all_cons, plains_of_numeral numeral, plains_of_numeral numeral']
    rfl
  · exact nameless.append
      (nameless_of_count_le (by rw [List.count_cons_self, count_of_numeral numeral']))

/-! ## Numbers as texts -/

theorem isNumeral_of_mem_toString {number : Int} {c : Char}
    (found : c ∈ (toString number).toList) : isNumeral c = true := by
  have digit {number : Nat} (found : c ∈ number.repr.toList) : isNumeral c = true := by
    rw [Nat.toList_repr] at found
    rw [isNumeral, Nat.isDigit_of_mem_toDigits (by decide) (by decide) found, Bool.true_or]
  cases number with
  | ofNat number => exact digit found
  | negSucc number =>
      change c ∈ ("-" ++ number.succ.repr).toList at found
      rw [String.toList_append] at found
      rcases List.mem_append.mp found with sign | found
      · rw [List.mem_singleton.mp sign]
        rfl
      · exact digit found

theorem isNumeral_of_mem_count (count : Nat) :
    ∀ c ∈ (toString count).toList, isNumeral c = true :=
  fun c found => @isNumeral_of_mem_toString count c found

theorem plains_count (count : Nat) : (toString count).toList.all isPlain = true :=
  plains_of_numeral (isNumeral_of_mem_count count)

theorem shown_count (count : Nat) : shown (toString count).toList = (toString count).toList :=
  shown_of_plain (plains_count count)
    (by rw [count_of_numeral (isNumeral_of_mem_count count)]; decide)

end SignatureLint.Console

import Mathlib.Data.List.TakeWhile
import SignatureLint.Console.Layout
import SignatureLint.Proofs.Text.Ink

/-!
# Texts on lines

A text is broken between its words.  Where long words are folded all of it is seen on the lines.
Where lines are cut all of it is seen except for the ends of words that are wider than a line, if
no blanks are in the way: blanks in front of a word count for its width, and blanks at the end of a
line are dropped by the number of its characters and not of its cells.
-/

namespace SignatureLint.Console

open Text (cells charCells ink wordsOf trimEnd isBlank)

/-! ## Tabulators -/

theorem isBlank_of_mem_blanks {count : Nat} {c : Char} (found : c ∈ blanks count) :
    isBlank c = true := by
  rw [List.eq_of_mem_replicate found]
  decide

theorem withoutTabs_append {front : List Char} (tabless : '\t' ∉ front) (column : Nat)
    (rest : List Char) :
    withoutTabs column (front ++ rest) = front ++ withoutTabs (column + cells front) rest := by
  induction front generalizing column with
  | nil => rfl
  | cons c front ih =>
      obtain ⟨other, tabless⟩ := List.ne_and_not_mem_of_not_mem_cons tabless
      rw [List.cons_append, withoutTabs, if_neg (Ne.symm other), ih tabless, List.cons_append,
        Text.cells, Nat.add_assoc]

theorem withoutTabs_eq_self {text : List Char} (tabless : '\t' ∉ text) (column : Nat) :
    withoutTabs column text = text := by
  have whole := withoutTabs_append tabless column []
  rwa [List.append_nil, withoutTabs, List.append_nil] at whole

theorem wordsOf_withoutTabs (column : Nat) (text : List Char) :
    wordsOf (withoutTabs column text) = wordsOf text := by
  induction size : text.length using Nat.strongRecOn generalizing text column with
  | ind size ih =>
      have tabless {front : List Char} (uncut : ∀ c ∈ front, (c == '\t') = false) :
          '\t' ∉ front := fun found => absurd (uncut _ found) (by decide)
      rcases Text.uncut_or_exists_cut (· == '\t') text with
        uncut | ⟨front, c, rest, uncut, cuts, rfl⟩
      · rw [withoutTabs_eq_self (tabless uncut)]
      · obtain rfl := beq_iff_eq.mp cuts
        obtain ⟨count, some⟩ : ∃ count, ((column + cells front) / 8 + 1) * 8 -
            (column + cells front) = count + 1 := Nat.exists_eq_succ_of_ne_zero (by omega)
        rw [withoutTabs_append (tabless uncut), withoutTabs, if_pos rfl]
        dsimp only
        have later (column : Nat) : wordsOf (withoutTabs column rest) = wordsOf rest := by
          refine ih rest.length ?_ column rest rfl
          rw [← size, List.length_append, List.length_cons]
          omega
        have blank : ∀ c ∈ List.replicate count ' ', isBlank c = true :=
          fun _ found => isBlank_of_mem_blanks found
        rw [some, blanks, List.replicate_succ, List.cons_append, Text.wordsOf_append (by decide),
          Text.wordsOf_append (by decide), Text.wordsOf_append_of_blank blank, later]

/-! ## Words of a line -/

theorem words_nil : words [] = [] := by
  rw [words.eq_def]

theorem words_cons {c first : Char} {rest more : List Char}
    (word : firstWord (c :: rest) = first :: more) :
    words (c :: rest) = (first :: more) :: words (rest.drop more.length) := by
  rw [words.eq_def]
  dsimp only
  rw [word]

theorem words_cons_of_none {c : Char} {rest : List Char} (none : firstWord (c :: rest) = []) :
    words (c :: rest) = [] := by
  rw [words.eq_def]
  dsimp only
  rw [none]

/-- A word with the blanks behind it. -/
def IsWord (word : List Char) : Prop :=
  ∃ body trail, word = body ++ trail ∧ body ≠ [] ∧ (∀ c ∈ body, isBlank c = false) ∧
    ∀ c ∈ trail, isBlank c = true

theorem takeWhile_eq_nil {p : Char → Bool} {text : List Char}
    (begins : ∀ c ∈ text.head?, p c = false) : text.takeWhile p = [] := by
  cases text with
  | nil => rfl
  | cons c rest =>
      exact List.takeWhile_cons_of_neg (by rw [begins c rfl]; exact Bool.false_ne_true)

theorem head?_dropWhile {p : Char → Bool} {text : List Char} :
    ∀ c ∈ (text.dropWhile p).head?, p c = false := by
  intro c found
  have stops := List.head?_dropWhile_not p text
  rw [Option.mem_def.mp found] at stops
  exact stops

/-- A text is blank, or there is a first word with blanks around it. -/
theorem blank_or_exists_word (text : List Char) :
    (∀ c ∈ text, isBlank c = true) ∨
      ∃ lead body trail rest, text = lead ++ (body ++ (trail ++ rest)) ∧
        (∀ c ∈ lead, isBlank c = true) ∧ (∀ c ∈ body, isBlank c = false) ∧ body ≠ [] ∧
        (∀ c ∈ trail, isBlank c = true) ∧ (∀ c ∈ rest.head?, isBlank c = false) ∧
        (trail = [] → rest = []) := by
  have whole := List.takeWhile_append_dropWhile (p := isBlank) (l := text)
  have begins : ∀ c ∈ (text.dropWhile isBlank).head?, isBlank c = false := head?_dropWhile
  have blank (text : List Char) : ∀ c ∈ text.takeWhile isBlank, isBlank c = true :=
    fun c found => List.mem_takeWhile_imp found
  cases after : text.dropWhile isBlank with
  | nil =>
      rw [after, List.append_nil] at whole
      rw [← whole]
      exact .inl (blank text)
  | cons c more =>
      rw [after] at begins whole
      have here : isBlank c = false := begins c rfl
      have word := List.takeWhile_append_dropWhile (p := (!isBlank ·)) (l := c :: more)
      have stops : ∀ d ∈ ((c :: more).dropWhile (!isBlank ·)).head?, isBlank d = true :=
        fun d found => (Bool.not_eq_false' _).mp (head?_dropWhile d found)
      generalize behind_eq : (c :: more).dropWhile (!isBlank ·) = behind at word stops
      have trail := List.takeWhile_append_dropWhile (p := isBlank) (l := behind)
      refine .inr ⟨text.takeWhile isBlank, (c :: more).takeWhile (!isBlank ·),
        behind.takeWhile isBlank, behind.dropWhile isBlank, ?_, blank text, ?_, ?_, blank behind,
        head?_dropWhile, fun none => ?_⟩
      · rw [trail, word, whole]
      · exact fun d found =>
          (Bool.not_eq_true' _).mp (List.mem_takeWhile_imp (p := (!isBlank ·)) found)
      · rw [List.takeWhile_cons_of_pos (by rw [here]; rfl)]
        exact List.cons_ne_nil _ _
      · -- What follows the word begins with a blank, so nothing follows it.
        cases behind with
        | nil => rfl
        | cons d behind =>
            rw [List.takeWhile_cons_of_pos (stops d rfl)] at none
            cases none

theorem words_eq_nil {text : List Char} (blank : ∀ c ∈ text, isBlank c = true) :
    words text = [] := by
  cases text with
  | nil => exact words_nil
  | cons c rest =>
      have none : firstWord (c :: rest) = [] := by
        have lead : (c :: rest).takeWhile isBlank = c :: rest :=
          List.takeWhile_eq_self_iff.mpr blank
        rw [firstWord, lead, List.drop_length]
        rfl
      exact words_cons_of_none none

/-- The first word of a text is taken off with all blanks around it. -/
theorem words_append {lead body trail rest : List Char} (blank : ∀ c ∈ lead, isBlank c = true)
    (filled : ∀ c ∈ body, isBlank c = false) (nonempty : body ≠ [])
    (blank' : ∀ c ∈ trail, isBlank c = true) (begins : ∀ c ∈ rest.head?, isBlank c = false)
    (joint : trail = [] → rest = []) :
    words (lead ++ (body ++ (trail ++ rest))) = (lead ++ body ++ trail) :: words rest := by
  -- the three runs of the first word, each ended by what stands behind it
  have lead_eq : (lead ++ (body ++ (trail ++ rest))).takeWhile isBlank = lead := by
    rw [List.takeWhile_append_of_pos blank, takeWhile_eq_nil, List.append_nil]
    cases body with
    | nil => exact absurd rfl nonempty
    | cons c body => exact fun d found => Option.some.inj found ▸ filled c List.mem_cons_self
  have body_eq : (body ++ (trail ++ rest)).takeWhile (!isBlank ·) = body := by
    rw [List.takeWhile_append_of_pos fun c found => by rw [filled c found]; rfl, takeWhile_eq_nil,
      List.append_nil]
    cases trail with
    | nil =>
        rw [joint rfl]
        exact nofun
    | cons c trail =>
        intro d found
        rw [← Option.some.inj found, blank' c List.mem_cons_self]
        rfl
  have trail_eq : (trail ++ rest).takeWhile isBlank = trail := by
    rw [List.takeWhile_append_of_pos blank', takeWhile_eq_nil begins, List.append_nil]
  have first : firstWord (lead ++ (body ++ (trail ++ rest))) = lead ++ body ++ trail := by
    rw [firstWord, lead_eq, List.drop_left, body_eq, ← List.drop_drop, List.drop_left,
      List.drop_left, trail_eq]
    exact if_neg (by simpa using nonempty)
  have whole : lead ++ (body ++ (trail ++ rest)) = lead ++ body ++ trail ++ rest := by
    rw [List.append_assoc, List.append_assoc]
  rw [whole] at first ⊢
  cases word : lead ++ body ++ trail with
  | nil =>
      rw [List.append_assoc, List.append_eq_nil_iff, List.append_eq_nil_iff] at word
      exact absurd word.2.1 nonempty
  | cons c more =>
      rw [word] at first
      rw [List.cons_append] at first ⊢
      rw [words_cons first, List.drop_left]

theorem eq_nil_of_blank {lead rest : List Char} (blank : ∀ c ∈ lead, isBlank c = true)
    (begins : ∀ c ∈ (lead ++ rest).head?, isBlank c = false) : lead = [] := by
  cases lead with
  | nil => rfl
  | cons c lead =>
      have := begins c rfl
      rw [blank c List.mem_cons_self] at this
      cases this

/-- A line that begins with a word is its words with the blanks behind them. -/
theorem words_spec {text : List Char} (begins : ∀ c ∈ text.head?, isBlank c = false) :
    (words text).flatten = text ∧ (∀ word ∈ words text, IsWord word) ∧
      (words text).map trimEnd = wordsOf text := by
  induction size : text.length using Nat.strongRecOn generalizing text with
  | ind length ih =>
      rcases blank_or_exists_word text with
        blank | ⟨lead, body, trail, rest, rfl, blank, filled, nonempty, blank', begins', joint⟩
      · obtain rfl := eq_nil_of_blank blank (by rwa [List.append_nil])
        rw [words_nil]
        exact ⟨rfl, nofun, rfl⟩
      · obtain rfl := eq_nil_of_blank blank begins
        have shorter : rest.length < length := by
          have := List.length_pos_iff.mpr nonempty
          rw [← size, List.nil_append, List.length_append, List.length_append]
          omega
        obtain ⟨flat, each, named⟩ := ih rest.length shorter begins' rfl
        have word : trimEnd (body ++ trail) = body :=
          Text.trimEnd_append_blanks (fun c found => filled c (List.mem_of_mem_getLast? found))
            blank'
        rw [words_append blank filled nonempty blank' begins' joint]
        refine ⟨?_, List.forall_mem_cons.mpr ⟨⟨body, trail, rfl, nonempty, filled, blank'⟩, each⟩,
          ?_⟩
        · rw [List.flatten_cons, flat, List.nil_append, List.nil_append, List.append_assoc]
        · rw [List.map_cons, named, List.nil_append, List.nil_append, word, ← List.append_assoc,
            Text.wordsOf_word filled nonempty blank' joint]

theorem flatten_words (text : List Char) :
    (words text).flatten = text ∨ words text = [] ∧ ∀ c ∈ text, isBlank c = true := by
  rcases blank_or_exists_word text with
    blank | ⟨lead, body, trail, rest, rfl, blank, filled, nonempty, blank', begins, joint⟩
  · exact .inr ⟨words_eq_nil blank, blank⟩
  · left
    rw [words_append blank filled nonempty blank' begins joint, List.flatten_cons,
      (words_spec begins).1, List.append_assoc, List.append_assoc]

/-! ## Parts of a line -/

theorem cells_trimEnd_le (text : List Char) : cells (trimEnd text) ≤ cells text := by
  obtain ⟨blanks, -, whole⟩ := Text.exists_blanks_trimEnd text
  calc cells (trimEnd text) ≤ cells (trimEnd text) + cells blanks := Nat.le_add_right ..
    _ = cells text := by rw [← Text.cells_append, ← whole]

theorem cells_trimEnd_append_le (front rest : List Char) :
    cells (trimEnd (front ++ rest)) ≤ cells front + cells (trimEnd rest) := by
  obtain ⟨blanks, blank, whole⟩ := Text.exists_blanks_trimEnd rest
  have dropped : trimEnd (front ++ rest) = trimEnd (front ++ trimEnd rest) := by
    rw [← Text.trimEnd_append_of_blank blank (front ++ trimEnd rest), List.append_assoc, ← whole]
  rw [dropped, ← Text.cells_append]
  exact cells_trimEnd_le _

theorem cutAt_cons {from_ start : Nat} {line : Line} (here : from_ + line.length = start)
    (more : List Nat) (rest : List Char) :
    cutAt from_ (start :: more) (line ++ rest) = line :: cutAt start more rest := by
  have length : start - from_ = line.length := by omega
  rw [cutAt, length, List.take_left, List.drop_left]

theorem flatten_cutAt (start : Nat) (offsets : List Nat) (text : List Char) :
    (cutAt start offsets text).flatten = text := by
  induction offsets generalizing start text with
  | nil => exact List.append_nil text
  | cons offset offsets ih => rw [cutAt, List.flatten_cons, ih, List.take_append_drop]

theorem not_first_of_lt {width filled size start : Nat} (beyond : ¬filled + size ≤ width)
    (narrow : ¬width < size) (begins : start = 0 → filled = 0) :
    ¬(filled = 0 || start = 0) = true := by
  rw [Bool.or_eq_true, decide_eq_true_iff, decide_eq_true_iff]
  rintro (none | none)
  · omega
  · have := begins none
    omega

/-- The words of a line fit, or there is one that is wider. -/
def Settled (width : Nat) (group : List (List Char)) : Prop :=
  cells (trimEnd group.flatten) ≤ width ∨ ∃ word, group = [word] ∧ width < cells (trimEnd word)

/-- Some lines are made of groups of words, each of them settled. -/
def Grouped (width : Nat) (ws : List (List Char)) (lines : List Line) : Prop :=
  ∃ groups : List (List (List Char)), lines = groups.map List.flatten ∧ groups.flatten = ws ∧
    ∀ group ∈ groups, Settled width group

theorem Grouped.cons {width : Nat} {group ws : List (List Char)} {lines : List Line}
    (settled : Settled width group) (grouped : Grouped width ws lines) :
    Grouped width (group ++ ws) (group.flatten :: lines) := by
  obtain ⟨groups, rfl, rfl, all⟩ := grouped
  exact ⟨group :: groups, rfl, rfl, List.forall_mem_cons.mpr ⟨settled, all⟩⟩

/-- Where long words are cut a line is broken between words, and each part of it fits or is one
wide word.  The words of the part that is not finished yet come first. -/
theorem grouped_cutAt {width : Nat} {ws : List (List Char)} (each : ∀ word ∈ ws, IsWord word)
    (group : List (List Char)) (from_ start : Nat) (here : from_ + group.flatten.length = start)
    (begins : start = 0 → group = []) (settled : Settled width group) :
    Grouped width (group ++ ws) (cutAt from_ (breaks .cut width start (cells group.flatten) ws)
      (group.flatten ++ ws.flatten)) := by
  induction ws generalizing group from_ start with
  | nil =>
      refine ⟨[group], ?_, ?_, List.forall_mem_singleton.mpr settled⟩
      · rw [breaks, cutAt, List.flatten_nil, List.append_nil]
        rfl
      · rw [List.flatten_singleton, List.append_nil]
  | cons word ws ih =>
      obtain ⟨isWord, each⟩ := List.forall_mem_cons.mp each
      have nonempty : word.length ≠ 0 := by
        obtain ⟨body, trail, rfl, some, -⟩ := isWord
        have := List.length_pos_iff.mpr some
        rw [List.length_append]
        omega
      have single : [word].flatten = word := List.flatten_singleton
      -- The word begins a part.
      have anew {from_ : Nat} (here : from_ = start) (settled : Settled width [word]) :
          Grouped width (word :: ws) (cutAt from_
            (breaks .cut width (start + word.length) (cells word) ws) (word ++ ws.flatten)) := by
        have later := ih each [word] from_ (start + word.length) (by rw [single, here])
          (fun none => absurd none (by omega)) settled
        rwa [single] at later
      rw [List.flatten_cons, breaks]
      split
      · -- the word still fits: it joins the part
        rename_i fits
        have longer : from_ + (group ++ [word]).flatten.length = start + word.length := by
          rw [List.flatten_append, single, List.length_append]
          omega
        have settled' : Settled width (group ++ [word]) := by
          left
          rw [List.flatten_append, single]
          exact Nat.le_trans (cells_trimEnd_append_le _ _) fits
        have later := ih each (group ++ [word]) from_ (start + word.length) longer
          (fun none => absurd none (by omega)) settled'
        rw [List.flatten_append, single, Text.cells_append, List.append_assoc,
          List.append_assoc] at later
        exact later
      · rename_i beyond
        split
        · -- the word alone is too wide for any line: a part of its own, and no other word
          rename_i wide
          have settled' : Settled width [word] := .inr ⟨word, rfl, wide⟩
          by_cases first : start = 0
          · obtain rfl := begins first
            rw [breakAt, if_pos first]
            exact anew (by simpa using here) settled'
          · rw [breakAt, if_neg first, List.singleton_append, cutAt_cons here]
            exact (anew rfl settled').cons settled
        · rename_i narrow
          have inside := not_first_of_lt beyond narrow fun none => by rw [begins none]; rfl
          have settled' : Settled width [word] := .inl (by rw [single]; omega)
          rw [if_neg inside, cutAt_cons here]
          exact (anew rfl settled').cons settled

/-! ## What is seen of a part -/

/-- Only blanks at the end are dropped, and what is left is not longer than it has to be. -/
theorem exists_dropExcess (count : Nat) (line : Line) :
    ∃ blanks, (∀ c ∈ blanks, isBlank c = true) ∧ dropExcess count line = trimEnd line ++ blanks ∧
      (blanks = [] ∨ (trimEnd line ++ blanks).length ≤ count) ∧
      (trimEnd line ++ blanks).Sublist line := by
  obtain ⟨trail, blank, whole⟩ := Text.exists_blanks_trimEnd line
  have length : line.length = (trimEnd line).length + trail.length := by
    rw [← List.length_append, ← whole]
  have dropped : dropExcess count line = trimEnd line ++
      trail.take (trail.length - min trail.length (line.length - count)) := by
    have place : line.length - min (line.length - (trimEnd line).length) (line.length - count) =
        (trimEnd line).length +
          (trail.length - min trail.length (line.length - count)) := by omega
    rw [dropExcess, place]
    calc line.take _ = (trimEnd line ++ trail).take _ := by rw [← whole]
      _ = _ := List.take_length_add_append _
  refine ⟨_, fun c found => blank c (List.mem_of_mem_take found), dropped, ?_, ?_⟩
  · by_cases all : trail.length ≤ line.length - count
    · left
      rw [Nat.min_eq_left all, Nat.sub_self, List.take_zero]
    · right
      rw [List.length_append, List.length_take]
      omega
  · calc (trimEnd line ++ trail.take _).Sublist (trimEnd line ++ trail) :=
        (List.take_sublist _ _).append_left _
      _ = line := whole.symm

theorem ink_dropExcess (count : Nat) (line : Line) : ink (dropExcess count line) = ink line := by
  obtain ⟨blanks, blank, same, -⟩ := exists_dropExcess count line
  rw [same, Text.ink_append, Text.ink_eq_nil blank, List.append_nil, Text.ink_trimEnd]

/-- A line is as wide as it has characters, or has no blanks to be dropped. -/
def Even (line : Line) : Prop :=
  (∀ c ∈ line, isBlank c = false) ∨ ∀ c ∈ line, charCells c ≤ 1

theorem cells_dropExcess_le {width : Nat} {line : Line} (fits : cells (trimEnd line) ≤ width)
    (even : Even line) : cells (dropExcess width line) ≤ width := by
  obtain ⟨blanks, blank, same, short, part⟩ := exists_dropExcess width line
  rw [same]
  rcases even with filled | narrow
  · have none : trimEnd line = line := (Text.Trimmed.of_forall filled).trimEnd_eq
    rw [none] at fits
    exact Nat.le_trans (Text.cells_le_of_sublist part) fits
  · rcases short with rfl | short
    · rwa [List.append_nil]
    · exact Nat.le_trans (Text.cells_le_length fun c found => narrow c (part.subset found)) short

/-- A word as it is shown on a line of some cells: its end is cut off if it is wider. -/
def cropped (width : Nat) (word : List Char) : List Char :=
  if cells word ≤ width then word else takeCells (width - 1) word ++ ['…']

theorem takeCells_append {count : Nat} {front : List Char} (fits : cells front ≤ count)
    (rest : List Char) :
    takeCells count (front ++ rest) = front ++ takeCells (count - cells front) rest := by
  induction front generalizing count with
  | nil => rfl
  | cons c front ih =>
      rw [cells] at fits
      rw [List.cons_append, takeCells, if_pos (by omega), ih (by omega), Text.cells, Nat.sub_sub]
      rfl

theorem takeCells_append_of_lt {count : Nat} {front : List Char} (wide : count < cells front)
    (rest : List Char) : takeCells count (front ++ rest) = takeCells count front := by
  induction front generalizing count with
  | nil => exact absurd wide (Nat.not_lt_zero _)
  | cons c front ih =>
      rw [cells] at wide
      rw [List.cons_append, takeCells, takeCells]
      split
      · rw [ih (by omega)]
      · rfl

theorem takeCells_sublist (count : Nat) (text : List Char) :
    (takeCells count text).Sublist text := by
  induction text generalizing count with
  | nil => exact .slnil
  | cons c text ih =>
      rw [takeCells]
      split
      · exact (ih _).cons_cons c
      · exact List.nil_sublist _

theorem ink_pad (count : Nat) (text : Line) : ink (pad count text) = ink text := by
  rw [pad, Text.ink_append, Text.ink_eq_nil fun _ found => isBlank_of_mem_blanks found,
    List.append_nil]

theorem ink_shorten_fold {width : Nat} {part : Line} (fits : cells (trimEnd part) ≤ width) :
    ink (shorten .fold width (dropExcess width part)) = ink part := by
  obtain ⟨blanks, blank, same, -⟩ := exists_dropExcess width part
  rw [shorten]
  split
  · exact ink_dropExcess width part
  · have nothing : ink (takeCells (width - cells (trimEnd part)) blanks) = [] :=
      Text.ink_eq_nil fun c found => blank c ((takeCells_sublist _ _).subset found)
    rw [fit, ink_pad, same, takeCells_append fits, Text.ink_append, nothing, List.append_nil,
      Text.ink_trimEnd]

theorem IsWord.ink_eq {word : List Char} (h : IsWord word) : ink word = trimEnd word := by
  obtain ⟨body, trail, rfl, -, filled, blank⟩ := h
  rw [Text.ink_append, Text.ink_eq_self filled, Text.ink_eq_nil blank, List.append_nil,
    Text.trimEnd_append_of_blank blank, (Text.Trimmed.of_forall filled).trimEnd_eq]

theorem flatMap_cropped {width : Nat} {ws : List (List Char)} (fits : cells ws.flatten ≤ width) :
    ws.flatMap (cropped width) = ws.flatten := by
  have whole : ∀ word ∈ ws, cropped width word = word := fun word found =>
    if_pos (Nat.le_trans (Text.cells_le_of_sublist (List.sublist_flatten_of_mem found)) fits)
  rw [List.flatMap_def, List.map_congr_left whole, List.map_id']

theorem ink_flatten {group : List (List Char)} (each : ∀ word ∈ group, IsWord word) :
    ink group.flatten = (group.map trimEnd).flatten := by
  induction group with
  | nil => rfl
  | cons word group ih =>
      obtain ⟨isWord, each⟩ := List.forall_mem_cons.mp each
      rw [List.flatten_cons, Text.ink_append, isWord.ink_eq, ih each, List.map_cons,
        List.flatten_cons]

theorem ink_shorten_word {width : Nat} {word : List Char} (isWord : IsWord word)
    (wide : width < cells (trimEnd word)) :
    ink (shorten .cut width (dropExcess width word)) = cropped width (trimEnd word) := by
  obtain ⟨blanks, -, same, -⟩ := exists_dropExcess width word
  have beyond : ¬cells (trimEnd word ++ blanks) ≤ width := by
    rw [Text.cells_append]
    omega
  have filled : ∀ c ∈ trimEnd word, isBlank c = false := by
    rw [← isWord.ink_eq]
    exact fun c found => (Bool.not_eq_true' _).mp (List.mem_filter.mp found).2
  rw [shorten, same, if_neg beyond, fit, takeCells_append_of_lt (by omega), Text.ink_append,
    ink_pad, Text.ink_eq_self fun c found => filled c ((takeCells_sublist _ _).subset found),
    cropped, if_neg (by omega)]
  rfl

theorem ink_shorten_cut {width : Nat} {group : List (List Char)}
    (each : ∀ word ∈ group, IsWord word) (even : Even group.flatten)
    (settled : Settled width group) :
    ink (shorten .cut width (dropExcess width group.flatten)) =
      (group.map trimEnd).flatMap (cropped width) := by
  rcases settled with fits | ⟨word, rfl, wide⟩
  · have narrow : cells (group.map trimEnd).flatten ≤ width := by
      rw [← ink_flatten each, ← Text.ink_trimEnd]
      exact Nat.le_trans (Text.cells_le_of_sublist List.filter_sublist) fits
    rw [shorten, if_pos (cells_dropExcess_le fits even), ink_dropExcess, ink_flatten each,
      flatMap_cropped narrow]
  · rw [List.flatten_singleton, ink_shorten_word (each word List.mem_cons_self) wide,
      List.map_singleton, List.flatMap_singleton]

/-! ## Where lines are cut -/

/-- A line that fits, or one that begins with a word and of which no blank is in the way. -/
def Orderly (width : Nat) (line : Line) : Prop :=
  cells (withoutTabs 0 line) ≤ width ∨ (∀ c ∈ line.head?, isBlank c = false) ∧ Even line

/-- A line that begins with no blank and has no wide characters. -/
def isNarrow (line : Line) : Bool :=
  line.head?.all (!isBlank ·) && line.all (charCells · ≤ 1)

theorem orderly_of_isNarrow {line : Line} (narrow : isNarrow line = true) (width : Nat) :
    Orderly width line := by
  rw [isNarrow, Bool.and_eq_true, List.all_eq_true] at narrow
  refine .inr ⟨fun c found => ?_, .inr fun c found => of_decide_eq_true (narrow.2 c found)⟩
  rw [Option.mem_def.mp found] at narrow
  exact (Bool.not_eq_true' _).mp narrow.1

theorem breaks_eq_nil {long : LongWords} {width start filled : Nat} {ws : List (List Char)}
    (fits : filled + cells ws.flatten ≤ width) : breaks long width start filled ws = [] := by
  induction ws generalizing start filled with
  | nil => rfl
  | cons word ws ih =>
      have := cells_trimEnd_le word
      rw [List.flatten_cons, Text.cells_append] at fits
      rw [breaks.eq_def]
      dsimp only
      rw [if_pos (by omega), ih (by omega)]

theorem mem_of_mem_withoutTabs {column : Nat} {text : List Char} {c : Char}
    (found : c ∈ withoutTabs column text) : c = ' ' ∨ c ∈ text := by
  induction text generalizing column with
  | nil => exact .inr found
  | cons d text ih =>
      rw [withoutTabs] at found
      split at found
      · rcases List.mem_append.mp found with blank | found
        · exact .inl (List.eq_of_mem_replicate blank)
        · exact (ih found).imp_right (List.mem_cons_of_mem d)
      · rcases List.mem_cons.mp found with rfl | found
        · exact .inr List.mem_cons_self
        · exact (ih found).imp_right (List.mem_cons_of_mem d)

theorem Even.withoutTabs {line : Line} (even : Even line) (column : Nat) :
    Even (withoutTabs column line) := by
  rcases even with filled | narrow
  · rw [withoutTabs_eq_self (fun found => absurd (filled _ found) (by decide))]
    exact .inl filled
  · refine .inr fun c found => ?_
    rcases mem_of_mem_withoutTabs found with rfl | found
    · decide
    · exact narrow c found

theorem head?_withoutTabs {line : Line} (begins : ∀ c ∈ line.head?, isBlank c = false)
    (column : Nat) : ∀ c ∈ (withoutTabs column line).head?, isBlank c = false := by
  cases line with
  | nil => exact nofun
  | cons c line =>
      have here := begins c rfl
      rw [Console.withoutTabs, if_neg (by rintro rfl; exact absurd here (by decide))]
      exact begins

theorem ink_shorten_breaks {long : LongWords} {width : Nat} {text : List Char}
    (fits : cells text ≤ width) :
    ink ((cutAt 0 (breaks long width 0 0 (words text)) text).map fun part =>
      shorten long width (dropExcess width part)).flatten = ink text := by
  have unbroken : breaks long width 0 0 (words text) = [] := by
    refine breaks_eq_nil ?_
    rcases flatten_words text with whole | ⟨none, -⟩
    · rwa [whole, Nat.zero_add]
    · rw [none]
      exact Nat.zero_le _
  have short : cells (dropExcess width text) ≤ width := by
    obtain ⟨blanks, -, same, -, part⟩ := exists_dropExcess width text
    rw [same]
    exact Nat.le_trans (Text.cells_le_of_sublist part) fits
  rw [unbroken, cutAt, List.map_singleton, List.flatten_singleton, shorten.eq_def, if_pos short,
    ink_dropExcess]

theorem ink_map_flatten {shortened : Line → Line} {seen : List Char → List Char}
    {groups : List (List (List Char))}
    (each : ∀ group ∈ groups, ink (shortened group.flatten) = (group.map trimEnd).flatMap seen) :
    ink ((groups.map List.flatten).map shortened).flatten =
      (groups.flatten.map trimEnd).flatMap seen := by
  induction groups with
  | nil => rfl
  | cons group groups ih =>
      obtain ⟨here, each⟩ := List.forall_mem_cons.mp each
      rw [List.map_cons, List.map_cons, List.flatten_cons, Text.ink_append, here, ih each,
        List.flatten_cons, List.map_append, List.flatMap_append]

theorem Even.subset {part line : Line} (even : Even line) (sub : part ⊆ line) : Even part :=
  even.imp (fun filled _ inside => filled _ (sub inside)) fun narrow _ inside =>
    narrow _ (sub inside)

/-- Where long words are cut the words of an orderly line are seen, wide ones without their
ends. -/
theorem ink_wrapLine_cut {width : Nat} {line : Line} (orderly : Orderly width line) :
    ink (wrapLine .cut width line).flatten = (wordsOf line).flatMap (cropped width) := by
  rw [wrapLine, ← wordsOf_withoutTabs 0 line]
  rcases orderly with fits | ⟨begins, even⟩
  · generalize withoutTabs 0 line = text at fits
    have narrow : cells (wordsOf text).flatten ≤ width := by
      rw [Text.flatten_wordsOf]
      exact Nat.le_trans (Text.cells_le_of_sublist List.filter_sublist) fits
    rw [flatMap_cropped narrow, Text.flatten_wordsOf]
    exact ink_shorten_breaks fits
  · have begins := head?_withoutTabs begins 0
    have even := even.withoutTabs 0
    generalize Console.withoutTabs 0 line = text at begins even
    obtain ⟨whole, each, named⟩ := words_spec begins
    obtain ⟨groups, parts, flat, settled⟩ :=
      grouped_cutAt each [] 0 0 rfl (fun _ => rfl) (.inl (Nat.zero_le width))
    rw [List.nil_append] at flat
    rw [List.flatten_nil, List.nil_append, whole, Text.cells_nil] at parts
    rw [parts, ← named, ← flat]
    refine ink_map_flatten fun group found => ?_
    have here : ∀ word ∈ group, word ∈ words text := fun word inside =>
      flat ▸ List.mem_flatten_of_mem found inside
    refine ink_shorten_cut (fun word member => each word (here word member))
      (even.subset fun c inside => ?_) (settled group found)
    obtain ⟨word, member, inside⟩ := List.mem_flatten.mp inside
    rw [← whole]
    exact List.mem_flatten_of_mem (here word member) inside

/-! ## Where long words are folded -/

/-- Pieces of a text are not wider than a line. -/
theorem chopAfter_spec {width : Nat} (wide : 2 ≤ width) (line : Line) (fits : cells line ≤ width)
    (text : List Char) :
    (chopAfter width line (cells line) text).flatten = line.reverse ++ text ∧
      chopAfter width line (cells line) text ≠ [] ∧
      ∀ piece ∈ chopAfter width line (cells line) text, cells piece ≤ width := by
  induction text generalizing line with
  | nil =>
      refine ⟨rfl, List.cons_ne_nil _ _, List.forall_mem_singleton.mpr ?_⟩
      rwa [Text.cells_reverse]
  | cons c text ih =>
      rw [chopAfter]
      split
      · have one : charCells c ≤ width := Nat.le_trans (Text.charCells_le_two c) wide
        obtain ⟨flat, -, each⟩ := ih [c] one
        refine ⟨?_, List.cons_ne_nil _ _, List.forall_mem_cons.mpr ⟨?_, each⟩⟩
        · rw [List.flatten_cons]
          exact congrArg (line.reverse ++ ·) flat
        · rwa [Text.cells_reverse]
      · rename_i room
        have more : cells (c :: line) = cells line + charCells c := Nat.add_comm _ _
        obtain ⟨flat, some, each⟩ := ih (c :: line) (by omega)
        rw [more] at flat some each
        refine ⟨?_, some, each⟩
        rw [flat, List.reverse_cons, List.append_assoc]
        rfl

/-- What holds of a line that is not finished yet and of the pieces of a word holds of all parts of
a line, if it does when the last piece is the line that is not finished. -/
theorem forall_mem_cutAt_pieceStarts {P : Line → Prop} {pieces : List Line}
    (each : ∀ piece ∈ pieces, P piece) {more : List Nat} {rest : List Char} (line : Line)
    (from_ start : Nat) (here : from_ + line.length = start) (begins : start = 0 → line = [])
    (holds : P line)
    (later : ∀ from_, from_ + (pieces.getLastD line).length = start + pieces.flatten.length →
      ∀ part ∈ cutAt from_ more (pieces.getLastD line ++ rest), P part) :
    ∀ part ∈ cutAt from_ (pieceStarts start pieces ++ more) (line ++ (pieces.flatten ++ rest)),
      P part := by
  induction pieces generalizing line from_ start with
  | nil => exact later from_ here
  | cons piece pieces ih =>
      obtain ⟨first, each⟩ := List.forall_mem_cons.mp each
      have after (from_ : Nat) (here : from_ = start) :
          ∀ part ∈ cutAt from_ (pieceStarts (start + piece.length) pieces ++ more)
            (piece ++ (pieces.flatten ++ rest)), P part := by
        refine ih each piece from_ (start + piece.length) (by rw [here])
          (fun none => List.length_eq_zero_iff.mp (by omega)) first fun from_ last => ?_
        rw [List.getLastD_cons, List.flatten_cons, List.length_append, ← Nat.add_assoc] at later
        exact later from_ last
      rw [pieceStarts, List.flatten_cons, List.append_assoc, List.append_assoc]
      by_cases zero : start = 0
      · obtain rfl := begins zero
        rw [breakAt, if_pos zero]
        exact after from_ here
      · rw [breakAt, if_neg zero, List.singleton_append, cutAt_cons here]
        exact List.forall_mem_cons.mpr ⟨holds, after start rfl⟩

/-- Where long words are folded every part of a line fits.  The part that is not finished yet comes
first. -/
theorem fits_of_mem_cutAt {width : Nat} (wide : 2 ≤ width) {ws : List (List Char)} (line : Line)
    (from_ start : Nat) (here : from_ + line.length = start) (begins : start = 0 → line = [])
    (fits : cells (trimEnd line) ≤ width) :
    ∀ part ∈ cutAt from_ (breaks .fold width start (cells line) ws) (line ++ ws.flatten),
      cells (trimEnd part) ≤ width := by
  induction ws generalizing line from_ start with
  | nil =>
      rw [breaks, cutAt, List.flatten_nil, List.append_nil]
      exact List.forall_mem_singleton.mpr fits
  | cons word ws ih =>
      have longer : start + word.length = 0 → start = 0 ∧ word = [] := fun none =>
        ⟨by omega, List.length_eq_zero_iff.mp (by omega)⟩
      rw [List.flatten_cons, breaks]
      split
      · rename_i room
        have later := ih (line ++ word) from_ (start + word.length)
          (by rw [List.length_append]; omega)
          (fun none => by rw [begins (longer none).1, (longer none).2]; rfl)
          (Nat.le_trans (cells_trimEnd_append_le _ _) room)
        rwa [Text.cells_append, List.append_assoc] at later
      · rename_i beyond
        split
        · -- the word is chopped; only the last piece can be followed by more words, so the rest is
          -- read with that piece as the part that is not finished
          rename_i long
          have chopped := chopAfter_spec wide [] (Nat.zero_le width) word
          rw [Text.cells_nil, List.reverse_nil, List.nil_append] at chopped
          change (chop width word).flatten = word ∧ chop width word ≠ [] ∧
            ∀ piece ∈ chop width word, cells piece ≤ width at chopped
          dsimp only
          generalize chop width word = pieces at chopped
          obtain ⟨rfl, some, each⟩ := chopped
          have last : pieces.getLastD [] = pieces.getLastD line := by
            cases pieces with
            | nil => exact absurd rfl some
            | cons piece pieces => rw [List.getLastD_cons, List.getLastD_cons]
          have trimmed : ∀ piece ∈ pieces, cells (trimEnd piece) ≤ width := fun piece found =>
            Nat.le_trans (cells_trimEnd_le piece) (each piece found)
          rw [last]
          refine forall_mem_cutAt_pieceStarts trimmed line from_ start here begins fits
            fun from_ here => ih (pieces.getLastD line) from_ _ here (fun none => ?_) ?_
          · rw [(longer none).2] at long
            exact absurd long (Nat.not_lt_zero _)
          · have all : ∀ piece ∈ line :: pieces, cells (trimEnd piece) ≤ width :=
              List.forall_mem_cons.mpr ⟨fits, trimmed⟩
            exact all _ (List.getLastD_mem_cons ..)
        · rename_i narrow
          have inside := not_first_of_lt beyond narrow fun none => by rw [begins none]; rfl
          have zero : start ≠ 0 := fun none => inside (by simp [none])
          rw [if_neg inside, cutAt_cons here]
          exact List.forall_mem_cons.mpr ⟨fits, ih word start (start + word.length) rfl
            (fun none => absurd none (by omega)) (by omega)⟩

/-- Where long words are folded all of a line is seen. -/
theorem ink_wrapLine_fold {width : Nat} (wide : 2 ≤ width) (line : Line) :
    ink (wrapLine .fold width line).flatten = ink line := by
  rw [wrapLine, ← Text.flatten_wordsOf line, ← wordsOf_withoutTabs 0 line, Text.flatten_wordsOf]
  generalize withoutTabs 0 line = text
  generalize starts : breaks .fold width 0 0 (words text) = offsets
  have each : ∀ part ∈ cutAt 0 offsets text, cells (trimEnd part) ≤ width := by
    rcases flatten_words text with whole | ⟨none, blank⟩
    · have all : ∀ part ∈ cutAt 0 (breaks .fold width 0 (cells []) (words text))
          (words text).flatten, cells (trimEnd part) ≤ width :=
        fits_of_mem_cutAt wide [] 0 0 rfl (fun _ => rfl) (Nat.zero_le width)
      rwa [Text.cells_nil, starts, whole] at all
    · rw [← starts, none, breaks, cutAt]
      refine List.forall_mem_singleton.mpr ?_
      have nothing : trimEnd text = [] := Text.trimEnd_append_of_blank blank []
      rw [nothing]
      exact Nat.zero_le width
  have whole := flatten_cutAt 0 offsets text
  generalize cutAt 0 offsets text = parts at each whole
  rw [← whole]
  clear whole starts
  induction parts with
  | nil => rfl
  | cons part parts ih =>
      obtain ⟨fits, each⟩ := List.forall_mem_cons.mp each
      rw [List.map_cons, List.flatten_cons, List.flatten_cons, Text.ink_append, Text.ink_append,
        ink_shorten_fold fits, ih each]

/-! ## Texts of several lines -/

theorem ink_wrap (long : LongWords) (width : Nat) (text : List Char) :
    ink (wrap long width text).flatten =
      (Text.pieces (· == '\n') text).flatMap fun line =>
        ink (wrapLine long width line).flatten := by
  rw [wrap]
  generalize Text.pieces (· == '\n') text = lines
  induction lines with
  | nil => rfl
  | cons line lines ih =>
      rw [List.flatMap_cons, List.flatten_append, Text.ink_append, ih, List.flatMap_cons]

theorem isBlank_of_lineEnd (c : Char) (ends : (c == '\n') = true) : isBlank c = true := by
  rw [beq_iff_eq.mp ends]
  decide

theorem ink_wrap_fold {width : Nat} (wide : 2 ≤ width) (text : List Char) :
    ink (wrap .fold width text).flatten = ink text := by
  rw [ink_wrap, Text.ink_eq_flatMap isBlank_of_lineEnd text, List.flatMap_def, List.flatMap_def,
    List.map_congr_left fun line _ => ink_wrapLine_fold wide line]

/-- Where long words are cut the words of a text of orderly lines are seen, wide ones without their
ends. -/
theorem ink_wrap_cut {width : Nat} {text : List Char}
    (orderly : ∀ line ∈ Text.pieces (· == '\n') text, Orderly width line) :
    ink (wrap .cut width text).flatten = (wordsOf text).flatMap (cropped width) := by
  rw [ink_wrap, Text.wordsOf_eq_flatMap isBlank_of_lineEnd text, List.flatMap_assoc,
    List.flatMap_def, List.flatMap_def,
    List.map_congr_left fun line found => ink_wrapLine_cut (orderly line found)]

theorem ink_ofLines (lines : List Line) : ink (ofLines lines).toList = ink lines.flatten := by
  rw [ofLines, String.toList_ofList]
  induction lines with
  | nil => rfl
  | cons line lines ih =>
      have lineEnd : ink ['\n'] = [] := by decide
      rw [List.flatMap_cons, List.flatten_cons, Text.ink_append, Text.ink_append, Text.ink_append,
        lineEnd, List.append_nil, ih]

end SignatureLint.Console

import Mathlib.Data.List.Chain
import Mathlib.Data.List.TakeWhile
import SignatureLint.Proofs.TypeRef.RoundTrip

/-!
# What is accepted as a type

A text that is taken for a type has markers in front and perhaps the sign of an absent value
behind.  What is left ends in a word, or in a word and arguments in brackets.  Nothing else
is looked at: neither what stands before the last full stop of the name, nor the brackets
between the first one and the last.  So what is left is a dotted name with its arguments
when these two places are in order, and only then.
-/

namespace SignatureLint.TypeRef

/-! ## Markers and signs -/

/-- Markers in front of a type, each with the blanks behind it. -/
inductive Marks : List Char → Prop
  | none : Marks []
  | one {name argument blanks rest : List Char}
      (named : name ≠ [] ∧ ∀ c ∈ name, isNameChar c = true)
      (argued : argument = [] ∨ ∃ inside, ')' ∉ inside ∧ argument = '(' :: inside ++ [')'])
      (parted : blanks ≠ [] ∧ ∀ c ∈ blanks, Text.isBlank c = true)
      (more : Marks rest) :
      Marks ('@' :: name ++ argument ++ blanks ++ rest)

/-- The sign of an absent value behind a type, with the blanks before it. -/
inductive Signs : List Char → Prop
  | none : Signs []
  | questionMark {blanks : List Char} (blank : ∀ c ∈ blanks, Text.isBlank c = true) :
      Signs (blanks ++ ['?'])
  | alternative {blanks : List Char} (blank : ∀ c ∈ blanks, Text.isBlank c = true) :
      Signs (blanks ++ "| None".toList)

theorem afterMarkerArgument?_sound {text after : List Char}
    (h : afterMarkerArgument? text = some after) :
    ∃ inside, ')' ∉ inside ∧ text = '(' :: inside ++ [')'] ++ after := by
  unfold afterMarkerArgument? at h
  split at h
  · rename_i rest
    split at h
    · rename_i closer tail dropped
      obtain rfl := Option.some.inj h
      have stops := List.head?_dropWhile_not (· != ')') rest
      rw [dropped] at stops
      obtain rfl : closer = ')' := by simpa using stops
      refine ⟨rest.takeWhile (· != ')'), fun member => ?_, ?_⟩
      · simpa using List.mem_takeWhile_imp member
      · rw [List.cons_append, List.cons_append, List.append_assoc, List.singleton_append,
          ← dropped, List.takeWhile_append_dropWhile]
    · cases h
  · cases h

theorem afterBlanks?_sound {text after : List Char} (h : afterBlanks? text = some after) :
    ∃ blanks, (blanks ≠ [] ∧ ∀ c ∈ blanks, Text.isBlank c = true) ∧ text = blanks ++ after ∧
      ∀ c ∈ after.head?, Text.isBlank c = false := by
  unfold afterBlanks? at h
  split at h
  · rename_i c rest
    split at h
    · rename_i blank
      obtain rfl := Option.some.inj h
      refine ⟨c :: rest.takeWhile Text.isBlank, ⟨List.cons_ne_nil _ _, fun d member => ?_⟩, ?_, ?_⟩
      · rcases List.mem_cons.mp member with rfl | member
        · exact blank
        · exact List.mem_takeWhile_imp member
      · rw [Text.trimStart, List.cons_append, List.takeWhile_append_dropWhile]
      · intro d member
        have stops := List.head?_dropWhile_not Text.isBlank rest
        rw [Text.trimStart] at member
        rw [member] at stops
        simpa using stops
    · cases h
  · cases h

/-- A marker that is found stands in front of the text. -/
theorem marker?_sound {text name after : List Char} (h : marker? text = some (name, after)) :
    ∃ front, (∀ rest, Marks rest → Marks (front ++ rest)) ∧ text = front ++ after ∧
      ∀ c ∈ after.head?, Text.isBlank c = false := by
  unfold marker? at h
  split at h
  · rename_i rest
    dsimp only at h
    split at h
    · cases h
    · rename_i nonempty
      obtain ⟨found, parted, pair⟩ := Option.map_eq_some_iff.mp h
      obtain ⟨rfl, rfl⟩ := Prod.mk.inj pair
      obtain ⟨blanks, blank, cut, begins⟩ := afterBlanks?_sound parted
      have named : rest.takeWhile isNameChar ≠ [] ∧
          ∀ c ∈ rest.takeWhile isNameChar, isNameChar c = true :=
        ⟨fun empty => nonempty (List.isEmpty_iff.mpr empty),
          fun c member => List.mem_takeWhile_imp member⟩
      -- the marker may take an argument in brackets; the blanks are those behind it or behind the
      -- name
      have argued : ∃ argument,
          (argument = [] ∨ ∃ inside, ')' ∉ inside ∧ argument = '(' :: inside ++ [')']) ∧
          rest.dropWhile isNameChar = argument ++ blanks ++ found := by
        cases argument : afterMarkerArgument? (rest.dropWhile isNameChar) with
        | none =>
            rw [argument, Option.getD_none] at cut
            exact ⟨[], Or.inl rfl, cut⟩
        | some tail =>
            rw [argument, Option.getD_some] at cut
            obtain ⟨inside, closed, whole⟩ := afterMarkerArgument?_sound argument
            refine ⟨_, Or.inr ⟨inside, closed, rfl⟩, ?_⟩
            rw [whole, cut]
            exact (List.append_assoc _ blanks found).symm
      obtain ⟨argument, shape, whole⟩ := argued
      refine ⟨'@' :: rest.takeWhile isNameChar ++ argument ++ blanks,
        fun more marks => .one named shape blank marks, ?_, begins⟩
      rw [List.append_assoc, List.append_assoc, ← List.append_assoc argument, ← whole,
        List.cons_append, List.takeWhile_append_dropWhile]
  · cases h

theorem splitMarkers_sound {text : List Char} (trimmed : Text.Trimmed text) :
    ∃ front, Marks front ∧ text = front ++ (splitMarkers text).2 ∧
      Text.Trimmed (splitMarkers text).2 := by
  fun_induction splitMarkers text with
  | case1 text => exact ⟨[], .none, rfl, trimmed⟩
  | case2 text name after found names core split ih =>
      obtain ⟨front, marks, rfl, begins⟩ := marker?_sound found
      have rest : Text.Trimmed after := by
        refine ⟨begins, fun c member => trimmed.last c ?_⟩
        rw [List.getLast?_append, Option.mem_def.mp member, Option.some_or]
        rfl
      rw [rest.trim_eq] at split ih
      obtain ⟨front', marks', whole, inner⟩ := ih rest
      rw [split] at whole inner
      refine ⟨front ++ front', marks _ marks', ?_, inner⟩
      rw [List.append_assoc, ← whole]

theorem dropEnding?_sound {ending text core : List Char}
    (h : Text.dropEnding? ending text = some core) : text = core ++ ending := by
  unfold Text.dropEnding? at h
  split at h
  · rename_i isSuffix
    obtain ⟨front, rfl⟩ := List.isSuffixOf_iff_suffix.mp isSuffix
    obtain rfl := Option.some.inj h
    simp
  · cases h

theorem splitNullability_sound {text : List Char} (trimmed : Text.Trimmed text) :
    ∃ back, Signs back ∧ text = (splitNullability text).2 ++ back ∧
      Text.Trimmed (splitNullability text).2 := by
  have before {core ending : List Char} (whole : text = core ++ ending) :
      ∃ blanks, (∀ c ∈ blanks, Text.isBlank c = true) ∧
        text = Text.trim core ++ (blanks ++ ending) := by
    have begins : ∀ c ∈ core.head?, Text.isBlank c = false := by
      intro c member
      refine trimmed.head c ?_
      rw [whole, List.head?_append, Option.mem_def.mp member]
      rfl
    obtain ⟨blanks, blank, cut⟩ := Text.exists_blanks_trim begins
    refine ⟨blanks, blank, ?_⟩
    rw [← List.append_assoc, ← cut, whole]
  unfold splitNullability
  split
  · rename_i core dropped
    obtain ⟨blanks, blank, whole⟩ := before (dropEnding?_sound dropped)
    exact ⟨_, .questionMark blank, whole, Text.trimmed_trim core⟩
  · split
    · rename_i core dropped
      obtain ⟨blanks, blank, whole⟩ := before (dropEnding?_sound dropped)
      exact ⟨_, .alternative blank, whole, Text.trimmed_trim core⟩
    · exact ⟨[], .none, (List.append_nil _).symm, trimmed⟩

/-! ## Brackets -/

/-- The opening and closing bracket of each kind. -/
inductive Paired : Char → Char → Prop
  | round : Paired '(' ')'
  | square : Paired '[' ']'
  | angle : Paired '<' '>'

/-- Brackets that are closed in the order in which they have to be. -/
inductive Balanced : List Char → Prop
  | none : Balanced []
  | group {left right : Char} {inner rest : List Char} (paired : Paired left right)
      (inside : Balanced inner) (behind : Balanced rest) :
      Balanced (left :: inner ++ right :: rest)

/-- The brackets of a text.  The tip of an arrow is none. -/
def bracketsOf : List Char → List Char
  | [] => []
  | '-' :: '>' :: rest => bracketsOf rest
  | c :: rest => if isBracket c then c :: bracketsOf rest else bracketsOf rest

/-- The bracket that closes an opening one of any kind. -/
def partner? : Char → Option Char
  | '(' => some ')'
  | '[' => some ']'
  | '<' => some '>'
  | _ => none

/-- Whether brackets close those that are awaited, and those that they open. -/
def closes : List Char → List Char → Bool
  | awaited, [] => awaited.isEmpty
  | awaited, c :: rest =>
      match partner? c with
      | some right => closes (right :: awaited) rest
      | none =>
          match awaited with
          | [] => false
          | right :: outer => c == right && closes outer rest

theorem closes_cons_of_some {c right : Char} (opens : partner? c = some right)
    (awaited rest : List Char) : closes awaited (c :: rest) = closes (right :: awaited) rest := by
  rw [closes.eq_def]
  simp only [opens]

theorem closes_cons_of_none {c : Char} (ends : partner? c = none) (right : Char)
    (outer rest : List Char) :
    closes (right :: outer) (c :: rest) = (c == right && closes outer rest) := by
  rw [closes.eq_def]
  simp only [ends]

theorem Paired.partners {left right : Char} (paired : Paired left right) :
    partner? left = some right ∧ partner? right = none := by
  cases paired <;> exact ⟨rfl, rfl⟩

theorem paired_of_partner? {left right : Char} (h : partner? left = some right) :
    Paired left right := by
  unfold partner? at h
  split at h
  · obtain rfl := Option.some.inj h
    exact .round
  · obtain rfl := Option.some.inj h
    exact .square
  · obtain rfl := Option.some.inj h
    exact .angle
  · cases h

theorem Balanced.closes_append {brackets : List Char} (balanced : Balanced brackets)
    (awaited rest : List Char) : closes awaited (brackets ++ rest) = closes awaited rest := by
  induction balanced generalizing awaited rest with
  | none => rfl
  | @group left right inner behind paired _ _ inside outside =>
      obtain ⟨opens, ends⟩ := paired.partners
      rw [List.append_assoc, List.cons_append, closes_cons_of_some opens, inside,
        List.cons_append, closes_cons_of_none ends, beq_self_eq_true, Bool.true_and, outside]

/-- Brackets that close what is awaited are balanced up to the first one that is awaited. -/
theorem exists_balanced_of_closes (awaited brackets : List Char)
    (h : closes awaited brackets = true) :
    ∃ front, Balanced front ∧
      (awaited = [] ∧ brackets = front ∨
        ∃ right outer rest, awaited = right :: outer ∧ brackets = front ++ right :: rest ∧
          closes outer rest = true) := by
  match brackets with
  | [] =>
      refine ⟨[], .none, Or.inl ⟨?_, rfl⟩⟩
      rw [closes] at h
      exact List.isEmpty_iff.mp h
  | c :: brackets =>
      cases opens : partner? c with
      | some right =>
          rw [closes_cons_of_some opens] at h
          -- first up to the partner of this bracket, then on from behind it with what was awaited
          -- before
          obtain ⟨inner, inside, ⟨filled, -⟩ | ⟨_, _, rest, same, cut, closed⟩⟩ :=
            exists_balanced_of_closes (right :: awaited) brackets h
          · cases filled
          · obtain ⟨rfl, rfl⟩ := List.cons.inj same
            have shorter : rest.length < brackets.length := by
              rw [cut, List.length_append, List.length_cons]
              omega
            obtain ⟨behind, outside, last⟩ := exists_balanced_of_closes awaited rest closed
            refine ⟨c :: inner ++ right :: behind,
              .group (paired_of_partner? opens) inside outside, ?_⟩
            rw [cut]
            rcases last with ⟨none, rfl⟩ | ⟨right', outer, rest', some, rfl, closed'⟩
            · exact Or.inl ⟨none, rfl⟩
            · refine Or.inr ⟨right', outer, rest', some, ?_, closed'⟩
              simp
      | none =>
          cases awaited with
          | nil =>
              rw [closes.eq_def] at h
              simp only [opens] at h
              cases h
          | cons right outer =>
              rw [closes_cons_of_none opens] at h
              obtain ⟨same, closed⟩ := Bool.and_eq_true_iff.mp h
              obtain rfl := beq_iff_eq.mp same
              exact ⟨[], .none, Or.inr ⟨c, outer, brackets, rfl, rfl, closed⟩⟩
termination_by brackets.length

theorem closes_iff_balanced {brackets : List Char} :
    closes [] brackets = true ↔ Balanced brackets := by
  constructor
  · intro h
    obtain ⟨front, balanced, ⟨-, rfl⟩ | ⟨_, _, _, filled, -⟩⟩ := exists_balanced_of_closes [] _ h
    · exact balanced
    · cases filled
  · intro balanced
    rw [← List.append_nil brackets, balanced.closes_append]
    rfl

/-! ## Names -/

/-- Words with a full stop behind each. -/
def stopped (segments : List Segment) : List Char :=
  segments.flatMap fun segment => segment.letters ++ ['.']

/-- No full stop follows another one, or nothing at all. -/
def Separated (text : List Char) : Prop :=
  ('.' :: text).IsChain fun c d => c = '.' → d ≠ '.'

theorem separated_of_forall {text : List Char} (h : ∀ c ∈ text, c ≠ '.') : Separated text := by
  refine List.Pairwise.isChain ?_
  rw [List.pairwise_iff_getElem]
  intro i j _ bound below _
  obtain ⟨j, rfl⟩ : ∃ k, j = k + 1 := ⟨j - 1, by omega⟩
  exact h _ (List.getElem_mem _)

theorem separated_stopped (segments : List Segment) : Separated (stopped segments) := by
  induction segments with
  | nil => exact .singleton '.'
  | cons first rest ih =>
      have whole : '.' :: stopped (first :: rest) =
          ('.' :: first.letters) ++ ('.' :: stopped rest) := by
        simp [stopped]
      have letters : ∀ c ∈ first.letters, c ≠ '.' :=
        fun c member => ne_of_isWord (first.areWord c member) (by decide)
      rw [Separated, whole, List.isChain_append]
      refine ⟨separated_of_forall letters, ih, fun c last _ _ stop => ?_⟩
      rw [List.getLast?_cons_of_ne_nil first.nonempty] at last
      exact absurd stop (letters c (List.mem_of_getLast? last))

/-- A text of words and separated full stops that ends in a full stop begins with a word and a full
stop. -/
theorem exists_first_stopped {text : List Char} (last : text.getLast? = some '.')
    (letters : ∀ c ∈ text, isNameChar c = true) (separated : Separated text) :
    ∃ (first : Segment) (rest : List Char), text = first.letters ++ '.' :: rest := by
  have whole := List.takeWhile_append_dropWhile (p := Text.isWord) (l := text)
  have stops := List.head?_dropWhile_not Text.isWord text
  have words : ∀ c ∈ text.takeWhile Text.isWord, Text.isWord c = true :=
    fun c member => List.mem_takeWhile_imp member
  cases front : text.dropWhile Text.isWord with
  | nil =>
      rw [front, List.append_nil] at whole
      rw [whole] at words
      exact absurd (words '.' (List.mem_of_getLast? last)) (by decide)
  | cons c rest =>
      rw [front] at whole stops
      have stop : c = '.' := by
        have nameChar := letters c (by rw [← whole]; simp)
        have other : Text.isWord c = false := by simpa using stops
        rw [isNameChar, other, Bool.false_or] at nameChar
        exact beq_iff_eq.mp nameChar
      subst stop
      have filled : text.takeWhile Text.isWord ≠ [] := by
        intro none
        rw [none, List.nil_append] at whole
        rw [← whole] at separated
        exact (List.isChain_cons_cons.mp separated).1 rfl rfl
      exact ⟨⟨_, filled, words⟩, rest, whole.symm⟩

/-- A text of words and separated full stops that ends in a full stop consists of words with a full
stop behind each. -/
theorem exists_stopped (text : List Char) (ended : text = [] ∨ text.getLast? = some '.')
    (letters : ∀ c ∈ text, isNameChar c = true) (separated : Separated text) :
    ∃ segments, text = stopped segments := by
  rcases ended with rfl | last
  · exact ⟨[], rfl⟩
  · obtain ⟨first, rest, whole⟩ := exists_first_stopped last letters separated
    -- one segment with its full stop is taken off, and what is left has the same form
    have shorter : rest.length < text.length := by
      rw [whole, List.length_append, List.length_cons]
      omega
    rw [whole] at last letters separated
    have ended' : rest = [] ∨ rest.getLast? = some '.' := by
      cases rest with
      | nil => exact Or.inl rfl
      | cons d rest =>
          rw [List.getLast?_append, List.getLast?_cons_cons] at last
          right
          simpa using last
    have letters' : ∀ c ∈ rest, isNameChar c = true :=
      fun c member => letters c (List.mem_append_right _ (List.mem_cons_of_mem _ member))
    rw [Separated, ← List.cons_append] at separated
    obtain ⟨segments, same⟩ :=
      exists_stopped rest ended' letters' (List.isChain_append.mp separated).2.1
    have one : stopped (first :: segments) = first.letters ++ ['.'] ++ stopped segments :=
      List.flatMap_cons
    exact ⟨first :: segments, by
      rw [one, List.append_assoc, List.singleton_append, ← same, whole]⟩
termination_by text.length

theorem exists_append_lastSegment (text : List Char) :
    ∃ front, text = front ++ Text.lastSegment text ∧
      (front = [] ∨ front.getLast? = some '.') := by
  refine ⟨(text.reverse.dropWhile (· != '.')).reverse, ?_, ?_⟩
  · rw [Text.lastSegment, ← List.reverse_append, List.takeWhile_append_dropWhile,
      List.reverse_reverse]
  · rw [List.getLast?_reverse]
    cases front : text.reverse.dropWhile (· != '.') with
    | nil => exact Or.inl rfl
    | cons c rest =>
        have stops := List.head?_dropWhile_not (· != '.') text.reverse
        rw [front] at stops
        obtain rfl : c = '.' := by simpa using stops
        exact Or.inr rfl

/-! ## Whole types -/

/-- Arguments in brackets, as they are written. -/
structure Group where
  brackets : Brackets
  inside : List Char

/-- The text of arguments in brackets, if there are any. -/
def Group.text : Option Group → List Char
  | none => []
  | some group => group.brackets.opening :: group.inside ++ [group.brackets.closing]

/-- A type without markers and sign that follows the grammar: a dotted name and perhaps, blanks
aside, arguments in brackets that are balanced. -/
def Regular (core last : List Char) : Prop :=
  ∃ (name : DottedName) (blanks : List Char) (group : Option Group),
    core = name.text ++ blanks ++ Group.text group ∧ name.last.letters = last ∧
      (∀ c ∈ blanks, Text.isBlank c = true) ∧
      ∀ arguments ∈ group, Balanced (bracketsOf arguments.inside)

/-- A type without markers and sign as it is accepted: some text up to a full stop, a word, and
perhaps, blanks aside, arguments in brackets. -/
structure Core where
  qualifier : List Char
  last : Segment
  blanks : List Char
  group : Option Group
  ended : qualifier = [] ∨ qualifier.getLast? = some '.'
  /-- The arguments begin with the first bracket that may open arguments. -/
  unopened : ∀ c ∈ qualifier, opensArguments c = false
  blank : ∀ c ∈ blanks, Text.isBlank c = true

namespace Core

/-- The text of an accepted type without markers and sign. -/
def text (core : Core) : List Char :=
  core.qualifier ++ core.last.letters ++ core.blanks ++ Group.text core.group

/-- Only words and separated full stops stand before the last word. -/
def Qualified (core : Core) : Prop :=
  (∀ c ∈ core.qualifier, isNameChar c = true) ∧ Separated core.qualifier

/-- The brackets between the first one and the last are closed in order. -/
def Closed (core : Core) : Prop :=
  ∀ arguments ∈ core.group, closes [] (bracketsOf arguments.inside) = true

variable {core : Core}

theorem split_at_group {front : List Char} (group : Option Group)
    (unopened : ∀ c ∈ front, opensArguments c = false) :
    (front ++ Group.text group).takeWhile (!opensArguments ·) = front ∧
      (front ++ Group.text group).dropWhile (!opensArguments ·) = Group.text group := by
  have passed : ∀ c ∈ front, (!opensArguments c) = true :=
    fun c member => (Bool.not_eq_true' _).mpr (unopened c member)
  rw [List.takeWhile_append_of_pos passed, List.dropWhile_append_of_pos passed]
  cases group with
  | none => exact ⟨List.append_nil front, rfl⟩
  | some group =>
      have opens : ¬(!opensArguments group.brackets.opening) = true := by
        cases group.brackets <;> decide
      rw [Group.text, List.cons_append,
        List.takeWhile_cons_of_neg (p := (!opensArguments ·)) opens,
        List.dropWhile_cons_of_neg (p := (!opensArguments ·)) opens, List.append_nil]
      exact ⟨rfl, rfl⟩

theorem group_inj {group group' : Option Group} (same : Group.text group = Group.text group') :
    group = group' := by
  cases group with
  | none =>
      cases group' with
      | none => rfl
      | some group' => cases same
  | some group =>
      cases group' with
      | none => cases same
      | some group' =>
          obtain ⟨opens, rest⟩ := List.cons.inj same
          obtain ⟨brackets, inside⟩ := group
          obtain ⟨brackets', inside'⟩ := group'
          obtain rfl : brackets = brackets' := by
            cases brackets <;> cases brackets' <;> first | rfl | cases opens
          obtain rfl : inside = inside' := List.append_cancel_right rest
          rfl

theorem opensArguments_of_isBlank {c : Char} (blank : Text.isBlank c = true) :
    opensArguments c = false := by
  cases opens : opensArguments c with
  | false => rfl
  | true =>
      simp only [opensArguments, Bool.or_eq_true, beq_iff_eq] at opens
      rcases opens with rfl | rfl <;> exact absurd blank (by decide)

theorem opensArguments_of_isWord {c : Char} (word : Text.isWord c = true) :
    opensArguments c = false := by
  have angle : c ≠ '<' := ne_of_isWord word (by decide)
  have square : c ≠ '[' := ne_of_isWord word (by decide)
  simp [opensArguments, angle, square]

theorem unopened_front (core : Core) :
    ∀ c ∈ core.qualifier ++ core.last.letters ++ core.blanks, opensArguments c = false := by
  intro c member
  rcases List.mem_append.mp member with name | blank
  · rcases List.mem_append.mp name with qualifier | letter
    · exact core.unopened c qualifier
    · exact opensArguments_of_isWord (core.last.areWord c letter)
  · exact opensArguments_of_isBlank (core.blank c blank)

theorem name_inj {front front' blanks blanks' : List Char} (last last' : Segment)
    (blank : ∀ c ∈ blanks, Text.isBlank c = true) (blank' : ∀ c ∈ blanks', Text.isBlank c = true)
    (same : front ++ last.letters ++ blanks = front' ++ last'.letters ++ blanks') :
    front ++ last.letters = front' ++ last'.letters := by
  have ends (front : List Char) (last : Segment) :
      ∀ c ∈ (front ++ last.letters).getLast?, Text.isBlank c = false := by
    intro c member
    rw [List.getLast?_append_of_ne_nil _ last.nonempty] at member
    exact Text.not_isBlank_of_isWord (last.areWord c (List.mem_of_getLast? member))
  rw [← Text.trimEnd_append_blanks (ends front last) blank, same,
    Text.trimEnd_append_blanks (ends front' last') blank']

/-- An accepted type follows the grammar when its qualifiers and its brackets are in order. -/
theorem regular_iff (core : Core) :
    Regular core.text core.last.letters ↔ core.Qualified ∧ core.Closed := by
  constructor
  · rintro ⟨name, blanks, group, same, last, blank, balanced⟩
    have unopened : ∀ c ∈ name.text ++ blanks, opensArguments c = false := by
      intro c member
      rcases List.mem_append.mp member with letter | blank'
      · exact (Bool.not_eq_true' _).mp (DottedName.not_opensArguments letter)
      · exact opensArguments_of_isBlank (blank c blank')
    -- the text is cut where the group begins, in both ways of looking at it
    have left := split_at_group core.group core.unopened_front
    have right := split_at_group group unopened
    rw [← same] at right
    have names := name_inj core.last name.last core.blank blank (left.1.symm.trans right.1)
    rw [last] at names
    have qualifier : core.qualifier = stopped name.qualifiers := List.append_cancel_right names
    obtain rfl : core.group = group := group_inj (left.2.symm.trans right.2)
    refine ⟨⟨fun c member => ?_, ?_⟩, fun arguments given => ?_⟩
    · rw [qualifier] at member
      exact @DottedName.isNameChar_of_mem name c (List.mem_append_left _ member)
    · rw [qualifier]
      exact separated_stopped name.qualifiers
    · exact closes_iff_balanced.mpr (balanced arguments given)
  · rintro ⟨⟨letters, separated⟩, closed⟩
    obtain ⟨segments, qualifier⟩ := exists_stopped core.qualifier core.ended letters separated
    refine ⟨⟨segments, core.last⟩, core.blanks, core.group, ?_, rfl, core.blank,
      fun arguments given => closes_iff_balanced.mp (closed arguments given)⟩
    rw [text, qualifier]
    rfl

theorem qualifier_of_head (core : Core) (opens : core.text.head? = some '(') :
    ∃ front, core.qualifier = '(' :: front ++ ['.'] := by
  rcases core.ended with none | last
  · obtain ⟨c, rest, letters⟩ := List.exists_cons_of_ne_nil core.last.nonempty
    rw [text, none, letters] at opens
    obtain rfl : c = '(' := Option.some.inj opens
    have word := core.last.areWord '(' (by rw [letters]; exact List.mem_cons_self)
    exact absurd word (by decide)
  · obtain ⟨front, qualifier⟩ := List.getLast?_eq_some_iff.mp last
    cases front with
    | nil =>
        rw [text, qualifier] at opens
        exact absurd (Option.some.inj opens) (by decide)
    | cons c front =>
        rw [text, qualifier] at opens
        obtain rfl : c = '(' := Option.some.inj opens
        exact ⟨front, qualifier⟩

end Core

/-! ## Reading -/

/-- A text is cut into a name, blanks, and what stands in the brackets behind them. -/
theorem splitCore_sound {core name : List Char} {inside : Option (List Char)}
    (trimmed : Text.Trimmed core) (h : splitCore core = some (name, inside)) :
    ∃ (blanks : List Char) (group : Option Group),
      core = name ++ blanks ++ Group.text group ∧ (∀ c ∈ blanks, Text.isBlank c = true) ∧
        ∀ c ∈ name, opensArguments c = false := by
  have whole := List.takeWhile_append_dropWhile (p := (!opensArguments ·)) (l := core)
  have unopened : ∀ c ∈ core.takeWhile (!opensArguments ·), opensArguments c = false :=
    fun c member =>
      (Bool.not_eq_true' _).mp (List.mem_takeWhile_imp (p := (!opensArguments ·)) member)
  unfold splitCore at h
  split at h
  · -- no bracket opens: all of the core is the name
    rename_i bare
    obtain ⟨rfl, -⟩ := Prod.mk.inj (Option.some.inj h)
    rw [bare, List.append_nil] at whole
    rw [whole] at unopened
    refine ⟨[], none, ?_, fun c member => absurd member List.not_mem_nil, unopened⟩
    rw [Group.text, List.append_nil, List.append_nil]
  · rename_i opening rest enclosed
    split at h
    · rename_i closed
      obtain ⟨rfl, -⟩ := Prod.mk.inj (Option.some.inj h)
      obtain ⟨inside, rfl⟩ := List.getLast?_eq_some_iff.mp closed
      have opens := List.head?_dropWhile_not (!opensArguments ·) core
      rw [enclosed] at opens whole
      have brackets : ∃ brackets : Brackets,
          opening = brackets.opening ∧ closing opening = brackets.closing := by
        have either : opensArguments opening = true := by simpa using opens
        rw [opensArguments, Bool.or_eq_true, beq_iff_eq, beq_iff_eq] at either
        rcases either with rfl | rfl
        · exact ⟨.angle, rfl, rfl⟩
        · exact ⟨.square, rfl, rfl⟩
      obtain ⟨brackets, first, last⟩ := brackets
      -- blanks between the name and the bracket are cut off the name; none stand in front of it,
      -- since the core is trimmed
      have begins : ∀ c ∈ (core.takeWhile (!opensArguments ·)).head?, Text.isBlank c = false := by
        intro c member
        refine trimmed.head c ?_
        rw [← whole, List.head?_append, Option.mem_def.mp member]
        rfl
      obtain ⟨blanks, blank, cut⟩ := Text.exists_blanks_trim begins
      refine ⟨blanks, some ⟨brackets, inside⟩, ?_, blank, fun c member => unopened c ?_⟩
      · rw [← cut, Group.text, ← first, ← last]
        exact whole.symm
      · rw [cut]
        exact List.mem_append_left _ member
    · cases h

theorem exists_splitCore_of_parse {written : List Char} {type : TypeRef}
    (h : parse written = some type) :
    ∃ core name inside,
      core = (splitNullability (splitMarkers (Text.trim written)).2).2 ∧
        splitCore core = some (name, inside) ∧ Text.lastSegment name ≠ [] ∧
        (∀ c ∈ Text.lastSegment name, Text.isWord c = true) ∧
        type.coreText = String.ofList core ∧
        type.rawName = String.ofList (Text.lastSegment name) := by
  rw [parse] at h
  dsimp only at h
  split at h
  · cases h
  · split at h
    · cases h
    · rename_i name inside cut
      split at h
      · rename_i isName
        obtain ⟨filled, word⟩ := Bool.and_eq_true_iff.mp isName
        obtain rfl := Option.some.inj h
        refine ⟨_, name, inside, rfl, cut, ?_, List.all_eq_true.mp word, rfl, rfl⟩
        intro empty
        rw [empty] at filled
        cases filled
      · cases h

/-- A text that is taken for a type, taken apart into markers, the type itself, and the sign of an
absent value. -/
structure Reading (written : List Char) (type : TypeRef) where
  markers : List Char
  core : Core
  sign : List Char
  marks : Marks markers
  signs : Signs sign
  whole : Text.trim written = markers ++ core.text ++ sign
  coreText : type.coreText = String.ofList core.text
  rawName : type.rawName = String.ofList core.last.letters

theorem nonempty_reading_of_parse {written : List Char} {type : TypeRef}
    (h : parse written = some type) : Nonempty (Reading written type) := by
  obtain ⟨core, name, inside, rfl, cut, filled, word, coreText, rawName⟩ :=
    exists_splitCore_of_parse h
  obtain ⟨markers, marks, front, marked⟩ := splitMarkers_sound (Text.trimmed_trim written)
  obtain ⟨sign, signs, back, bare⟩ := splitNullability_sound marked
  obtain ⟨blanks, group, whole, blank, unopened⟩ := splitCore_sound bare cut
  obtain ⟨qualifier, split, ended⟩ := exists_append_lastSegment name
  rw [split] at whole unopened
  refine ⟨⟨markers,
    { qualifier, blanks, group, ended, blank
      last := ⟨Text.lastSegment name, filled, word⟩
      unopened := fun c member => unopened c (List.mem_append_left _ member) },
    sign, marks, signs, ?_, ?_, rawName⟩⟩
  · rw [List.append_assoc, Core.text, ← whole, ← back]
    exact front
  · rw [coreText, Core.text, ← whole]

theorem not_regular_of_head {core : List Char} (opens : core.head? = some '(') (last : List Char) :
    ¬Regular core last := by
  rintro ⟨name, blanks, group, rfl, -, -, -⟩
  obtain ⟨c, rest, letters⟩ := List.exists_cons_of_ne_nil name.text_ne_nil
  rw [letters] at opens
  obtain rfl : c = '(' := Option.some.inj opens
  have nameChar : isNameChar '(' = true :=
    @DottedName.isNameChar_of_mem name '(' (by rw [letters]; exact List.mem_cons_self)
  exact absurd nameChar (by decide)

/--
A text that is taken for a type consists of markers, the type itself and perhaps the sign of an
absent value.  The type itself follows the grammar, with its raw name as the last segment, exactly
when its qualifiers and the brackets of its arguments are in order.  A function type, which never
does, is taken for a type only if a full stop stands before its first angle or square bracket.
-/
theorem regular_of_ofText? {text : String} {span : Option Span} {type : TypeRef}
    (h : ofText? text span = some type) :
    ∃ reading : Reading text.toList type,
      (Regular type.coreText.toList type.rawName.toList ↔
        reading.core.Qualified ∧ reading.core.Closed) ∧
      (type.coreText.toList.head? = some '(' →
        ¬Regular type.coreText.toList type.rawName.toList ∧
          ∃ front, reading.core.qualifier = '(' :: front ++ ['.']) := by
  obtain ⟨type', parsed, rfl⟩ := Option.map_eq_some_iff.mp h
  obtain ⟨reading⟩ := nonempty_reading_of_parse parsed
  refine ⟨{ reading with }, ?_, fun opens => ⟨not_regular_of_head opens _, ?_⟩⟩
  · simp only [reading.coreText, reading.rawName, String.toList_ofList]
    exact reading.core.regular_iff
  · simp only [reading.coreText, String.toList_ofList] at opens
    exact reading.core.qualifier_of_head opens

/-- The written type `@Immutable kotlin.List<a>?`. -/
def immutableList : TypeTree :=
  .node
    [⟨⟨[], ⟨['I', 'm', 'm', 'u', 't', 'a', 'b', 'l', 'e'], by decide,
      List.all_eq_true.mp rfl⟩⟩, none⟩]
    ⟨[⟨['k', 'o', 't', 'l', 'i', 'n'], by decide, List.all_eq_true.mp rfl⟩],
      ⟨['L', 'i', 's', 't'], by decide, List.all_eq_true.mp rfl⟩⟩
    .angle
    [.node [] ⟨[], ⟨['a'], by decide, List.all_eq_true.mp rfl⟩⟩ .angle [] none]
    (some .questionMark)

/-- A marked list with an argument and a sign is taken for a type, and taken apart. -/
theorem regular_of_ofText?_immutableList :
    ofText? (String.ofList immutableList.text) none = some immutableList.described ∧
      ∃ reading : Reading (String.ofList immutableList.text).toList immutableList.described,
        (Regular immutableList.described.coreText.toList immutableList.described.rawName.toList ↔
          reading.core.Qualified ∧ reading.core.Closed) ∧
        (immutableList.described.coreText.toList.head? = some '(' →
          ¬Regular immutableList.described.coreText.toList
              immutableList.described.rawName.toList ∧
            ∃ front, reading.core.qualifier = '(' :: front ++ ['.']) :=
  have read := ofText?_text immutableList none
  ⟨read, regular_of_ofText? read⟩

/-- The text of a function type with a qualified result is taken for a type, and it does not follow
the grammar. -/
theorem ofText?_qualifiedResult :
    ∃ type, ofText? "() -> androidx.compose.ui.Modifier" none = some type ∧
      type.rawName = "Modifier" ∧
      ¬Regular type.coreText.toList type.rawName.toList := by
  have trimmed : Text.Trimmed "() -> androidx.compose.ui.Modifier".toList :=
    Text.trimmed_trim "() -> androidx.compose.ui.Modifier".toList
  have unmarked : splitMarkers "() -> androidx.compose.ui.Modifier".toList =
      ([], "() -> androidx.compose.ui.Modifier".toList) := by
    rw [splitMarkers]
    rfl
  have unsigned : splitNullability "() -> androidx.compose.ui.Modifier".toList =
      (false, "() -> androidx.compose.ui.Modifier".toList) := rfl
  have bare : splitCore "() -> androidx.compose.ui.Modifier".toList =
      some ("() -> androidx.compose.ui.Modifier".toList, none) := rfl
  have last : Text.lastSegment "() -> androidx.compose.ui.Modifier".toList =
      "Modifier".toList := rfl
  have read := parse_eq_some trimmed (by decide) unmarked unsigned bare last (by decide)
    (List.all_eq_true.mp rfl)
  exact ⟨_, congrArg (Option.map _) read, rfl, not_regular_of_head rfl _⟩

end SignatureLint.TypeRef

import SignatureLint.Proofs.TypeRef.RoundTrip

/-!
# The commas between arguments

Arguments are told apart by the commas at depth zero.  The tip of an arrow counts as a closing
bracket there, so that behind each arrow the depth is one less than the number of brackets that are
open.  The arguments come apart as they should if every comma is at depth zero exactly when no
bracket is open.
-/

namespace SignatureLint.TypeRef

/-! ## Depths -/

/-- The depth of brackets at the end of a text, as it is counted. -/
def depth (text : List Char) : Int :=
  text.foldl depthAfter 0

/-- A text in which arrows have no tips. -/
def withoutTips : List Char → List Char
  | [] => []
  | '-' :: '>' :: rest => '-' :: withoutTips rest
  | c :: rest => c :: withoutTips rest

/-- The number of brackets that are open at the end of a text.  The tip of an arrow is no
bracket. -/
def nesting (text : List Char) : Int :=
  depth (withoutTips text)

/-- The number of arrows in a text. -/
def arrows : List Char → Nat
  | [] => 0
  | '-' :: '>' :: rest => arrows rest + 1
  | _ :: rest => arrows rest

theorem depthAfter_eq_add (before : Int) (c : Char) :
    depthAfter before c = before + depthAfter 0 c := by
  unfold depthAfter
  split
  · omega
  · split <;> omega

theorem foldl_depthAfter (before : Int) (text : List Char) :
    text.foldl depthAfter before = before + depth text := by
  unfold depth
  induction text generalizing before with
  | nil => exact (Int.add_zero before).symm
  | cons c rest ih =>
      rw [List.foldl_cons, List.foldl_cons, ih, ih (depthAfter 0 c), depthAfter_eq_add before,
        Int.add_assoc]

theorem depth_cons (c : Char) (rest : List Char) :
    depth (c :: rest) = depthAfter 0 c + depth rest :=
  foldl_depthAfter (depthAfter 0 c) rest

theorem depth_append (front rest : List Char) :
    depth (front ++ rest) = depth front + depth rest := by
  rw [depth, List.foldl_append, foldl_depthAfter]
  rfl

theorem withoutTips_cons {c : Char} {rest : List Char} (apart : c = '-' → rest.head? ≠ some '>') :
    withoutTips (c :: rest) = c :: withoutTips rest := by
  rw [withoutTips.eq_3]
  rintro more rfl rfl
  exact apart rfl rfl

/-- A text has no tips of arrows if two parts have none and there is none between them. -/
theorem withoutTips_append {front rest : List Char}
    (apart : front.getLast? = some '-' → rest.head? ≠ some '>') :
    withoutTips (front ++ rest) = withoutTips front ++ withoutTips rest := by
  fun_induction withoutTips front with
  | case1 => rfl
  | case2 more ih =>
      rw [List.cons_append, List.cons_append, withoutTips, List.cons_append, ih]
      intro last
      refine apart ?_
      cases more with
      | nil => cases last
      | cons d more => exact last
  | case3 c more whole ih =>
      have tail : more.getLast? = some '-' → rest.head? ≠ some '>' := by
        cases more with
        | nil => exact nofun
        | cons d more => exact apart
      have head : c = '-' → (more ++ rest).head? ≠ some '>' := by
        rintro rfl
        cases more with
        | nil => exact apart rfl
        | cons d more =>
            intro tip
            cases tip
            exact whole more rfl rfl
      rw [List.cons_append, withoutTips_cons head, ih tail, List.cons_append]

theorem withoutTips_eq_self {text : List Char} (angle : '>' ∉ text) : withoutTips text = text := by
  induction text with
  | nil => rfl
  | cons c rest ih =>
      have others : '>' ∉ rest := fun found => angle (List.mem_cons_of_mem _ found)
      rw [withoutTips_cons fun _ tip => others (List.mem_of_head? tip), ih others]

theorem depth_add_arrows (text : List Char) : depth text + arrows text = nesting text := by
  unfold nesting
  fun_induction arrows text with
  | case1 => rfl
  | case2 rest ih =>
      have line : depthAfter 0 '-' = 0 := by decide
      have tip : depthAfter 0 '>' = -1 := by decide
      rw [withoutTips, depth_cons, depth_cons, depth_cons, line, tip, ← ih]
      omega
  | case3 c rest whole ih =>
      have apart : c = '-' → rest.head? ≠ some '>' := by
        rintro rfl tip
        obtain ⟨more, rfl⟩ := List.head?_eq_some_iff.mp tip
        exact whole more rfl rfl
      rw [withoutTips_cons apart, depth_cons, depth_cons, ← ih, Int.add_assoc]

theorem nesting_append {front rest : List Char}
    (apart : front.getLast? = some '-' → rest.head? ≠ some '>') :
    nesting (front ++ rest) = nesting front + nesting rest := by
  rw [nesting, withoutTips_append apart, depth_append]
  rfl

/-! ## Cuts -/

/-- No comma of a text that begins at a depth is at depth zero. -/
def Unbroken (before : Int) (text : List Char) : Prop :=
  ∀ front back, text = front ++ ',' :: back → before + depth front ≠ 0

theorem unbroken_cons_iff {before : Int} {c : Char} {rest : List Char} :
    Unbroken before (c :: rest) ↔
      ¬(c = ',' ∧ before = 0) ∧ Unbroken (depthAfter before c) rest := by
  constructor
  · refine fun unbroken => ⟨?_, ?_⟩
    · rintro ⟨rfl, rfl⟩
      exact unbroken [] rest rfl rfl
    · rintro front back rfl
      have deeper := unbroken (c :: front) back rfl
      rwa [depth_cons, ← Int.add_assoc, ← depthAfter_eq_add] at deeper
  · rintro ⟨here, later⟩ front back whole
    cases front with
    | nil =>
        obtain ⟨rfl, -⟩ := List.cons.inj whole
        exact fun zero => here ⟨rfl, by rwa [depth, List.foldl_nil, Int.add_zero] at zero⟩
    | cons d front =>
        obtain ⟨rfl, rest⟩ := List.cons.inj whole
        rw [depth_cons, ← Int.add_assoc, ← depthAfter_eq_add]
        exact later front back rest

theorem splitAtDepth_comma (rest : List Char) :
    splitAtDepth 0 (',' :: rest) = ([], (splitAtDepth 0 rest).1 :: (splitAtDepth 0 rest).2) :=
  rfl

theorem splitAtDepth_cons {before : Int} {c : Char} (here : ¬(c = ',' ∧ before = 0))
    (rest : List Char) :
    splitAtDepth before (c :: rest) =
      (c :: (splitAtDepth (depthAfter before c) rest).1,
        (splitAtDepth (depthAfter before c) rest).2) := by
  have whole : ¬(c == ',' && depthAfter before c == 0) = true := by
    rw [Bool.and_eq_true, beq_iff_eq, beq_iff_eq]
    rintro ⟨rfl, zero⟩
    have comma : depthAfter 0 ',' = 0 := by decide
    rw [depthAfter_eq_add, comma, Int.add_zero] at zero
    exact here ⟨rfl, zero⟩
  rw [splitAtDepth]
  exact if_neg whole

theorem splitAtDepth_append {before : Int} {text : List Char} (unbroken : Unbroken before text)
    (rest : List Char) :
    splitAtDepth before (text ++ rest) =
      (text ++ (splitAtDepth (before + depth text) rest).1,
        (splitAtDepth (before + depth text) rest).2) := by
  induction text generalizing before with
  | nil =>
      rw [depth, List.foldl_nil, Int.add_zero]
      rfl
  | cons c text ih =>
      obtain ⟨here, later⟩ := unbroken_cons_iff.mp unbroken
      rw [List.cons_append, splitAtDepth_cons here, ih later, depth_cons, ← Int.add_assoc,
        ← depthAfter_eq_add]
      rfl

theorem length_splitAtDepth_lt {before : Int} {text : List Char} (broken : ¬Unbroken before text)
    (rest : List Char) : (splitAtDepth before (text ++ rest)).1.length < text.length := by
  induction text generalizing before with
  | nil => exact absurd (fun front back whole => by cases front <;> cases whole) broken
  | cons c text ih =>
      by_cases here : c = ',' ∧ before = 0
      · obtain ⟨rfl, rfl⟩ := here
        rw [List.cons_append, splitAtDepth_comma]
        exact Nat.succ_pos _
      · rw [List.cons_append, splitAtDepth_cons here]
        exact Nat.succ_lt_succ (ih fun later => broken (unbroken_cons_iff.mpr ⟨here, later⟩))

theorem Passes.unbroken {text : List Char} (passes : Passes 0 text) :
    Unbroken 0 text ∧ depth text = 0 := by
  have unbroken : Unbroken 0 text := by
    refine Classical.byContradiction fun broken => ?_
    have shorter := length_splitAtDepth_lt broken []
    rw [passes 0 (Int.le_refl 0) []] at shorter
    exact absurd shorter (by simp [splitAtDepth])
  refine ⟨unbroken, Classical.byContradiction fun deeper => ?_⟩
  have whole := splitAtDepth_append unbroken [',']
  rw [passes 0 (Int.le_refl 0), splitAtDepth_comma, Int.zero_add,
    splitAtDepth_cons fun comma => deeper comma.2] at whole
  cases (Prod.mk.inj whole).2

/-! ## Arguments -/

/-- A text that may stand as an argument: every comma of it stands in brackets, and the brackets are
closed. -/
structure IsArgument (text : List Char) : Prop where
  passes : Passes 0 (withoutTips text)
  ends : text.getLast? ≠ some '-'
  trimmed : Text.Trimmed text
  filled : text ≠ []

/-- A text of which each comma has as many arrows before it as brackets around it exactly if there
are no brackets around it. -/
def CommasClear (text : List Char) : Prop :=
  ∀ front back, text = front ++ ',' :: back → (nesting front = arrows front ↔ nesting front = 0)

theorem commasClear_iff {text : List Char} :
    CommasClear text ↔
      ∀ front back, text = front ++ ',' :: back → (depth front = 0 ↔ nesting front = 0) := by
  have zero (front : List Char) : nesting front = arrows front ↔ depth front = 0 := by
    have := depth_add_arrows front
    omega
  simp only [CommasClear, zero]

namespace IsArgument

variable {text : List Char}

theorem nesting_eq_zero (argument : IsArgument text) : nesting text = 0 :=
  argument.passes.unbroken.2

theorem nesting_ne_zero (argument : IsArgument text) {front back : List Char}
    (comma : text = front ++ ',' :: back) : nesting front ≠ 0 := by
  have cut : withoutTips text = withoutTips front ++ ',' :: withoutTips back := by
    rw [comma, withoutTips_append fun _ => by simp, withoutTips_cons (by simp)]
  have inside := argument.passes.unbroken.1 _ _ cut
  rwa [Int.zero_add] at inside

theorem nesting_append (argument : IsArgument text) (rest : List Char) :
    nesting (text ++ rest) = nesting rest := by
  rw [TypeRef.nesting_append fun last => absurd last argument.ends, argument.nesting_eq_zero,
    Int.zero_add]

theorem commasClear_iff (argument : IsArgument text) : CommasClear text ↔ Unbroken 0 text := by
  rw [TypeRef.commasClear_iff, Unbroken]
  refine forall_congr' fun front => forall_congr' fun back => forall_congr' fun comma => ?_
  have inside := argument.nesting_ne_zero comma
  rw [Int.zero_add]
  exact ⟨fun same zero => inside (same.mp zero), fun deep => iff_of_false deep inside⟩

/-- The commas of several arguments are clear if the first one is unbroken and leaves the depth as
it was, and those of the others are clear. -/
theorem commasClear_append_iff (argument : IsArgument text) {rest : List Char} :
    CommasClear (text ++ ',' :: ' ' :: rest) ↔
      (Unbroken 0 text ∧ depth text = 0) ∧ CommasClear rest := by
  -- the brackets of an argument are closed and its tips need not be: it shifts what is counted, not
  -- how deep a comma lies
  have blank (front : List Char) : nesting (text ++ ',' :: ' ' :: front) = nesting front := by
    rw [argument.nesting_append, nesting, withoutTips_cons (by simp), withoutTips_cons (by simp),
      depth_cons, depth_cons]
    exact (Int.zero_add _).trans (Int.zero_add _)
  have shift (front : List Char) :
      depth (text ++ ',' :: ' ' :: front) = depth text + depth front := by
    rw [depth_append, depth_cons, depth_cons]
    exact congrArg _ ((Int.zero_add _).trans (Int.zero_add _))
  rw [← argument.commasClear_iff, TypeRef.commasClear_iff, TypeRef.commasClear_iff,
    TypeRef.commasClear_iff]
  constructor
  · intro clear
    have between : depth text = 0 :=
      (clear text (' ' :: rest) rfl).mpr argument.nesting_eq_zero
    refine ⟨⟨fun front back comma => ?_, between⟩, fun front back comma => ?_⟩
    · refine clear front (back ++ ',' :: ' ' :: rest) ?_
      rw [comma, List.append_assoc, List.cons_append]
    · have later := clear (text ++ ',' :: ' ' :: front) back (by
        rw [comma, List.append_assoc, List.cons_append, List.cons_append])
      rwa [blank, shift, between, Int.zero_add] at later
  · rintro ⟨⟨inside, between⟩, outside⟩ front back comma
    obtain ⟨middle, rfl, cut⟩ | ⟨middle, whole, cut⟩ := List.append_eq_append_iff.mp comma
    · -- the comma is the one behind the argument, or one of the rest
      match middle, cut with
      | [], _ =>
          rw [List.append_nil]
          exact iff_of_true between argument.nesting_eq_zero
      | c :: d :: middle, cut =>
          simp only [List.cons_append, List.cons.injEq] at cut
          obtain ⟨rfl, rfl, later⟩ := cut
          rw [blank, shift, between, Int.zero_add]
          exact outside middle back later
    · match middle, whole, cut with
      | [], whole, _ =>
          rw [whole, List.append_nil] at between argument
          exact iff_of_true between argument.nesting_eq_zero
      | c :: middle, whole, cut =>
          obtain ⟨rfl, -⟩ := List.cons.inj cut
          exact inside front middle whole

end IsArgument

theorem join_singleton (text : List Char) : Text.join [',', ' '] [text] = text :=
  List.intercalate_singleton

theorem join_cons_cons (first second : List Char) (rest : List (List Char)) :
    Text.join [',', ' '] (first :: second :: rest) =
      first ++ ',' :: ' ' :: Text.join [',', ' '] (second :: rest) := by
  rw [Text.join, Text.join, List.intercalate_cons_cons, List.append_assoc]
  rfl

theorem splitAtDepth_separator {first : List Char} (unbroken : Unbroken 0 first)
    (closed : depth first = 0) (rest : List Char) :
    splitAtDepth 0 (first ++ ',' :: ' ' :: rest) =
      (first, (' ' :: (splitAtDepth 0 rest).1) :: (splitAtDepth 0 rest).2) := by
  have blank : splitAtDepth 0 (' ' :: rest) =
      (' ' :: (splitAtDepth 0 rest).1, (splitAtDepth 0 rest).2) :=
    rfl
  rw [splitAtDepth_append unbroken, closed, Int.zero_add, splitAtDepth_comma, blank,
    List.append_nil]

theorem splitAtDepth_of_commasClear {first : List Char} {rest : List (List Char)}
    (arguments : ∀ part ∈ first :: rest, IsArgument part)
    (clear : CommasClear (Text.join [',', ' '] (first :: rest))) :
    splitAtDepth 0 (Text.join [',', ' '] (first :: rest)) = (first, rest.map (' ' :: ·)) := by
  induction rest generalizing first with
  | nil =>
      have argument := arguments first List.mem_cons_self
      rw [join_singleton] at clear ⊢
      have whole := splitAtDepth_append (argument.commasClear_iff.mp clear) []
      rwa [List.append_nil, splitAtDepth, List.append_nil] at whole
  | cons second rest ih =>
      obtain ⟨argument, others⟩ := List.forall_mem_cons.mp arguments
      rw [join_cons_cons] at clear ⊢
      obtain ⟨⟨unbroken, closed⟩, later⟩ := argument.commasClear_append_iff.mp clear
      rw [splitAtDepth_separator unbroken closed, ih others later]
      rfl

theorem unbroken_of_trim {first : List Char} (rest : List Char)
    (same : Text.trim (splitAtDepth 0 (first ++ rest)).1 = first) : Unbroken 0 first := by
  refine Classical.byContradiction fun broken => ?_
  have shorter := length_splitAtDepth_lt broken rest
  have trimmed := Text.length_trim_le (splitAtDepth 0 (first ++ rest)).1
  rw [same] at trimmed
  omega

theorem IsArgument.depth_of_trim {first : List Char} (argument : IsArgument first)
    (unbroken : Unbroken 0 first) (rest : List Char)
    (same : Text.trim (splitAtDepth 0 (first ++ ',' :: rest)).1 = first) : depth first = 0 := by
  refine Classical.byContradiction fun deeper => ?_
  rw [splitAtDepth_append unbroken, Int.zero_add,
    splitAtDepth_cons fun comma => deeper comma.2] at same
  -- only blanks are dropped, and the comma is none
  have begins (back : List Char) : ∀ c ∈ (first ++ back).head?, Text.isBlank c = false := by
    intro c found
    obtain ⟨d, more, rfl⟩ := List.exists_cons_of_ne_nil argument.filled
    exact argument.trimmed.head c found
  obtain ⟨blanks, blank, whole⟩ := Text.exists_blanks_trim (begins _)
  rw [same] at whole
  have comma := blank ',' (List.append_cancel_left whole ▸ List.mem_cons_self)
  exact absurd comma (by decide)

theorem commasClear_of_prefix {first : List Char} {rest : List (List Char)}
    (arguments : ∀ part ∈ first :: rest, IsArgument part)
    (found : first :: rest <+:
      ((splitAtDepth 0 (Text.join [',', ' '] (first :: rest))).1 ::
        (splitAtDepth 0 (Text.join [',', ' '] (first :: rest))).2).map Text.trim) :
    CommasClear (Text.join [',', ' '] (first :: rest)) := by
  induction rest generalizing first with
  | nil =>
      have argument := arguments first List.mem_cons_self
      rw [join_singleton] at found ⊢
      obtain ⟨same, -⟩ := List.cons_prefix_cons.mp found
      rw [argument.commasClear_iff]
      exact unbroken_of_trim [] (by rw [List.append_nil]; exact same.symm)
  | cons second rest ih =>
      obtain ⟨argument, others⟩ := List.forall_mem_cons.mp arguments
      rw [join_cons_cons] at found ⊢
      obtain ⟨same, later⟩ := List.cons_prefix_cons.mp found
      have unbroken := unbroken_of_trim _ same.symm
      have closed := argument.depth_of_trim unbroken _ same.symm
      refine argument.commasClear_append_iff.mpr ⟨⟨unbroken, closed⟩, ih others ?_⟩
      rw [splitAtDepth_separator unbroken closed, List.map_cons, Text.trim,
        Text.trimStart_cons_of_isBlank (by decide)] at later
      exact later

theorem splitArguments_prefix (text : List Char) :
    splitArguments text <+:
      ((splitAtDepth 0 text).1 :: (splitAtDepth 0 text).2).map Text.trim := by
  rw [splitArguments]
  dsimp only
  split
  · exact List.dropLast_prefix _
  · exact List.prefix_rfl

theorem splitArguments_join_iff {parts : List (List Char)} (nonempty : parts ≠ [])
    (arguments : ∀ part ∈ parts, IsArgument part) :
    splitArguments (Text.join [',', ' '] parts) = parts ↔
      CommasClear (Text.join [',', ' '] parts) := by
  obtain ⟨first, rest, rfl⟩ := List.exists_cons_of_ne_nil nonempty
  constructor
  · intro same
    have pieces := splitArguments_prefix (Text.join [',', ' '] (first :: rest))
    rw [same] at pieces
    exact commasClear_of_prefix arguments pieces
  · intro clear
    exact splitArguments_eq (splitAtDepth_of_commasClear arguments clear)
      (fun part found => (arguments part found).trimmed)
      fun part found => (arguments part found).filled

end SignatureLint.TypeRef

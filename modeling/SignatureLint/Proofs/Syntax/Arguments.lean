import SignatureLint.Proofs.Syntax.Reading
import SignatureLint.Syntax.Program

/-!
# Where parameters stand

Every parameter of a program that was read begins with one token and ends with the
same or a later one, and the tokens of different parameters are apart.  Parameters
are listed in source order: those of a function come before those of the functions
in its body.
-/

namespace SignatureLint

open SignatureLint.Parser

/-! ## The parameters of a program -/

/-- The parameters that are kept of a signature, in source order. -/
def Signature.arguments (signature : Signature) : List Argument :=
  signature.positional ++ signature.regular ++ signature.keywordOnly.map (·.1)

namespace Program

mutual

/-- The parameters of the functions in a statement. -/
def argumentsOf : Statement → List Argument
  | .function header body => header.signature.arguments ++ argumentsOfAll body
  | .classDef _ _ body => argumentsOfAll body
  | .compound _ blocks => argumentsOfBlocks blocks
  | .simple => []

/-- The parameters of the functions in several statements. -/
def argumentsOfAll : List Statement → List Argument
  | [] => []
  | first :: rest => argumentsOf first ++ argumentsOfAll rest

/-- The parameters of the functions in several blocks. -/
def argumentsOfBlocks : List (List Statement) → List Argument
  | [] => []
  | first :: rest => argumentsOfAll first ++ argumentsOfBlocks rest

end

def rangesOf (statement : Statement) : List Range :=
  (argumentsOf statement).map Argument.range

def rangesOfAll (statements : List Statement) : List Range :=
  statements.flatMap rangesOf

def rangesOfBlocks (blocks : List (List Statement)) : List Range :=
  blocks.flatMap rangesOfAll

theorem map_range_argumentsOfAll (statements : List Statement) :
    (argumentsOfAll statements).map Argument.range = rangesOfAll statements := by
  induction statements with
  | nil => rfl
  | cons first rest ih =>
      rw [argumentsOfAll, List.map_append, ih]
      rfl

theorem map_range_argumentsOfBlocks (blocks : List (List Statement)) :
    (argumentsOfBlocks blocks).map Argument.range = rangesOfBlocks blocks := by
  induction blocks with
  | nil => rfl
  | cons first rest ih =>
      rw [argumentsOfBlocks, List.map_append, map_range_argumentsOfAll, ih]
      rfl

theorem rangesOf_function (header : FunctionHeader) (body : List Statement) :
    rangesOf (.function header body) =
      header.signature.arguments.map Argument.range ++ rangesOfAll body := by
  rw [rangesOf, argumentsOf, List.map_append, map_range_argumentsOfAll]

theorem rangesOf_classDef (name : String) (bases : List Expr) (body : List Statement) :
    rangesOf (.classDef name bases body) = rangesOfAll body := by
  rw [rangesOf, argumentsOf, map_range_argumentsOfAll]

theorem rangesOf_compound (kind : BlockKind) (blocks : List (List Statement)) :
    rangesOf (.compound kind blocks) = rangesOfBlocks blocks := by
  rw [rangesOf, argumentsOf, map_range_argumentsOfBlocks]

theorem rangesOf_simple : rangesOf .simple = [] := by
  rw [rangesOf, argumentsOf, List.map_nil]

end Program

/-! ## Ranges of tokens -/

/-- Tokens of which the last one only shapes lines. -/
def Closed (tokens : Array Token) : Prop :=
  ∃ last, tokens.back? = some last ∧ last.kind.isLayout = true

/-- A range that begins with one token and ends with another one, or with the same. -/
structure Spans (tokens : Array Token) (range : Range) (first last : Nat) : Prop where
  order : first ≤ last
  begins : ∃ token, tokens[first]? = some token ∧ token.kind.isLayout = false ∧
    range.start = token.range.start
  ends : ∃ token, tokens[last]? = some token ∧ token.kind.isLayout = false ∧
    range.stop = token.range.stop

/-- Ranges of which each one takes tokens of its own, one range after the other, between two
places. -/
inductive Spread (tokens : Array Token) : Nat → List Range → Nat → Prop where
  | nil {low high : Nat} (order : low ≤ high) : Spread tokens low [] high
  | cons {low first last high : Nat} {range : Range} {rest : List Range} (reached : low ≤ first)
      (spans : Spans tokens range first last) (others : Spread tokens (last + 1) rest high) :
      Spread tokens low (range :: rest) high

namespace Spread

variable {tokens : Array Token} {low middle high : Nat} {ranges others : List Range}

theorem order (h : Spread tokens low ranges high) : low ≤ high := by
  induction h with
  | nil order => exact order
  | cons reached spans _ ih =>
      have := spans.order
      omega

theorem widen (h : Spread tokens low ranges high) {low' high' : Nat} (before : low' ≤ low)
    (behind : high ≤ high') : Spread tokens low' ranges high' := by
  induction h generalizing low' with
  | nil order => exact .nil (by omega)
  | cons reached spans _ ih => exact .cons (by omega) spans (ih (Nat.le_refl _) behind)

theorem append (h : Spread tokens low ranges middle) (h' : Spread tokens middle others high) :
    Spread tokens low (ranges ++ others) high := by
  induction h with
  | nil order => exact h'.widen order (Nat.le_refl _)
  | cons reached spans _ ih => exact .cons reached spans (ih h')

theorem concat (h : Spread tokens low ranges middle) {first last : Nat} {range : Range}
    (reached : middle ≤ first) (spans : Spans tokens range first last) (before : last < high) :
    Spread tokens low (ranges ++ [range]) high :=
  h.append (.cons reached spans (.nil before))

end Spread

namespace Parser

variable {tokens : Array Token} {place next : Nat}

theorem reads_peek {kind : TokenKind} (h : peek.Reads tokens place kind next) :
    place = next ∧
      kind = (tokens.getD place (tokens.back?.getD ⟨.endOfInput, default⟩)).kind := by
  obtain ⟨forward, h⟩ := h
  cases h
  exact ⟨rfl, rfl⟩

theorem reads_name (closed : Closed tokens) {id : String}
    (h : name.Reads tokens place id next) :
    next = place + 1 ∧
      ∃ token spelled, tokens[place]? = some token ∧ token.kind = .name spelled id := by
  obtain ⟨kind, middle, looked, h⟩ := reads_bind.mp h
  obtain ⟨rfl, rfl⟩ := reads_peek looked
  split at h
  · rename_i spelled id' here
    obtain ⟨_, middle, passed, h⟩ := reads_bind.mp h
    obtain ⟨rfl, rfl⟩ := reads_pure.mp h
    refine ⟨reads_advance passed, ?_⟩
    cases found : tokens[place]? with
    | some token =>
        rw [Array.getD_eq_getD_getElem?, found, Option.getD_some] at here
        exact ⟨token, spelled, rfl, here⟩
    | none =>
        obtain ⟨last, back, layout⟩ := closed
        rw [Array.getD_eq_getD_getElem?, found, back, Option.getD_none, Option.getD_some] at here
        rw [here] at layout
        cases layout
  · exact absurd h not_reads_fail

theorem reads_startPosition {position : Position}
    (h : startPosition.Reads tokens place position next) :
    place = next ∧
      position = (tokens.getD place (tokens.back?.getD ⟨.endOfInput, default⟩)).range.start := by
  obtain ⟨forward, h⟩ := h
  cases h
  exact ⟨rfl, rfl⟩

theorem reads_stopPosition {position : Position}
    (h : stopPosition.Reads tokens place position next) :
    place = next ∧ position = lastEnd tokens place := by
  obtain ⟨forward, h⟩ := h
  cases h
  exact ⟨rfl, rfl⟩

/-- Behind a token that does more than shape lines, the last such token is it or a later one. -/
theorem exists_of_lastEnd {first : Nat} {token : Token} (found : tokens[first]? = some token)
    (visible : token.kind.isLayout = false) (passed : first < next) :
    ∃ last, first ≤ last ∧ last < next ∧ ∃ token, tokens[last]? = some token ∧
      token.kind.isLayout = false ∧ lastEnd tokens next = token.range.stop := by
  induction next with
  | zero => omega
  | succ place ih =>
      rw [lastEnd]
      split
      · rename_i layout
        have : first ≠ place := by
          intro same
          subst same
          rw [Array.getD_eq_getD_getElem?, found, Option.getD_some, visible] at layout
          cases layout
        obtain ⟨last, order, before, rest⟩ := ih (by omega)
        exact ⟨last, order, by omega, rest⟩
      · rename_i solid
        refine ⟨place, by omega, Nat.lt_succ_self place, ?_⟩
        cases here : tokens[place]? with
        | none =>
            rw [Array.getD_eq_getD_getElem?, here, Option.getD_none] at solid
            exact absurd rfl solid
        | some token =>
            rw [Array.getD_eq_getD_getElem?, here, Option.getD_some] at solid ⊢
            exact ⟨token, rfl, Bool.eq_false_iff.mpr solid, rfl⟩

end Parser

/-! ## Signatures -/

variable {tokens : Array Token} {place next : Nat}

/-- The ranges of the parameters that are kept of those that were read, in source order. -/
def Formals.ranges (formals : Formals) : List Range :=
  (formals.positional ++ formals.regular ++ formals.keywordOnly).map Formal.range

/-- A parameter takes the tokens from its name to the end of its annotation. -/
theorem Program.spans_formal (closed : Closed tokens) {rules : Rules} {afterStar : Bool}
    {formal : Formal} (h : (Program.formal rules afterStar).Reads tokens place formal next) :
    ∃ last, last < next ∧ Spans tokens formal.range place last := by
  obtain ⟨start, _, started, h⟩ := reads_bind.mp h
  obtain ⟨rfl, rfl⟩ := reads_startPosition started
  obtain ⟨id, _, named, h⟩ := reads_bind.mp h
  obtain ⟨rfl, token, spelled, found, kind⟩ := reads_name closed named
  have visible : token.kind.isLayout = false := by
    rw [kind]
    rfl
  -- whatever the annotation takes, the end is that of the last token before the end
  have finish {middle : Nat} {written : Option (Located Expr)} (passed : place + 1 ≤ middle)
      (h : (do
        let stop ← stopPosition
        pure (⟨id, written, none, ⟨(tokens.getD place
          (tokens.back?.getD ⟨.endOfInput, default⟩)).range.start, stop⟩⟩ : Formal)).Reads
            tokens middle formal next) :
      ∃ last, last < next ∧ Spans tokens formal.range place last := by
    obtain ⟨stop, _, stopped, h⟩ := reads_bind.mp h
    obtain ⟨rfl, rfl⟩ := reads_stopPosition stopped
    obtain ⟨rfl, rfl⟩ := reads_pure.mp h
    obtain ⟨last, order, before, ends⟩ := exists_of_lastEnd found visible passed
    refine ⟨last, before, order, ⟨token, found, visible, ?_⟩, ends⟩
    rw [Array.getD_eq_getD_getElem?, found, Option.getD_some]
  obtain ⟨annotated, _, accepted, h⟩ := reads_bind.mp h
  have passed := accepted.forward
  dsimp only at h
  split at h
  · split at h
    · obtain ⟨value, _, read, h⟩ := reads_bind.mp h
      exact finish (Nat.le_trans passed read.forward) h
    · obtain ⟨value, _, read, h⟩ := reads_bind.mp h
      exact finish (Nat.le_trans passed read.forward) h
  · exact finish passed h

/-- Parameters that were read between two places, those by name only behind a star. -/
structure Formals.Held (tokens : Array Token) (start : Nat) (formals : Formals) (place : Nat) :
    Prop where
  spread : Spread tokens start formals.ranges place
  starred : (formals.rest.isSome || formals.bareStar) = false → formals.keywordOnly = []

namespace Formals.Held

variable {start first last : Nat} {formals : Formals} {formal : Formal}

theorem widen (held : Held tokens start formals place) (later : place ≤ next) :
    Held tokens start formals next :=
  ⟨held.spread.widen (Nat.le_refl _) later, held.starred⟩

theorem slash (held : Held tokens start formals place) (none : formals.positional = []) :
    Held tokens start { formals with positional := formals.regular, regular := [] } place := by
  have same : ranges { formals with positional := formals.regular, regular := [] } =
      formals.ranges := by
    simp [ranges, none]
  exact ⟨by rw [same]; exact held.spread, held.starred⟩

theorem byName (held : Held tokens start formals place) (reached : place ≤ first)
    (span : Spans tokens formal.range first last) (passed : last < next)
    (starSeen : (formals.rest.isSome || formals.bareStar) = true) :
    Held tokens start { formals with keywordOnly := formals.keywordOnly ++ [formal] } next := by
  refine ⟨?_, fun bare => absurd starSeen (Bool.eq_false_iff.mp bare)⟩
  have spread := held.spread.concat reached span passed
  simpa [ranges] using spread

theorem byPlace (held : Held tokens start formals place) (reached : place ≤ first)
    (span : Spans tokens formal.range first last) (passed : last < next)
    (bare : (formals.rest.isSome || formals.bareStar) = false) :
    Held tokens start { formals with regular := formals.regular ++ [formal] } next := by
  have none := held.starred bare
  refine ⟨?_, fun _ => none⟩
  have spread := held.spread.concat reached span passed
  simpa [ranges, none] using spread

end Formals.Held

/-- What one parameter or mark does.  A slash leaves the parameters so far to be filled by place
only; a star, or the rest by name, keeps them; and any other parameter is the last one by name
behind a star, or else the last one by place, where it has a default unless none before it has one.
-/
theorem Formals.item_cases {rules : Rules} {formal : Bool → Parser Formal} {close : String}
    {found found' : Formals} (h : (item rules formal close found).Reads tokens place found' next) :
    (found.positional = [] ∧
      found' = { found with positional := found.regular, regular := [] }) ∨
    (∃ rest bareStar keywords,
      found' = { found with rest := rest, bareStar := bareStar, keywords := keywords } ∧
        ((rest.isSome || bareStar) = false → (found.rest.isSome || found.bareStar) = false)) ∨
    ∃ parameter default first middle, place ≤ first ∧
      (formal false).Reads tokens first parameter middle ∧ middle ≤ next ∧
      ((found.rest.isSome || found.bareStar) = true ∧
        found' = { found with
          keywordOnly := found.keywordOnly ++ [{ parameter with default := default }] } ∨
      (found.rest.isSome || found.bareStar) = false ∧
        (default.isNone && (found.regular ++ found.positional).any (·.default.isSome)) = false ∧
        found' = { found with
          regular := found.regular ++ [{ parameter with default := default }] }) := by
  unfold item at h
  dsimp only at h
  split at h
  · obtain ⟨_, _, failed, -⟩ := reads_bind.mp h
    exact absurd failed not_reads_fail
  -- a slash: the parameters so far are filled by place only
  obtain ⟨slash, _, accepted, h⟩ := reads_bind.mp h
  split at h
  · split at h
    · obtain ⟨_, _, failed, -⟩ := reads_bind.mp h
      exact absurd failed not_reads_fail
    · rename_i allowed
      obtain ⟨rfl, rfl⟩ := reads_pure.mp h
      have none : found.positional = [] := by
        cases list : found.positional with
        | nil => rfl
        | cons first rest => simp [list] at allowed
      exact .inl ⟨none, rfl⟩
  obtain ⟨stars, _, accepted', h⟩ := reads_bind.mp h
  split at h
  · -- the rest by name is not kept
    obtain ⟨parameter, _, read, h⟩ := reads_bind.mp h
    obtain ⟨rfl, rfl⟩ := reads_pure.mp h
    exact .inr (.inl ⟨_, _, _, rfl, id⟩)
  obtain ⟨star, _, accepted'', h⟩ := reads_bind.mp h
  split at h
  · -- a star, with or without the rest by place, which is not kept
    split at h
    · obtain ⟨_, _, failed, -⟩ := reads_bind.mp h
      exact absurd failed not_reads_fail
    · obtain ⟨comma, _, looked, h⟩ := reads_bind.mp h
      obtain ⟨closing, _, looked', h⟩ := reads_bind.mp h
      split at h
      · obtain ⟨rfl, rfl⟩ := reads_pure.mp h
        exact .inr (.inl ⟨_, _, _, rfl, fun bare => by simp at bare⟩)
      · obtain ⟨parameter, _, read, h⟩ := reads_bind.mp h
        obtain ⟨rfl, rfl⟩ := reads_pure.mp h
        exact .inr (.inl ⟨_, _, _, rfl, fun bare => by simp at bare⟩)
  -- a parameter: where it goes depends on whether a star was read before it
  obtain ⟨parameter, _, read, h⟩ := reads_bind.mp h
  obtain ⟨default, _, readDefault, h⟩ := reads_bind.mp h
  have reached := Nat.le_trans accepted.forward
    (Nat.le_trans accepted'.forward accepted''.forward)
  split at h
  · rename_i starSeen
    obtain ⟨rfl, rfl⟩ := reads_pure.mp h
    exact .inr (.inr ⟨_, _, _, _, reached, read, readDefault.forward, .inl ⟨starSeen, rfl⟩⟩)
  · rename_i starSeen
    split at h
    · obtain ⟨_, _, failed, -⟩ := reads_bind.mp h
      exact absurd failed not_reads_fail
    · rename_i ordered
      obtain ⟨rfl, rfl⟩ := reads_pure.mp h
      exact .inr (.inr ⟨_, _, _, _, reached, read, readDefault.forward,
        .inr ⟨Bool.eq_false_iff.mpr starSeen, Bool.eq_false_iff.mpr ordered, rfl⟩⟩)

theorem Formals.held_item {rules : Rules} {formal : Bool → Parser Formal} {close : String}
    (spans : ∀ {afterStar place found next}, (formal afterStar).Reads tokens place found next →
      ∃ last, last < next ∧ Spans tokens found.range place last)
    {start : Nat} {formals formals' : Formals} (held : Held tokens start formals place)
    (h : (Formals.item rules formal close formals).Reads tokens place formals' next) :
    Held tokens start formals' next := by
  have forward := h.forward
  rcases item_cases h with ⟨none, rfl⟩ | ⟨rest, bareStar, keywords, rfl, seen⟩ |
    ⟨parameter, default, first, middle, reached, read, before, added⟩
  · exact (held.slash none).widen forward
  · exact ⟨held.spread.widen (Nat.le_refl _) forward, fun bare => held.starred (seen bare)⟩
  · obtain ⟨last, inside, span⟩ := spans read
    have passed := Nat.lt_of_lt_of_le inside before
    rcases added with ⟨starSeen, rfl⟩ | ⟨bare, -, rfl⟩
    · exact held.byName reached span passed starSeen
    · exact held.byPlace reached span passed bare

/-- What holds where no parameter was read, and is kept by each parameter or mark, holds of the
parameters that are read. -/
theorem Formals.invariant_of_read {rules : Rules} {formal : Bool → Parser Formal} {close : String}
    (P : Nat → Formals → Prop)
    (widen : ∀ {place next formals}, P place formals → place ≤ next → P next formals)
    (step : ∀ {place formals formals' next}, P place formals →
      (item rules formal close formals).Reads tokens place formals' next → P next formals')
    (begun : P place Formals.none) {formals : Formals}
    (h : (read rules formal close).Reads tokens place formals next) : P next formals := by
  obtain ⟨closing, middle, looked, h⟩ := reads_bind.mp h
  have begun' := widen begun looked.forward
  split at h
  · obtain ⟨rfl, rfl⟩ := reads_pure.mp h
    exact begun'
  · obtain ⟨first, _, read, h⟩ := reads_bind.mp h
    obtain ⟨all, behind, looped, h⟩ := reads_bind.mp h
    obtain ⟨last, formals', held, final⟩ := reads_loop P looped (step begun' read) (by
      intro place' formals formals' next held round
      obtain ⟨comma, _, accepted, round⟩ := reads_bind.mp round
      split at round
      · obtain ⟨closing, _, looked, round⟩ := reads_bind.mp round
        split at round
        · obtain ⟨other, -⟩ := reads_pure.mp round
          cases other
        · obtain ⟨formals'', _, read, round⟩ := reads_bind.mp round
          obtain ⟨same, rfl⟩ := reads_pure.mp round
          cases same
          exact step (widen held (Nat.le_trans accepted.forward looked.forward)) read
      · obtain ⟨other, -⟩ := reads_pure.mp round
        cases other)
    -- the last round adds nothing
    have held' : P behind all := by
      obtain ⟨comma, _, accepted, final⟩ := reads_bind.mp final
      split at final
      · obtain ⟨closing, _, looked, final⟩ := reads_bind.mp final
        split at final
        · obtain ⟨same, rfl⟩ := reads_pure.mp final
          cases same
          exact widen held (Nat.le_trans accepted.forward looked.forward)
        · obtain ⟨formals'', _, read, final⟩ := reads_bind.mp final
          obtain ⟨other, -⟩ := reads_pure.mp final
          cases other
      · obtain ⟨same, rfl⟩ := reads_pure.mp final
        cases same
        exact widen held accepted.forward
    split at h
    · obtain ⟨_, _, failed, -⟩ := reads_bind.mp h
      exact absurd failed not_reads_fail
    · obtain ⟨rfl, rfl⟩ := reads_pure.mp h
      exact held'

theorem Formals.spread_read {rules : Rules} {formal : Bool → Parser Formal} {close : String}
    (spans : ∀ {afterStar place found next}, (formal afterStar).Reads tokens place found next →
      ∃ last, last < next ∧ Spans tokens found.range place last)
    {formals : Formals} (h : (Formals.read rules formal close).Reads tokens place formals next) :
    Spread tokens place formals.ranges next := by
  have held : Held tokens place formals next :=
    invariant_of_read (fun place' formals => Held tokens place formals place')
      (fun held later => held.widen later) (fun held read => held_item spans held read)
      ⟨.nil (Nat.le_refl _), fun _ => rfl⟩ h
  exact held.spread

/-! ## Statements -/

namespace Program

/-- A parser that keeps parameters which stand one after the other among the tokens it reads. -/
def Keeps {α : Type} (tokens : Array Token) (parser : Parser α) (ranges : α → List Range) : Prop :=
  ∀ {place value next}, parser.Reads tokens place value next →
    Spread tokens place (ranges value) next

variable {readers : Readers}

theorem ranges_signature (formals : Formals) :
    (signature formals).arguments.map Argument.range = formals.ranges := by
  simp [signature, Signature.arguments, Formals.ranges, argument, Function.comp_def]

theorem keeps_suite (block : Keeps tokens readers.block rangesOfAll) :
    Keeps tokens (suite readers) rangesOfAll := by
  intro place value next h
  obtain ⟨_, _, colon, h⟩ := reads_bind.mp h
  exact (block h).widen colon.forward (Nat.le_refl _)

theorem keeps_optionalSuite (block : Keeps tokens readers.block rangesOfAll) (word : String) :
    Keeps tokens (optionalSuite readers word) rangesOfBlocks := by
  intro place value next h
  obtain ⟨found, _, accepted, h⟩ := reads_bind.mp h
  split at h
  · obtain ⟨body, _, read, h⟩ := reads_bind.mp h
    obtain ⟨rfl, rfl⟩ := reads_pure.mp h
    rw [rangesOfBlocks, List.flatMap_singleton]
    exact (keeps_suite block read).widen accepted.forward (Nat.le_refl _)
  · obtain ⟨rfl, rfl⟩ := reads_pure.mp h
    exact .nil accepted.forward

/-- A function keeps its parameters and those in its body. -/
theorem keeps_function (closed : Closed tokens) (block : Keeps tokens readers.block rangesOfAll)
    (start : Position) (decorators : List Expr) :
    Keeps tokens (function readers start decorators) rangesOf := by
  intro place value next h
  obtain ⟨_, _, word, h⟩ := reads_bind.mp h
  obtain ⟨id, _, named, h⟩ := reads_bind.mp h
  obtain ⟨_, _, opening, h⟩ := reads_bind.mp h
  obtain ⟨formals, after, read, h⟩ := reads_bind.mp h
  obtain ⟨_, _, closing, h⟩ := reads_bind.mp h
  obtain ⟨arrow, _, accepted, h⟩ := reads_bind.mp h
  have parameters := Formals.spread_read (spans_formal closed) read
  have before := Nat.le_trans word.forward (Nat.le_trans named.forward opening.forward)
  have finish {behind : Nat} (later : after ≤ behind)
      (h : (do
        let body ← suite readers
        let stop ← stopPosition
        pure (Statement.function ⟨id, decorators, signature formals, ⟨start, stop⟩⟩ body)).Reads
          tokens behind value next) : Spread tokens place (rangesOf value) next := by
    obtain ⟨body, _, inner, h⟩ := reads_bind.mp h
    obtain ⟨stop, _, stopped, h⟩ := reads_bind.mp h
    obtain ⟨rfl, rfl⟩ := reads_pure.mp h
    rw [rangesOf_function, ranges_signature]
    exact (parameters.widen before later).append
      ((keeps_suite block inner).widen (Nat.le_refl _) stopped.forward)
  dsimp only at h
  split at h
  · obtain ⟨_, _, result, h⟩ := reads_bind.mp h
    exact finish (Nat.le_trans closing.forward (Nat.le_trans accepted.forward result.forward)) h
  · exact finish (Nat.le_trans closing.forward accepted.forward) h

theorem keeps_classDef (block : Keeps tokens readers.block rangesOfAll) :
    Keeps tokens (classDef readers) rangesOf := by
  intro place value next h
  obtain ⟨_, _, word, h⟩ := reads_bind.mp h
  obtain ⟨id, _, named, h⟩ := reads_bind.mp h
  obtain ⟨opening, _, accepted, h⟩ := reads_bind.mp h
  have before := Nat.le_trans word.forward (Nat.le_trans named.forward accepted.forward)
  have finish {found : Rules.Arguments} {behind : Nat} (later : place ≤ behind)
      (h : (do
        let body ← suite readers
        pure (Statement.classDef id found.arguments body)).Reads tokens behind value next) :
      Spread tokens place (rangesOf value) next := by
    obtain ⟨body, _, inner, h⟩ := reads_bind.mp h
    obtain ⟨rfl, rfl⟩ := reads_pure.mp h
    rw [rangesOf_classDef]
    exact (keeps_suite block inner).widen later (Nat.le_refl _)
  dsimp only at h
  split at h
  · obtain ⟨found, _, bases, h⟩ := reads_bind.mp h
    exact finish (Nat.le_trans before bases.forward) h
  · obtain ⟨found, _, bases, h⟩ := reads_bind.mp h
    exact finish (Nat.le_trans before bases.forward) h

theorem keeps_declaration (closed : Closed tokens)
    (block : Keeps tokens readers.block rangesOfAll) :
    Keeps tokens (declaration readers) rangesOf := by
  intro place value next h
  obtain ⟨marks, _, marked, h⟩ := reads_bind.mp h
  obtain ⟨start, _, started, h⟩ := reads_bind.mp h
  obtain ⟨word, _, looked, h⟩ := reads_bind.mp h
  have before := Nat.le_trans marked.forward (Nat.le_trans started.forward looked.forward)
  split at h
  · exact (keeps_classDef block h).widen before (Nat.le_refl _)
  · obtain ⟨async, _, accepted, h⟩ := reads_bind.mp h
    exact (keeps_function closed block start marks h).widen
      (Nat.le_trans before accepted.forward) (Nat.le_refl _)

theorem spread_loop {α : Type} (ranges : α → List Range)
    {step : List α → Parser (List α ⊕ List α)}
    (rounds : ∀ {place found outcome next}, (step found).Reads tokens place outcome next →
      (∃ item, outcome = .inl (item :: found) ∧ Spread tokens place (ranges item) next) ∨
        outcome = .inr found.reverse)
    {start : Nat} {found items : List α}
    (held : Spread tokens start (found.reverse.flatMap ranges) place)
    (h : (loop step found).Reads tokens place items next) :
    Spread tokens start (items.flatMap ranges) next := by
  obtain ⟨last, found', held', final⟩ := reads_loop
    (fun place found => Spread tokens start (found.reverse.flatMap ranges) place) h held (by
      intro place found found' next held round
      rcases rounds round with ⟨item, same, spread⟩ | other
      · cases same
        rw [List.reverse_cons, List.flatMap_append, List.flatMap_singleton]
        exact held.append spread
      · cases other)
  rcases rounds final with ⟨item, other, -⟩ | same
  · cases other
  · cases same
    exact held'.widen (Nat.le_refl _) final.forward

/-- A condition keeps what its branches keep. -/
theorem keeps_conditional (block : Keeps tokens readers.block rangesOfAll) :
    Keeps tokens (conditional readers) rangesOf := by
  intro place value next h
  obtain ⟨_, _, word, h⟩ := reads_bind.mp h
  obtain ⟨_, _, test, h⟩ := reads_bind.mp h
  obtain ⟨first, middle, inner, h⟩ := reads_bind.mp h
  obtain ⟨branches, _, looped, h⟩ := reads_bind.mp h
  obtain ⟨other, _, last, h⟩ := reads_bind.mp h
  obtain ⟨rfl, rfl⟩ := reads_pure.mp h
  have begun : Spread tokens place ([first].reverse.flatMap rangesOfAll) middle := by
    rw [List.reverse_singleton, List.flatMap_singleton]
    exact (keeps_suite block inner).widen (Nat.le_trans word.forward test.forward) (Nat.le_refl _)
  have spread := by
    refine spread_loop rangesOfAll ?_ begun looped
    intro place found outcome next round
    obtain ⟨again, _, accepted, round⟩ := reads_bind.mp round
    split at round
    · obtain ⟨_, _, test, round⟩ := reads_bind.mp round
      obtain ⟨branch, _, inner, round⟩ := reads_bind.mp round
      obtain ⟨rfl, rfl⟩ := reads_pure.mp round
      exact Or.inl ⟨branch, rfl, (keeps_suite block inner).widen
        (Nat.le_trans accepted.forward test.forward) (Nat.le_refl _)⟩
    · obtain ⟨rfl, rfl⟩ := reads_pure.mp round
      exact Or.inr rfl
  rw [rangesOf_compound, rangesOfBlocks, List.flatMap_append]
  exact spread.append (keeps_optionalSuite block "else" last)

theorem spread_body_else (block : Keeps tokens readers.block rangesOfAll) {kind : BlockKind}
    {body : List Statement} {other : List (List Statement)} {middle behind : Nat}
    (inner : (suite readers).Reads tokens place body middle)
    (last : (optionalSuite readers "else").Reads tokens middle other behind) {start : Nat}
    (before : start ≤ place) :
    Spread tokens start (rangesOf (.compound kind (body :: other))) behind := by
  rw [rangesOf_compound, rangesOfBlocks, List.flatMap_cons]
  exact ((keeps_suite block inner).widen before (Nat.le_refl _)).append
    (keeps_optionalSuite block "else" last)

theorem keeps_whileLoop (block : Keeps tokens readers.block rangesOfAll) :
    Keeps tokens (whileLoop readers) rangesOf := by
  intro place value next h
  obtain ⟨_, _, word, h⟩ := reads_bind.mp h
  obtain ⟨_, _, test, h⟩ := reads_bind.mp h
  obtain ⟨body, _, inner, h⟩ := reads_bind.mp h
  obtain ⟨other, _, last, h⟩ := reads_bind.mp h
  obtain ⟨rfl, rfl⟩ := reads_pure.mp h
  exact spread_body_else block inner last (Nat.le_trans word.forward test.forward)

theorem keeps_forLoop (block : Keeps tokens readers.block rangesOfAll) :
    Keeps tokens (forLoop readers) rangesOf := by
  intro place value next h
  obtain ⟨_, _, word, h⟩ := reads_bind.mp h
  obtain ⟨_, _, targets, h⟩ := reads_bind.mp h
  obtain ⟨_, _, word', h⟩ := reads_bind.mp h
  obtain ⟨_, _, values, h⟩ := reads_bind.mp h
  obtain ⟨body, _, inner, h⟩ := reads_bind.mp h
  obtain ⟨other, _, last, h⟩ := reads_bind.mp h
  obtain ⟨rfl, rfl⟩ := reads_pure.mp h
  exact spread_body_else block inner last (Nat.le_trans word.forward
    (Nat.le_trans targets.forward (Nat.le_trans word'.forward values.forward)))

theorem keeps_context (block : Keeps tokens readers.block rangesOfAll) :
    Keeps tokens (context readers) rangesOf := by
  intro place value next h
  obtain ⟨_, _, word, h⟩ := reads_bind.mp h
  obtain ⟨enclosed, _, tried, h⟩ := reads_bind.mp h
  have before := Nat.le_trans word.forward tried.forward
  have finish {behind : Nat} (later : place ≤ behind)
      (h : (do
        let body ← suite readers
        pure (Statement.compound .context [body])).Reads tokens behind value next) :
      Spread tokens place (rangesOf value) next := by
    obtain ⟨body, _, inner, h⟩ := reads_bind.mp h
    obtain ⟨rfl, rfl⟩ := reads_pure.mp h
    rw [rangesOf_compound, rangesOfBlocks, List.flatMap_singleton]
    exact (keeps_suite block inner).widen later (Nat.le_refl _)
  dsimp only at h
  split at h
  · exact finish before h
  · obtain ⟨_, _, contexts, h⟩ := reads_bind.mp h
    exact finish (Nat.le_trans before contexts.forward) h

/-- A handler keeps what its block keeps. -/
theorem keeps_handler (block : Keeps tokens readers.block rangesOfAll) (group : Bool) :
    Keeps tokens (handler readers group) rangesOfAll := by
  intro place value next h
  obtain ⟨_, _, word, h⟩ := reads_bind.mp h
  have finish {behind : Nat} (later : place ≤ behind)
      (h : (do
        let colon ← isNext ":"
        if group || !colon then do
          let _ ← readers.rules.expression
          asName
          suite readers
        else suite readers).Reads tokens behind value next) :
      Spread tokens place (rangesOfAll value) next := by
    obtain ⟨colon, _, looked, h⟩ := reads_bind.mp h
    split at h
    · obtain ⟨_, _, caught, h⟩ := reads_bind.mp h
      obtain ⟨_, _, named, h⟩ := reads_bind.mp h
      exact (keeps_suite block h).widen (Nat.le_trans later (Nat.le_trans looked.forward
        (Nat.le_trans caught.forward named.forward))) (Nat.le_refl _)
    · exact (keeps_suite block h).widen (Nat.le_trans later looked.forward) (Nat.le_refl _)
  dsimp only at h
  split at h
  · obtain ⟨_, _, star, h⟩ := reads_bind.mp h
    exact finish (Nat.le_trans word.forward star.forward) h
  · exact finish word.forward h

/-- A guarded block keeps what its blocks keep. -/
theorem keeps_guarded (block : Keeps tokens readers.block rangesOfAll) :
    Keeps tokens (guarded readers) rangesOf := by
  intro place value next h
  obtain ⟨_, _, word, h⟩ := reads_bind.mp h
  obtain ⟨body, _, inner, h⟩ := reads_bind.mp h
  obtain ⟨excepts, _, looked, h⟩ := reads_bind.mp h
  obtain ⟨star, _, looked', h⟩ := reads_bind.mp h
  obtain ⟨handlers, behind, looped, h⟩ := reads_bind.mp h
  have first := (keeps_suite block inner).widen word.forward
    (Nat.le_trans looked.forward looked'.forward)
  have second := by
    refine spread_loop rangesOfAll ?_ (.nil (Nat.le_refl _)) looped
    intro place found outcome next round
    obtain ⟨again, _, looked, round⟩ := reads_bind.mp round
    split at round
    · obtain ⟨caught, _, read, round⟩ := reads_bind.mp round
      obtain ⟨rfl, rfl⟩ := reads_pure.mp round
      exact Or.inl ⟨caught, rfl,
        (keeps_handler block _ read).widen looked.forward (Nat.le_refl _)⟩
    · obtain ⟨rfl, rfl⟩ := reads_pure.mp round
      exact Or.inr rfl
  -- the blocks that may follow the handlers
  have finish (other : List (List Statement)) {middle : Nat}
      (third : Spread tokens behind (rangesOfBlocks other) middle)
      (h : (do
        let final ← optionalSuite readers "finally"
        if handlers.isEmpty && final.isEmpty then do
          fail
          pure (Statement.compound .guarded (body :: (handlers ++ other ++ final)))
        else pure (Statement.compound .guarded (body :: (handlers ++ other ++ final)))).Reads
          tokens middle value next) : Spread tokens place (rangesOf value) next := by
    obtain ⟨final, _, last, h⟩ := reads_bind.mp h
    split at h
    · obtain ⟨_, _, failed, -⟩ := reads_bind.mp h
      exact absurd failed not_reads_fail
    · obtain ⟨rfl, rfl⟩ := reads_pure.mp h
      rw [rangesOf_compound, rangesOfBlocks, List.flatMap_cons, List.flatMap_append,
        List.flatMap_append]
      exact first.append ((second.append third).append (keeps_optionalSuite block "finally" last))
  dsimp only at h
  split at h
  · obtain ⟨other, _, absent, rest⟩ := reads_bind.mp h
    obtain ⟨rfl, rfl⟩ := reads_pure.mp absent
    exact finish [] (.nil (Nat.le_refl _)) rest
  · obtain ⟨other, _, read, h⟩ := reads_bind.mp h
    exact finish other (keeps_optionalSuite block "else" read) h

/-- A case of a choice keeps what its block keeps. -/
theorem keeps_choiceCase (block : Keeps tokens readers.block rangesOfAll) :
    Keeps tokens (choiceCase readers) rangesOfAll := by
  intro place value next h
  obtain ⟨word, _, looked, h⟩ := reads_bind.mp h
  have finish {behind : Nat} (later : place ≤ behind)
      (h : (do
        advance
        Pattern.case readers.pattern
        let guard ← accept "if"
        if guard then do
          let _ ← Rules.binding readers.rules
          suite readers
        else suite readers).Reads tokens behind value next) :
      Spread tokens place (rangesOfAll value) next := by
    obtain ⟨_, _, passed, h⟩ := reads_bind.mp h
    obtain ⟨_, _, pattern, h⟩ := reads_bind.mp h
    obtain ⟨guard, _, accepted, h⟩ := reads_bind.mp h
    have before := Nat.le_trans later (Nat.le_trans passed.forward
      (Nat.le_trans pattern.forward accepted.forward))
    split at h
    · obtain ⟨_, _, test, h⟩ := reads_bind.mp h
      exact (keeps_suite block h).widen (Nat.le_trans before test.forward) (Nat.le_refl _)
    · exact (keeps_suite block h).widen before (Nat.le_refl _)
  dsimp only at h
  split at h
  · obtain ⟨_, _, failed, -⟩ := reads_bind.mp h
    exact absurd failed not_reads_fail
  · exact finish looked.forward h

/-- A choice keeps what its cases keep. -/
theorem keeps_choice (block : Keeps tokens readers.block rangesOfAll) :
    Keeps tokens (choice readers) rangesOf := by
  intro place value next h
  have forward := h.forward
  obtain ⟨word, _, looked, h⟩ := reads_bind.mp h
  dsimp only at h
  split at h
  · obtain ⟨_, _, failed, -⟩ := reads_bind.mp h
    exact absurd failed not_reads_fail
  · obtain ⟨_, _, passed, h⟩ := reads_bind.mp h
    obtain ⟨_, _, subject, h⟩ := reads_bind.mp h
    obtain ⟨_, _, colon, h⟩ := reads_bind.mp h
    obtain ⟨_, _, ended, h⟩ := reads_bind.mp h
    obtain ⟨_, _, opened, h⟩ := reads_bind.mp h
    obtain ⟨case, middle, read, h⟩ := reads_bind.mp h
    obtain ⟨cases, _, looped, h⟩ := reads_bind.mp h
    obtain ⟨_, _, closed, h⟩ := reads_bind.mp h
    obtain ⟨rfl, rfl⟩ := reads_pure.mp h
    have before := Nat.le_trans looked.forward (Nat.le_trans passed.forward
      (Nat.le_trans subject.forward (Nat.le_trans colon.forward
        (Nat.le_trans ended.forward opened.forward))))
    have begun : Spread tokens place ([case].reverse.flatMap rangesOfAll) middle := by
      rw [List.reverse_singleton, List.flatMap_singleton]
      exact (keeps_choiceCase block read).widen before (Nat.le_refl _)
    rw [rangesOf_compound]
    refine (spread_loop rangesOfAll ?_ begun looped).widen (Nat.le_refl _) closed.forward
    intro place found outcome next round
    obtain ⟨again, _, looked, round⟩ := reads_bind.mp round
    split at round
    · obtain ⟨other, _, read, round⟩ := reads_bind.mp round
      obtain ⟨rfl, rfl⟩ := reads_pure.mp round
      exact Or.inl ⟨other, rfl,
        (keeps_choiceCase block read).widen looked.forward (Nat.le_refl _)⟩
    · obtain ⟨rfl, rfl⟩ := reads_pure.mp round
      exact Or.inr rfl

theorem keeps_plain : Keeps tokens (plain readers) rangesOf := by
  intro place value next h
  obtain ⟨_, _, line, h⟩ := reads_bind.mp h
  obtain ⟨rfl, rfl⟩ := reads_pure.mp h
  rw [rangesOf_simple]
  exact .nil line.forward

/-- A statement keeps what its parts keep. -/
theorem keeps_statement (closed : Closed tokens) (block : Keeps tokens readers.block rangesOfAll) :
    Keeps tokens (statement readers) rangesOf := by
  intro place value next h
  obtain ⟨kind, _, looked, h⟩ := reads_bind.mp h
  have before := looked.forward
  have plain {middle : Nat} (later : place ≤ middle)
      (h : (plain readers).Reads tokens middle value next) :
      Spread tokens place (rangesOf value) next := (keeps_plain h).widen later (Nat.le_refl _)
  have declared (h : (declaration readers).Reads tokens _ value next) :
      Spread tokens place (rangesOf value) next :=
    (keeps_declaration closed block h).widen before (Nat.le_refl _)
  split at h
  · exact declared h
  · exact declared h
  · exact declared h
  · obtain ⟨async, _, looked', h⟩ := reads_bind.mp h
    have before' := Nat.le_trans before looked'.forward
    split at h
    · exact (keeps_declaration closed block h).widen before' (Nat.le_refl _)
    · obtain ⟨_, _, passed, h⟩ := reads_bind.mp h
      obtain ⟨word, _, looked'', h⟩ := reads_bind.mp h
      have before'' := Nat.le_trans before' (Nat.le_trans passed.forward looked''.forward)
      split at h
      · exact (keeps_forLoop block h).widen before'' (Nat.le_refl _)
      · exact (keeps_context block h).widen before'' (Nat.le_refl _)
  · exact (keeps_conditional block h).widen before (Nat.le_refl _)
  · exact (keeps_whileLoop block h).widen before (Nat.le_refl _)
  · exact (keeps_forLoop block h).widen before (Nat.le_refl _)
  · exact (keeps_context block h).widen before (Nat.le_refl _)
  · exact (keeps_guarded block h).widen before (Nat.le_refl _)
  · obtain ⟨tried, _, attempted, h⟩ := reads_bind.mp h
    have before' := Nat.le_trans before attempted.forward
    -- a word that is soft: if no choice can be read there, the reader is back where it was
    rcases reads_attempt attempted with ⟨found, rfl, read⟩ | ⟨rfl, -⟩
    · obtain ⟨rfl, rfl⟩ := reads_pure.mp h
      exact (keeps_choice block read).widen before (Nat.le_refl _)
    · exact plain before' h
  · exact plain before h

theorem keeps_statements (closed : Closed tokens)
    (block : Keeps tokens readers.block rangesOfAll) :
    Keeps tokens (statements readers) rangesOfAll := by
  intro place value next h
  refine spread_loop rangesOf ?_ (.nil (Nat.le_refl _)) h
  intro place found outcome next round
  obtain ⟨kind, _, looked, round⟩ := reads_bind.mp round
  split at round
  · obtain ⟨rfl, rfl⟩ := reads_pure.mp round
    exact Or.inr rfl
  · obtain ⟨rfl, rfl⟩ := reads_pure.mp round
    exact Or.inr rfl
  · obtain ⟨item, _, read, round⟩ := reads_bind.mp round
    obtain ⟨rfl, rfl⟩ := reads_pure.mp round
    exact Or.inl ⟨item, rfl,
      (keeps_statement closed block read).widen looked.forward (Nat.le_refl _)⟩

theorem keeps_block (closed : Closed tokens) (below : Keeps tokens readers.block rangesOfAll) :
    Keeps tokens (block readers) rangesOfAll := by
  intro place value next h
  obtain ⟨kind, _, looked, h⟩ := reads_bind.mp h
  split at h
  · obtain ⟨_, _, passed, h⟩ := reads_bind.mp h
    obtain ⟨_, _, opened, h⟩ := reads_bind.mp h
    obtain ⟨body, _, read, h⟩ := reads_bind.mp h
    obtain ⟨_, _, ended, h⟩ := reads_bind.mp h
    obtain ⟨rfl, rfl⟩ := reads_pure.mp h
    exact (keeps_statements closed below read).widen (Nat.le_trans looked.forward
      (Nat.le_trans passed.forward opened.forward)) ended.forward
  · obtain ⟨line, _, read, h⟩ := reads_bind.mp h
    obtain ⟨rfl, rfl⟩ := reads_pure.mp h
    rw [rangesOfAll, List.flatMap_singleton]
    exact (keeps_plain read).widen looked.forward (Nat.le_refl _)

theorem keeps_ofDepth (closed : Closed tokens) (depth : Nat) :
    Keeps tokens (Readers.ofDepth depth).block rangesOfAll := by
  have level (base : Readers) (count : Nat) :
      Keeps tokens (Nat.repeat (fun below => Program.block { base with block := below }) count fail)
        rangesOfAll := by
    induction count with
    | zero =>
        intro place value next h
        exact absurd h not_reads_fail
    | succ count ih =>
        show Keeps tokens (Program.block { base with block := _ }) rangesOfAll
        exact keeps_block closed ih
  intro place value next h
  exact level ⟨Rules.ofDepth depth, Pattern.ofDepth (Rules.ofDepth depth) depth, fail⟩ depth h

theorem spread_runAll (closed : Closed tokens) {depth : Nat} {found : List Statement}
    (h : runAll (statements (Readers.ofDepth depth)) tokens = .ok found) :
    ∃ last, Spread tokens 0 (rangesOfAll found) last := by
  unfold runAll at h
  split at h
  · cases h
  · rename_i reading read
    split at h
    · cases h
      exact ⟨reading.next, keeps_statements closed (keeps_ofDepth closed depth)
        ⟨reading.forward, read⟩⟩
    · cases h

end Program

end SignatureLint

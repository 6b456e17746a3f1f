import SignatureLint.Syntax.Expression
import SignatureLint.Syntax.Printer
import SignatureLint.Text.Lines
import SignatureLint.TypeRef

/-!
# Types in annotations

The annotation of a parameter is an expression.  `Optional`, `Union` and
`Annotated` are looked through, `|` joins alternatives, and a text stands for
the expression that it spells.
-/

namespace SignatureLint

/-- Why an annotation could not be examined. -/
inductive AnnotationError where
  /-- A text in the annotation holds a null character. -/
  | nullCharacter
  /-- A text in the annotation holds a lone surrogate. -/
  | surrogate (error : SurrogateError)
  /-- A part of the annotation has no text. -/
  | render (error : RenderError)
  deriving DecidableEq, Repr

def AnnotationError.message : AnnotationError → String
  | nullCharacter => "source code string cannot contain null bytes"
  | surrogate error => error.message
  | render error => error.message

namespace Expr

/-- The last segment of the name of an expression, looking through calls. -/
def dottedName? : Expr → Option String
  | .name id => some id
  | .access _ part => some part
  | .call function _ _ => dottedName? function
  | _ => none

/-- The constant for an absent value. -/
def isNone : Expr → Bool
  | .constant .none => true
  | _ => false

/-- The operands of a chain of `|`, of any other expression it alone. -/
def alternatives : Expr → List Expr
  | .binary .bitOr left right => alternatives left ++ alternatives right
  | other => [other]

/-- The arguments between the brackets of a subscript. -/
def indexElements : Expr → List Expr
  | .tuple elements => elements
  | other => [other]

/-- The greatest size of several expressions. -/
noncomputable def largest (expressions : List Expr) : Nat :=
  expressions.foldr (fun e rest => max (sizeOf e) rest) 0

theorem longestTexts_filter_le (keep : Expr → Bool) (expressions : List Expr) :
    longestTexts (expressions.filter keep) ≤ longestTexts expressions := by
  induction expressions with
  | nil => exact Nat.le_refl _
  | cons first rest ih =>
      simp only [List.filter_cons]
      split <;> simp only [longestTexts] <;> omega

theorem largest_filter_le (keep : Expr → Bool) (expressions : List Expr) :
    largest (expressions.filter keep) ≤ largest expressions := by
  induction expressions with
  | nil => exact Nat.le_refl _
  | cons first rest ih =>
      simp only [largest] at ih
      simp only [List.filter_cons]
      split <;> simp only [largest, List.foldr_cons] <;> omega

theorem longestTexts_append (left right : List Expr) :
    longestTexts (left ++ right) = max (longestTexts left) (longestTexts right) := by
  induction left with
  | nil => simp [longestTexts]
  | cons first rest ih => simp only [List.cons_append, longestTexts, ih]; omega

theorem largest_append (left right : List Expr) :
    largest (left ++ right) = max (largest left) (largest right) := by
  induction left with
  | nil => simp [largest]
  | cons first rest ih =>
      simp only [largest] at ih
      simp only [List.cons_append, largest, List.foldr_cons, ih]; omega

theorem longestTexts_alternatives_le (e : Expr) :
    longestTexts e.alternatives ≤ longestText e := by
  fun_induction alternatives e with
  | case1 left right ihLeft ihRight =>
      rw [longestTexts_append]
      simp only [longestText]
      omega
  | case2 other => simp [longestTexts]

theorem largest_alternatives_le (e : Expr) : largest e.alternatives ≤ sizeOf e := by
  fun_induction alternatives e with
  | case1 left right ihLeft ihRight =>
      rw [largest_append]
      simp only [Expr.binary.sizeOf_spec]
      omega
  | case2 other => simp [largest]

theorem largest_alternatives_lt (left right : Expr) :
    largest (Expr.binary .bitOr left right).alternatives <
      sizeOf (Expr.binary .bitOr left right) := by
  simp only [alternatives, largest_append, Expr.binary.sizeOf_spec]
  have := largest_alternatives_le left
  have := largest_alternatives_le right
  omega

theorem longestTexts_indexElements_le (e : Expr) :
    longestTexts e.indexElements ≤ longestText e := by
  unfold indexElements
  split <;> simp [longestText, longestTexts]

theorem largest_lt_sizeOf (expressions : List Expr) : largest expressions < sizeOf expressions := by
  induction expressions with
  | nil => simp [largest]
  | cons first rest ih =>
      simp only [largest] at ih
      simp only [largest, List.foldr_cons, List.cons.sizeOf_spec]
      omega

theorem largest_indexElements_le (e : Expr) : largest e.indexElements ≤ sizeOf e := by
  unfold indexElements
  split
  · have := largest_lt_sizeOf ‹List Expr›
    simp only [Expr.tuple.sizeOf_spec]
    omega
  · simp [largest]

theorem bounds_indexElements (value index : Expr) :
    longestTexts index.indexElements ≤ longestText (.subscript value index) ∧
      largest index.indexElements < sizeOf (Expr.subscript value index) := by
  have := longestTexts_indexElements_le index
  have := largest_indexElements_le index
  simp only [longestText, Expr.subscript.sizeOf_spec]
  omega

theorem bounds_of_indexElements (value : Expr) {index first : Expr} {rest : List Expr}
    (h : index.indexElements = first :: rest) :
    longestText first ≤ longestText (.subscript value index) ∧
      sizeOf first < sizeOf (Expr.subscript value index) := by
  have bounds := bounds_indexElements value index
  rw [h] at bounds
  simp only [longestTexts, largest, List.foldr_cons] at bounds
  omega

end Expr

namespace TypeRef

/-- Look through a type that admits an absent value. -/
def asNullable (text : String) (nullable : Bool) (inner : TypeRef) : TypeRef :=
  { inner with text := text, nullable := inner.nullable || nullable }

def written (e : Expr) : Except AnnotationError String :=
  match e.render with
  | .ok text => .ok (String.ofList text)
  | .error error => .error (.render error)

/-- The characters of a text inside an annotation, without the blanks around it. -/
def referenceText (text : LooseText) : Except AnnotationError (List Char) :=
  match text with
  | .broken points =>
      let isBlankPoint (code : Nat) := !isSurrogate code && Text.isBlank (Char.ofNat code)
      let trimmed := ((points.dropWhile isBlankPoint).reverse.dropWhile isBlankPoint).reverse
      .error (.surrogate (SurrogateError.ofPoints trimmed))
  | .clean text =>
      let trimmed := Text.trim text.toList
      if trimmed.contains '\x00' then .error .nullCharacter else .ok trimmed

/-- The expression that the text of a forward reference spells, if it spells one. -/
def reference? (text : List Char) : Option (Located Expr) :=
  (Expr.read (Text.normalizeNewlines text)).toOption

theorem length_normalizeNewlines_le (text : List Char) :
    (Text.normalizeNewlines text).length ≤ text.length := by
  fun_induction Text.normalizeNewlines text <;> grind

/-- What a text refers to has shorter texts in it. -/
theorem longestText_of_reference {text : LooseText} {characters : List Char}
    {found : Located Expr} (h : referenceText text = .ok characters)
    (read : reference? characters = some found) :
    found.value.longestText < text.points.length := by
  have shorter : found.value.longestText < (Text.normalizeNewlines characters).length := by
    unfold reference? at read
    cases eq : Expr.read (Text.normalizeNewlines characters) with
    | error e => rw [eq] at read; simp [Except.toOption] at read
    | ok value =>
        rw [eq] at read
        simp only [Except.toOption, Option.some.injEq] at read
        subst read
        exact Expr.longestText_lt_of_read eq
  have noLonger := length_normalizeNewlines_le characters
  unfold referenceText at h
  split at h
  · cases h
  · dsimp only at h
    split at h
    · cases h
    · injection h with h
      subst h
      rename_i clean _
      have := Text.length_trim_le clean.toList
      simp only [LooseText.points, List.length_map]
      omega

/-- The wrappers that admit an absent value, that list alternatives, and that add markers. -/
inductive Wrapper where
  | optional | alternatives | annotated
  deriving DecidableEq, Repr

def Wrapper.ofName? (name : String) : Option Wrapper :=
  if name = "Optional" then some .optional
  else if name = "Union" then some .alternatives
  else if name = "Annotated" then some .annotated
  else none

/-- The markers that the arguments of `Annotated` after the first one name. -/
def annotatedMarkers (elements : List Expr) : NameSet :=
  NameSet.ofList ((elements.filterMap Expr.dottedName?).filter (!·.isEmpty))

/-- The type that a list of alternatives describes, one that stands alone for itself. -/
def ofAlternatives (text : String) (nullable : Bool) : List (Option TypeRef) → Option TypeRef
  | [alone] => alone.map (asNullable text nullable)
  | many =>
      some
        { text := text, rawName := "Union", arguments := many.filterMap id, nullable := nullable,
          coreText := text }

theorem measure_lt {a b c p q r : Nat} (h : a < p ∨ (a ≤ p ∧ (b < q ∨ (b ≤ q ∧ c < r)))) :
    Prod.Lex (· < ·) (Prod.Lex (· < ·) (· < ·)) (a, b, c) (p, q, r) := by
  rcases h with h | ⟨h, k | ⟨k, l⟩⟩
  · exact .left _ _ h
  · rcases Nat.lt_or_eq_of_le h with h | rfl
    · exact .left _ _ h
    · exact .right _ (.left _ _ k)
  · rcases Nat.lt_or_eq_of_le h with h | rfl
    · exact .left _ _ h
    · rcases Nat.lt_or_eq_of_le k with k | rfl
      · exact .right _ (.left _ _ k)
      · exact .right _ (.right _ l)

mutual

/-- The type that an expression describes, `none` if it describes none. -/
def describe (e : Expr) : Except AnnotationError (Option TypeRef) :=
  match e with
  | .constant .none => .ok (some { text := "None", rawName := "None", coreText := "None" })
  | .constant (.text text _) =>
      match _ : referenceText text with
      | .error error => .error error
      | .ok characters =>
          match _ : reference? characters with
          | none => .ok none
          | some found => describe found.value
  | .name id => do
      let text ← written e
      return some { text := text, rawName := id, coreText := text }
  | .access _ part => do
      let text ← written e
      return some { text := text, rawName := part, coreText := text }
  | .binary .bitOr left right => do
      let text ← written e
      let described ← describeAll
        ((Expr.binary .bitOr left right).alternatives.filter (!·.isNone))
      return ofAlternatives text (e.alternatives.any Expr.isNone) described
  | .subscript value index =>
      match value.dottedName? with
      | none => .ok none
      | some name =>
          match Wrapper.ofName? name, _ : index.indexElements with
          | some .optional, first :: _ => do
              match ← describe first with
              | none => return none
              | some inner => return some (inner.asNullable (← written e) true)
          | some .annotated, first :: rest => do
              match ← describe first with
              | none => return none
              | some inner =>
                  let text ← written e
                  return some { inner with
                    text := text
                    markers := inner.markers ∪ annotatedMarkers rest }
          | some .alternatives, _ => do
              let text ← written e
              let described ← describeAll (index.indexElements.filter (!·.isNone))
              return ofAlternatives text (index.indexElements.any Expr.isNone) described
          | _, _ => do
              let text ← written e
              let described ← describeAll index.indexElements
              return some
                { text := text, rawName := name, arguments := described.filterMap id,
                  coreText := text }
  | _ => .ok none
termination_by (e.longestText, sizeOf e, 0)
decreasing_by
  all_goals apply measure_lt
  · have := longestText_of_reference ‹_› ‹_›
    simp only [Expr.longestText]
    omega
  · have := Expr.longestTexts_filter_le (!·.isNone) (Expr.binary .bitOr left right).alternatives
    have := Expr.longestTexts_alternatives_le (.binary .bitOr left right)
    have := Expr.largest_filter_le (!·.isNone) (Expr.binary .bitOr left right).alternatives
    have := Expr.largest_alternatives_lt left right
    omega
  · have := Expr.bounds_of_indexElements value ‹_›
    omega
  · have := Expr.bounds_of_indexElements value ‹_›
    omega
  · have := Expr.longestTexts_filter_le (!·.isNone) index.indexElements
    have := Expr.largest_filter_le (!·.isNone) index.indexElements
    have := Expr.bounds_indexElements value index
    omega
  · have := Expr.bounds_indexElements value index
    omega

def describeAll (expressions : List Expr) : Except AnnotationError (List (Option TypeRef)) :=
  match expressions with
  | [] => .ok []
  | first :: rest => do
      let described ← describe first
      return described :: (← describeAll rest)
termination_by (Expr.longestTexts expressions, Expr.largest expressions, expressions.length + 1)
decreasing_by
  all_goals apply measure_lt
  all_goals simp only [Expr.longestTexts, Expr.largest, List.foldr_cons, List.length_cons]
  all_goals omega

end

end TypeRef

end SignatureLint

import SignatureLint.TypeRef.Annotation

/-!
# What expressions describe

The cases of what an expression describes, one equation for each.  An expression is
described by the parts that it looks through or lists, and by its own text.
-/

namespace SignatureLint

namespace Expr

/-- An expression that lists others between brackets or on its own. -/
def isTuple : Expr → Bool
  | .tuple _ => true
  | _ => false

theorem indexElements_of_isTuple {e : Expr} (single : e.isTuple = false) :
    e.indexElements = [e] := by
  cases e <;> first | rfl | cases single

end Expr

namespace TypeRef

/-! ## Names and texts -/

theorem describe_none :
    describe (.constant .none) =
      .ok (some { text := "None", rawName := "None", coreText := "None" }) := by
  rw [describe]

theorem describe_name (id : String) :
    describe (.name id) =
      written (.name id) >>= fun text =>
        .ok (some { text := text, rawName := id, coreText := text }) := by
  rw [describe]
  rfl

theorem describe_access (value : Expr) (part : String) :
    describe (.access value part) =
      written (.access value part) >>= fun text =>
        .ok (some { text := text, rawName := part, coreText := text }) := by
  rw [describe]
  rfl

theorem describe_text (text : LooseText) (marked : Bool) :
    describe (.constant (.text text marked)) =
      referenceText text >>= fun characters =>
        match reference? characters with
        | none => .ok none
        | some found => describe found.value := by
  rw [describe]
  split
  · rename_i fault broken
    rw [broken]
    rfl
  · rename_i characters clean
    rw [clean]
    split
    · rename_i unread
      simp only [bind, Except.bind, unread]
    · rename_i found read
      simp only [bind, Except.bind, read]

theorem argumentText_congr {type type' : TypeRef} (same : type.coreText = type'.coreText)
    (filled : type.coreText ≠ "") : type.argumentText = type'.argumentText := by
  have filled' : type.coreText.isEmpty = false := by simpa using filled
  rw [argumentText, argumentText, ← same, filled']
  simp only [Bool.false_eq_true, if_false]

/-! ## Several expressions -/

@[simp] theorem describeAll_nil : describeAll [] = .ok [] := by
  rw [describeAll]

@[simp] theorem describeAll_cons (first : Expr) (rest : List Expr) :
    describeAll (first :: rest) =
      describe first >>= fun described =>
        describeAll rest >>= fun others => .ok (described :: others) := by
  rw [describeAll]
  rfl

theorem describeAll_singleton (only : Expr) :
    describeAll [only] = describe only >>= fun described => .ok [described] := by
  rw [describeAll_cons, describeAll_nil]
  rfl

theorem describe_bar (left right : Expr) :
    describe (.binary .bitOr left right) =
      written (.binary .bitOr left right) >>= fun text =>
        describeAll ((Expr.binary .bitOr left right).alternatives.filter (!·.isNone)) >>=
          fun described =>
            .ok (ofAlternatives text
              ((Expr.binary .bitOr left right).alternatives.any Expr.isNone) described) := by
  rw [describe]
  rfl

/-! ## Subscripts -/

/-- A name with its arguments in brackets. -/
def applied (name : Expr) : List Expr → Expr
  | [] => name
  | [only] => .subscript name only
  | many => .subscript name (.tuple many)

theorem exists_index (name : Expr) {first : Expr} {rest : List Expr}
    (single : first.isTuple = false) :
    ∃ index, applied name (first :: rest) = .subscript name index ∧
      index.indexElements = first :: rest := by
  cases rest with
  | nil => exact ⟨first, rfl, Expr.indexElements_of_isTuple single⟩
  | cons second others => exact ⟨.tuple (first :: second :: others), rfl, rfl⟩

variable {value index first : Expr} {rest : List Expr}

theorem describe_optional (named : value.dottedName? = some "Optional")
    (elements : index.indexElements = first :: rest) :
    describe (.subscript value index) =
      describe first >>= fun
        | none => .ok none
        | some inner =>
            written (.subscript value index) >>= fun text =>
              .ok (some (inner.asNullable text true)) := by
  rw [describe]
  simp only [named]
  split
  · rename_i same
    rw [elements] at same
    cases same
    rfl
  · rename_i other _
    cases other
  · rename_i other
    cases other
  · rename_i notUnion notOptional notAnnotated
    exact absurd elements (notOptional _ _ rfl)

theorem describe_annotated (named : value.dottedName? = some "Annotated")
    (elements : index.indexElements = first :: rest) :
    describe (.subscript value index) =
      describe first >>= fun
        | none => .ok none
        | some inner =>
            written (.subscript value index) >>= fun text =>
              .ok (some { inner with
                text := text
                markers := inner.markers ∪ annotatedMarkers rest }) := by
  rw [describe]
  simp only [named]
  split
  · rename_i other _
    cases other
  · rename_i same
    rw [elements] at same
    cases same
    rfl
  · rename_i other
    cases other
  · rename_i notUnion notOptional notAnnotated
    exact absurd elements (notAnnotated _ _ rfl)

theorem describe_union (named : value.dottedName? = some "Union") :
    describe (.subscript value index) =
      written (.subscript value index) >>= fun text =>
        describeAll (index.indexElements.filter (!·.isNone)) >>= fun described =>
          .ok (ofAlternatives text (index.indexElements.any Expr.isNone) described) := by
  rw [describe]
  simp only [named]
  split
  · rename_i other _
    cases other
  · rename_i other _
    cases other
  · rfl
  · rename_i notUnion _ _
    exact absurd rfl notUnion

theorem describe_generic {name : String} (named : value.dottedName? = some name)
    (plain : Wrapper.ofName? name = none) :
    describe (.subscript value index) =
      written (.subscript value index) >>= fun text =>
        describeAll index.indexElements >>= fun described =>
          .ok (some
            { text := text, rawName := name, arguments := described.filterMap id,
              coreText := text }) := by
  rw [describe]
  simp only [named, plain]
  rfl

end TypeRef

end SignatureLint

import SignatureLint.Outline
import SignatureLint.Proofs.Outcome
import SignatureLint.Proofs.TypeRef.Describe
import SignatureLint.Proofs.TypeRef.RoundTrip
import SignatureLint.Registry

/-!
# Types that annotations and plain texts share

Names, arguments in square brackets and `| None` mean the same in the annotations of a
program and in the plain text of a type.  Such a type is an expression and a text; the
expression is written as the text, and both describe one type.
-/

namespace SignatureLint

namespace TypeRef

/-! ## Names -/

/-- An ASCII identifier that is free to be a name. -/
structure Identifier where
  letters : List Char
  formed : Text.isIdentifier letters = true
  ascii : ∀ c ∈ letters, c.toNat < 128
  free : String.ofList letters ∉ keywords

namespace Identifier

def id (identifier : Identifier) : String :=
  String.ofList identifier.letters

@[simp] theorem toList_id (identifier : Identifier) : identifier.id.toList = identifier.letters :=
  String.toList_ofList

theorem isWord_of_mem (identifier : Identifier) :
    ∀ c ∈ identifier.letters, Text.isWord c = true := by
  intro c member
  have ascii := identifier.ascii c member
  rw [Text.isWord, if_pos ascii]
  have formed := identifier.formed
  cases shape : identifier.letters with
  | nil =>
      rw [shape] at member
      cases member
  | cons first rest =>
      rw [shape, Text.isIdentifier, Bool.and_eq_true, List.all_eq_true] at formed
      rw [shape] at member
      rcases List.mem_cons.mp member with rfl | later
      · have start := formed.1
        rw [Text.isIdentifierStart, if_pos ascii, Bool.or_eq_true] at start
        rw [Text.isAsciiWord, Char.isAlphanum, Bool.or_eq_true, Bool.or_eq_true]
        exact start.imp_left Or.inl
      · have part := formed.2 c later
        rwa [Text.isIdentifierPart, if_pos ascii] at part

/-- An identifier as the segment of a written name. -/
def segment (identifier : Identifier) : Segment where
  letters := identifier.letters
  nonempty := by
    intro empty
    have formed := identifier.formed
    rw [empty] at formed
    cases formed
  areWord := identifier.isWord_of_mem

end Identifier

/-- A dotted name that is not the name of a wrapper. -/
structure PlainName where
  /-- The identifiers before the last one. -/
  qualifiers : List Identifier
  last : Identifier
  plain : Wrapper.ofName? last.id = none

namespace PlainName

def written (name : PlainName) : DottedName :=
  ⟨name.qualifiers.map Identifier.segment, name.last.segment⟩

/-- An expression with several parts accessed one after the other. -/
def parts (value : Expr) (identifiers : List Identifier) : Expr :=
  identifiers.foldl (fun value part => .access value part.id) value

def expr (name : PlainName) : Expr :=
  match name.qualifiers with
  | [] => .name name.last.id
  | first :: rest => .access (parts (.name first.id) rest) name.last.id

theorem dottedName?_expr (name : PlainName) : name.expr.dottedName? = some name.last.id := by
  unfold expr
  split <;> rfl

end PlainName

/-! ## Types -/

/-- A type that annotations and plain texts share: the absent value, or a name with its arguments
and whether the absent value is admitted. -/
inductive SharedType where
  | absent
  | named (name : PlainName) (arguments : List SharedType) (nullable : Bool)

namespace SharedType

/-- The word for the absent value. -/
def absentName : DottedName :=
  ⟨[], ⟨"None".toList, by decide, List.all_eq_true.mp (by rfl)⟩⟩

mutual

/-- A type as it is written in a plain text. -/
def tree : SharedType → TypeTree
  | absent => .node [] absentName .square [] none
  | named name arguments nullable =>
      .node [] name.written .square (trees arguments) (if nullable then some .alternative else none)

/-- Several types as they are written. -/
def trees : List SharedType → List TypeTree
  | [] => []
  | first :: rest => first.tree :: trees rest

end

def text (shared : SharedType) : List Char :=
  shared.tree.text

/-- An expression that also admits the absent value, or not. -/
def orNone (nullable : Bool) (e : Expr) : Expr :=
  if nullable then .binary .bitOr e (.constant .none) else e

mutual

def expr : SharedType → Expr
  | absent => .constant .none
  | named name arguments nullable => orNone nullable (applied name.expr (exprs arguments))

def exprs : List SharedType → List Expr
  | [] => []
  | first :: rest => first.expr :: exprs rest

end

/-! ## Writing -/

/-- An expression that has the same text in any surroundings. -/
def Writes (e : Expr) (text : List Char) : Prop :=
  ∀ outer, Printer.expr false outer e = .ok text

theorem writes_name (id : String) : Writes (.name id) id.toList := by
  intro outer
  rw [Printer.expr]

theorem Writes.access {value : Expr} {text : List Char} (writes : Writes value text)
    (target : value.isSingleTarget = true) (part : String) :
    Writes (.access value part) (text ++ '.' :: part.toList) := by
  intro outer
  cases value with
  | name | access | subscript =>
      rw [Printer.expr, writes]
      · simp only [bind, Except.bind, pure, Except.pure, List.append_nil]
      all_goals nofun
  | _ => cases target

theorem text_segments_cons (first : Segment) (rest : List Segment) (last : Segment) :
    DottedName.text ⟨first :: rest, last⟩ =
      first.letters ++ '.' :: DottedName.text ⟨rest, last⟩ := by
  simp [DottedName.text]

theorem Writes.parts {value : Expr} {text : List Char} (writes : Writes value text)
    (target : value.isSingleTarget = true) (identifiers : List Identifier) (last : Identifier) :
    Writes (.access (PlainName.parts value identifiers) last.id)
      (text ++ '.' :: DottedName.text ⟨identifiers.map Identifier.segment, last.segment⟩) := by
  induction identifiers generalizing value text with
  | nil =>
      have here := writes.access target last.id
      rwa [Identifier.toList_id] at here
  | cons first rest ih =>
      have here := writes.access target first.id
      have whole := ih here rfl
      rw [Identifier.toList_id, List.append_assoc] at whole
      rw [List.map_cons, text_segments_cons]
      exact whole

theorem writes_expr (name : PlainName) : Writes name.expr name.written.text := by
  rw [PlainName.expr, PlainName.written]
  cases name.qualifiers with
  | nil =>
      have here := writes_name name.last.id
      rwa [Identifier.toList_id] at here
  | cons first rest =>
      have whole := (writes_name first.id).parts rfl rest name.last
      rw [Identifier.toList_id] at whole
      rw [List.map_cons, text_segments_cons]
      exact whole

theorem Writes.subscript {value index : Expr} {text inner : List Char} (writes : Writes value text)
    (single : index.isTuple = false) (written : Printer.expr false .test index = .ok inner) :
    Writes (.subscript value index) (text ++ '[' :: (inner ++ [']'])) := by
  intro outer
  rw [Printer.expr, writes]
  simp only [bind, Except.bind]
  split
  · cases single
  · rw [written]
    rfl

theorem exists_of_exprs_cons {first : Expr} {rest : List Expr} {texts : List (List Char)}
    (written : Printer.exprs false .test (first :: rest) = .ok texts) :
    ∃ head tail, texts = head :: tail ∧ Printer.expr false .test first = .ok head ∧
      Printer.exprs false .test rest = .ok tail := by
  rw [Printer.exprs] at written
  obtain ⟨head, here, written⟩ := Outcome.exists_of_bind_eq_ok written
  obtain ⟨tail, others, same⟩ := Outcome.exists_of_bind_eq_ok written
  cases same
  exact ⟨head, tail, rfl, here, others⟩

theorem Writes.subscript_tuple {value first second : Expr} {rest : List Expr} {text : List Char}
    {texts : List (List Char)} (writes : Writes value text)
    (written : Printer.exprs false .test (first :: second :: rest) = .ok texts) :
    Writes (.subscript value (.tuple (first :: second :: rest)))
      (text ++ '[' :: (Text.join [',', ' '] texts ++ [']'])) := by
  intro outer
  obtain ⟨head, tail, rfl, here, others⟩ := exists_of_exprs_cons written
  obtain ⟨next, more, rfl, -, -⟩ := exists_of_exprs_cons others
  rw [Printer.expr, writes]
  simp only [here, others, bind, Except.bind, pure, Except.pure]
  rfl

theorem Writes.applied {name : Expr} {text : List Char} (writes : Writes name text)
    {arguments : List Expr} {texts : List (List Char)}
    (single : ∀ argument ∈ arguments, argument.isTuple = false)
    (inner : Printer.exprs false .test arguments = .ok texts) :
    Writes (applied name arguments) (text ++ Brackets.square.enclose texts) := by
  match arguments with
  | [] =>
      rw [Printer.exprs] at inner
      cases inner
      rwa [Brackets.enclose, List.append_nil]
  | [only] =>
      obtain ⟨head, tail, rfl, written, others⟩ := exists_of_exprs_cons inner
      rw [Printer.exprs] at others
      cases others
      have whole := writes.subscript (single only List.mem_cons_self) written
      have joined : Text.join [',', ' '] [head] = head := by simp [Text.join]
      rw [Brackets.enclose, joined]
      · exact whole
      · exact List.cons_ne_nil _ _
  | first :: second :: rest =>
      have whole := writes.subscript_tuple inner
      obtain ⟨head, tail, rfl, -, -⟩ := exists_of_exprs_cons inner
      exact whole

theorem isTuple_expr : (shared : SharedType) → shared.expr.isTuple = false
  | absent => rfl
  | named name arguments nullable => by
      rw [expr]
      cases nullable with
      | true => rfl
      | false =>
          rw [orNone, if_neg Bool.false_ne_true]
          match exprs arguments with
          | [] =>
              rw [applied, PlainName.expr]
              split <;> rfl
          | [_] => rfl
          | _ :: _ :: _ => rfl

theorem exprs_eq_map (types : List SharedType) : exprs types = types.map expr := by
  induction types with
  | nil => rfl
  | cons first rest ih => rw [exprs, ih, List.map_cons]

theorem isTuple_of_mem_exprs {types : List SharedType} :
    ∀ e ∈ exprs types, e.isTuple = false := by
  intro e member
  rw [exprs_eq_map] at member
  obtain ⟨shared, -, rfl⟩ := List.mem_map.mp member
  exact shared.isTuple_expr

def coreText (name : PlainName) (arguments : List SharedType) : List Char :=
  name.written.text ++ Brackets.square.enclose (TypeTree.texts (trees arguments))

theorem text_named_false (name : PlainName) (arguments : List SharedType) :
    text (named name arguments false) = coreText name arguments := by
  rw [text, tree, TypeTree.text]
  exact List.append_nil _

mutual

theorem render_expr : (shared : SharedType) → shared.expr.render = .ok shared.text
  | absent => by
      rw [expr, Expr.render, Printer.expr]
      rfl
  | named name arguments nullable => by
      have core := (writes_expr name).applied isTuple_of_mem_exprs (exprs_expr arguments)
      rw [expr, Expr.render]
      cases nullable with
      | false =>
          rw [orNone, if_neg Bool.false_ne_true, text_named_false]
          exact core .test
      | true =>
          have none : Writes (.constant .none) "None".toList := fun _ => by
            rw [Printer.expr, Printer.constant]
          rw [orNone, if_pos rfl, Printer.expr, text, tree, TypeTree.text]
          simp only [core _, none _, bind, Except.bind]
          rfl

theorem exprs_expr : (types : List SharedType) →
    Printer.exprs false .test (exprs types) = .ok (TypeTree.texts (trees types))
  | [] => by
      rw [exprs, Printer.exprs]
      rfl
  | first :: rest => by
      have here := render_expr first
      rw [Expr.render] at here
      rw [exprs, Printer.exprs, here, exprs_expr rest]
      rfl

end

/-! ## Describing -/

theorem describe_expr_name (name : PlainName) :
    describe name.expr =
      .ok (some
        { text := String.ofList name.written.text, rawName := name.last.id,
          coreText := String.ofList name.written.text }) := by
  have written : TypeRef.written name.expr = .ok (String.ofList name.written.text) := by
    rw [TypeRef.written, Expr.render, writes_expr]
  revert written
  unfold PlainName.expr
  split
  · intro written
    rw [describe_name, written]
    rfl
  · intro written
    rw [describe_access, written]
    rfl

/-- What a name with arguments describes. -/
theorem describe_applied (name : PlainName) {arguments : List Expr} {texts : List (List Char)}
    {types : List TypeRef} (single : ∀ argument ∈ arguments, argument.isTuple = false)
    (inner : Printer.exprs false .test arguments = .ok texts)
    (described : describeAll arguments = .ok (types.map some)) :
    describe (applied name.expr arguments) =
      .ok (some
        { text := String.ofList (name.written.text ++ Brackets.square.enclose texts)
          rawName := name.last.id
          arguments := types
          coreText := String.ofList (name.written.text ++ Brackets.square.enclose texts) }) := by
  have written : TypeRef.written (applied name.expr arguments) =
      .ok (String.ofList (name.written.text ++ Brackets.square.enclose texts)) := by
    rw [TypeRef.written, Expr.render, (writes_expr name).applied single inner]
  cases arguments with
  | nil =>
      rw [describeAll_nil] at described
      have empty : types = [] := by
        cases types with
        | nil => rfl
        | cons => cases described
      rw [Printer.exprs] at inner
      cases inner
      rw [applied, describe_expr_name, empty, Brackets.enclose, List.append_nil]
  | cons first rest =>
      obtain ⟨index, shape, elements⟩ := exists_index name.expr (single first List.mem_cons_self)
      rw [shape] at written ⊢
      rw [describe_generic name.dottedName?_expr name.plain, written, elements, described]
      simp [bind, Except.bind, List.filterMap_map]

theorem isSingleTarget_applied (name : PlainName) (arguments : List Expr) :
    (applied name.expr arguments).isSingleTarget = true := by
  match arguments with
  | [] =>
      rw [applied, PlainName.expr]
      split <;> rfl
  | [_] => rfl
  | _ :: _ :: _ => rfl

theorem describe_orNone {e : Expr} {text : String} {type : TypeRef}
    (target : e.isSingleTarget = true)
    (written : TypeRef.written (orNone true e) = .ok text)
    (described : describe e = .ok (some type)) :
    describe (orNone true e) = .ok (some (type.asNullable text true)) := by
  have chain : (orNone true e).alternatives = [e, .constant .none] := by
    rw [orNone, if_pos rfl, Expr.alternatives]
    cases e <;> first | rfl | cases target
  have present : e.isNone = false := by
    cases e <;> first | rfl | cases target
  have absent : (Expr.constant .none).isNone = true := rfl
  have others : [e, .constant .none].filter (!·.isNone) = [e] := by simp [present, absent]
  rw [orNone, if_pos rfl] at written chain ⊢
  rw [describe_bar, written, chain, others, describeAll_singleton, described]
  simp [absent, bind, Except.bind, ofAlternatives]

theorem described_named (name : PlainName) (arguments : List SharedType) (nullable : Bool) :
    (tree (named name arguments nullable)).described =
      { text := String.ofList (text (named name arguments nullable))
        rawName := name.last.id
        arguments := TypeTree.describedAll (trees arguments)
        nullable := nullable
        coreText := String.ofList (coreText name arguments) } := by
  rw [tree, TypeTree.described]
  cases nullable <;> rfl

mutual

theorem describe_expr : (shared : SharedType) →
    describe shared.expr = .ok (some shared.tree.described)
  | absent => by
      rw [expr, describe_none]
      rfl
  | named name arguments nullable => by
      have core := describe_applied name isTuple_of_mem_exprs (exprs_expr arguments)
        (describeAll_exprs arguments)
      cases nullable with
      | false =>
          rw [expr, orNone, if_neg Bool.false_ne_true, core, described_named, text_named_false,
            coreText]
      | true =>
          have whole : TypeRef.written (orNone true (applied name.expr (exprs arguments))) =
              .ok (String.ofList (text (named name arguments true))) := by
            rw [TypeRef.written, ← expr, render_expr]
          rw [expr, describe_orNone (isSingleTarget_applied name _) whole core, described_named]
          rfl

theorem describeAll_exprs : (types : List SharedType) →
    describeAll (exprs types) = .ok ((TypeTree.describedAll (trees types)).map some)
  | [] => by
      rw [exprs, describeAll_nil]
      rfl
  | first :: rest => by
      rw [exprs, describeAll_cons, describe_expr first, describeAll_exprs rest]
      rfl

end

theorem expr_ne_text (shared : SharedType) (text : LooseText) (marked : Bool) :
    shared.expr ≠ .constant (.text text marked) := by
  cases shared with
  | absent =>
      rw [expr]
      intro same
      cases same
  | named name arguments nullable =>
      have target := isSingleTarget_applied name (exprs arguments)
      rw [expr]
      intro same
      cases nullable with
      | true => cases same
      | false =>
          rw [orNone, if_neg Bool.false_ne_true] at same
          rw [same] at target
          cases target

theorem exists_annotated (file : Outline.File) {e : Expr} (range : Range) {type : TypeRef}
    (bare : ∀ text marked, e ≠ .constant (.text text marked)) (h : describe e = .ok (some type)) :
    ∃ text, file.annotated ⟨e, range⟩ =
      .ok (some { type with text := text, span := some (Span.ofRange file.path range) }) := by
  unfold Outline.File.annotated
  dsimp only
  split
  · exact absurd rfl (bare _ _)
  · rw [h]
    exact ⟨_, rfl⟩

end SharedType

theorem coreText_described_ne_empty (tree : TypeTree) : tree.described.coreText ≠ "" := by
  cases tree with
  | node markers name brackets arguments sign =>
      intro empty
      rw [TypeTree.described, ← String.ofList_nil] at empty
      exact core_ne_nil name brackets _ (String.ofList_injective empty)

/-- An annotation and the plain text of the same type come to types that agree in everything but
their texts and places, so that they belong to the same families. -/
theorem annotated_agrees (shared : SharedType) (file : Outline.File) (range : Range)
    (span : Option Span) :
    shared.expr.render = .ok shared.text ∧
    ∃ annotated spelled,
      file.annotated ⟨shared.expr, range⟩ = .ok (some annotated) ∧
      ofText? (String.ofList shared.text) span = some spelled ∧
      annotated.rawName = spelled.rawName ∧ annotated.nullable = spelled.nullable ∧
      annotated.markers = spelled.markers ∧ annotated.coreText = spelled.coreText ∧
      annotated.argumentText = spelled.argumentText ∧
      annotated.arguments = spelled.arguments ∧
      ∀ (registry : Registry) (family : Option Family),
        registry.classifies family (some annotated) =
          registry.classifies family (some spelled) := by
  obtain ⟨text, annotated⟩ :=
    SharedType.exists_annotated file range shared.expr_ne_text shared.describe_expr
  have spelled : ofText? (String.ofList shared.text) span =
      some { shared.tree.described with span := span } := by
    rw [ofText?, String.toList_ofList, SharedType.text, parse_text, Option.map_some]
  refine ⟨shared.render_expr, _, _, annotated, spelled, rfl, rfl, rfl, rfl, ?_, rfl, ?_⟩
  · exact argumentText_congr rfl (coreText_described_ne_empty shared.tree)
  · intro registry family
    cases family <;> rfl

end TypeRef

end SignatureLint

import SignatureLint.Outline
import SignatureLint.Proofs.TypeRef.Describable
import SignatureLint.Proofs.TypeRef.Layers

/-!
# Spellings of alternatives

The same alternatives can be joined by `|` in any grouping, or be listed in the brackets of `Union`.
All spellings say the same: whether an expression can be written does not depend on what is around
it, so a spelling can be written if its alternatives can, and they are described one by one in any
case.
-/

namespace SignatureLint

namespace Expr

/-! ## Writing in any surroundings -/

/-- Whether an expression can be written, and why not. -/
def attempt (e : Expr) : Except RenderError Unit :=
  (fun _ => ()) <$> e.render

theorem attempt_eq (outer : Printer.Strength) (e : Expr) :
    e.attempt = (fun _ => ()) <$> Printer.expr false outer e := by
  rw [attempt, render]
  cases e with
  | yield value =>
      cases value with
      | none => rfl
      | some value => simp only [Printer.expr, map_bind, map_pure]
  | _ => simp only [Printer.expr, map_bind, map_pure]

theorem attempt_eq_ok_iff {e : Expr} : e.attempt = .ok () ↔ e.Renders := by
  rw [attempt, Renders]
  cases e.render <;> simp [Functor.map, Except.map]

theorem attempt_exprs (outer : Printer.Strength) (expressions : List Expr) :
    (fun _ => ()) <$> Printer.exprs false outer expressions = forM expressions attempt := by
  induction expressions with
  | nil => rfl
  | cons first rest ih =>
      rw [List.forM_cons, attempt_eq outer, ← ih]
      simp only [Printer.exprs, map_eq_pure_bind, bind_assoc, pure_bind]

theorem attempt_binary (op : BinaryOp) (left right : Expr) :
    (Expr.binary op left right).attempt = left.attempt >>= fun _ => right.attempt := by
  rw [attempt_eq .test, attempt_eq (Printer.operandStrengths op).1 left,
    attempt_eq (Printer.operandStrengths op).2 right]
  simp only [Printer.expr, map_eq_pure_bind, bind_assoc, pure_bind]

theorem attempt_subscript (name first : Expr) (rest : List Expr) :
    (Expr.subscript name (.tuple (first :: rest))).attempt =
      name.attempt >>= fun _ => forM (first :: rest) attempt := by
  rw [attempt_eq .test, attempt_eq .atom name, List.forM_cons, attempt_eq .test first,
    ← attempt_exprs .test rest]
  simp only [Printer.expr, map_eq_pure_bind, bind_assoc, pure_bind]

theorem forM_attempt_eq_ok_iff {expressions : List Expr} :
    forM expressions attempt = .ok () ↔ ∀ e ∈ expressions, e.Renders := by
  induction expressions with
  | nil => simp [pure, Except.pure]
  | cons first rest ih =>
      rw [List.forM_cons, List.forall_mem_cons, ← ih, ← attempt_eq_ok_iff]
      constructor
      · intro h
        obtain ⟨⟨⟩, here, there⟩ := Outcome.exists_of_bind_eq_ok h
        exact ⟨here, there⟩
      · rintro ⟨here, there⟩
        rw [here]
        exact there

end Expr

namespace TypeRef

open SignatureLint.Expr

/-! ## Groupings -/

inductive Joins : List Expr → Expr → Prop where
  | alone (e : Expr) : Joins [e] e
  | bar {front back : List Expr} {left right : Expr} (before : Joins front left)
      (after : Joins back right) : Joins (front ++ back) (.binary .bitOr left right)

section

variable {members : List Expr} {e e' : Expr}

theorem Joins.alternatives (joins : Joins members e)
    (single : ∀ m ∈ members, m.isChain = false) : e.alternatives = members := by
  induction joins with
  | alone e => exact alternatives_of_single (single e List.mem_cons_self)
  | bar before after ihBefore ihAfter =>
      rw [Expr.alternatives, ihBefore fun m here => single m (List.mem_append_left _ here),
        ihAfter fun m here => single m (List.mem_append_right _ here)]

theorem Joins.attempt (joins : Joins members e) : e.attempt = forM members Expr.attempt := by
  induction joins with
  | alone e => simp
  | bar before after ihBefore ihAfter =>
      rw [attempt_binary, ihBefore, ihAfter, List.forM_append]

/-! ## Spellings -/

/-- An expression that spells alternatives: a chain of `|`, or a list of arguments of `Union`. -/
inductive Spells (members : List Expr) : Expr → Prop where
  | joined {e : Expr} (joins : Joins members e) : Spells members e
  | listed {name : Expr} (named : name.dottedName? = some "Union") (renders : name.Renders) :
      Spells members (.subscript name (.tuple members))

theorem Spells.attempt (spells : Spells members e) (several : 2 ≤ members.length) :
    e.attempt = forM members Expr.attempt := by
  cases spells with
  | joined joins => exact joins.attempt
  | listed named renders =>
      match members, several with
      | first :: rest, _ =>
          rw [attempt_subscript, attempt_eq_ok_iff.mpr renders]
          rfl

theorem Spells.describe_eq (spells : Spells members e) (several : 2 ≤ members.length)
    (single : ∀ m ∈ members, m.isChain = false) :
    describe e = written e >>= fun text =>
      describeAll (members.filter (!·.isNone)) >>= fun described =>
        .ok (ofAlternatives text (members.any Expr.isNone) described) := by
  cases spells with
  | joined joins =>
      have operands := joins.alternatives single
      cases joins with
      | alone e => exact absurd several (by simp)
      | bar before after => rw [describe_bar, operands]
  | listed named renders => exact describe_union named

/-! ## What a spelling says -/

/-- What a type says apart from the texts that say it: its name, its arguments, whether it admits
an absent value, and its markers. -/
def content (type : TypeRef) : String × List TypeRef × Bool × NameSet :=
  (type.rawName, type.arguments, type.nullable, type.markers)

theorem content_ofAlternatives (text text' : String) (nullable : Bool)
    (described : List (Option TypeRef)) :
    (ofAlternatives text nullable described).map content =
      (ofAlternatives text' nullable described).map content := by
  rcases described with _ | ⟨first, _ | ⟨second, rest⟩⟩
  · rfl
  · cases first <;> rfl
  · rfl

/-- What alternatives say, or why they cannot be described, without regard to their spelling. -/
def ofMembers (members : List Expr) : Except AnnotationError (Option TypeRef) := do
  (forM members Expr.attempt).mapError .render
  let described ← describeAll (members.filter (!·.isNone))
  return ofAlternatives "" (members.any Expr.isNone) described

theorem Spells.content_eq (spells : Spells members e) (several : 2 ≤ members.length)
    (single : ∀ m ∈ members, m.isChain = false) :
    Option.map content <$> describe e = Option.map content <$> ofMembers members := by
  rw [spells.describe_eq several single, ofMembers, ← spells.attempt several, written,
    Expr.attempt]
  cases e.render with
  | error fault => rfl
  | ok text =>
      cases describeAll (members.filter (!·.isNone)) with
      | error fault => rfl
      | ok described =>
          exact congrArg Except.ok (content_ofAlternatives _ _ _ described)

/-- Alternatives can be described if all of them can be written and those other than the absent
value can be described. -/
theorem Spells.exists_describe_iff (spells : Spells members e) (several : 2 ≤ members.length)
    (single : ∀ m ∈ members, m.isChain = false) :
    (∃ type, describe e = .ok type) ↔
      (∀ m ∈ members, m.Renders) ∧
        ∀ m ∈ members, m.isNone = false → ∃ type, describe m = .ok type := by
  have rendered : (∃ text, written e = .ok text) ↔ ∀ m ∈ members, m.Renders := by
    rw [← renders_iff, ← attempt_eq_ok_iff, spells.attempt several, forM_attempt_eq_ok_iff]
  rw [spells.describe_eq several single, Outcome.exists_both_ok_iff, rendered,
    exists_describeAll_iff]
  simp

theorem forall₂_of_describeAll {expressions : List Expr} {described : List (Option TypeRef)}
    (h : describeAll expressions = .ok described) :
    List.Forall₂ (fun e type => describe e = .ok type) expressions described := by
  induction expressions generalizing described with
  | nil =>
      rw [describeAll_nil] at h
      cases h
      exact .nil
  | cons first rest ih =>
      rw [describeAll_cons] at h
      obtain ⟨type, here, h⟩ := Outcome.exists_of_bind_eq_ok h
      obtain ⟨others, there, h⟩ := Outcome.exists_of_bind_eq_ok h
      cases h
      exact .cons here (ih there)

theorem Spells.exists_union (spells : Spells members e)
    (single : ∀ m ∈ members, m.isChain = false)
    (several : 2 ≤ (members.filter (!·.isNone)).length) {outcome : Option TypeRef}
    (h : describe e = .ok outcome) :
    ∃ type described, outcome = some type ∧ type.rawName = "Union" ∧
      List.Forall₂ (fun m found => describe m = .ok found) (members.filter (!·.isNone))
        described ∧
      type.arguments = described.filterMap id := by
  have more : 2 ≤ members.length := Nat.le_trans several (List.length_filter_le _ _)
  rw [spells.describe_eq more single] at h
  obtain ⟨text, -, h⟩ := Outcome.exists_of_bind_eq_ok h
  obtain ⟨described, listed, h⟩ := Outcome.exists_of_bind_eq_ok h
  cases h
  rw [← length_describeAll listed] at several
  have each := forall₂_of_describeAll listed
  match described, several with
  | first :: second :: rest, _ => exact ⟨_, _, rfl, rfl, each, rfl⟩

theorem content_annotated (file : Outline.File) (range : Range)
    (noText : ∀ text marked, e ≠ .constant (.text text marked)) :
    Option.map content <$> file.annotated ⟨e, range⟩ = Option.map content <$> describe e := by
  have plain : file.annotated ⟨e, range⟩ =
      describe e >>= fun described => .ok (described.map fun type =>
        { type with
          text := if (file.source.segment range).isEmpty then type.text
            else String.ofList (file.source.segment range)
          span := some (Span.ofRange file.path range) }) := by
    rw [Outline.File.annotated]
    split
    · exact absurd ‹_› (noText _ _)
    · rfl
  rw [plain]
  cases describe e with
  | error fault => rfl
  | ok described => cases described <;> rfl

theorem Spells.ne_text (spells : Spells members e) (several : 2 ≤ members.length)
    (text : LooseText) (marked : Bool) : e ≠ .constant (.text text marked) := by
  rintro rfl
  cases spells with
  | joined joins =>
      cases joins
      exact absurd several (by simp)

/-- Any two spellings of the same alternatives say the same, or fail for the same reason.  They
describe something as soon as every alternative can be written and every one but the absent value
can be described, and only then; several of the latter are the arguments of a union. -/
theorem describe_of_spelled {members : List Expr} {e e' : Expr} (several : 2 ≤ members.length)
    (single : ∀ m ∈ members, m.isChain = false) (spells : Spells members e)
    (spells' : Spells members e') :
    Option.map content <$> describe e = Option.map content <$> describe e' ∧
    (∀ (file : Outline.File) (range range' : Range),
      Option.map content <$> file.annotated ⟨e, range⟩ =
        Option.map content <$> file.annotated ⟨e', range'⟩) ∧
    ((∃ outcome, describe e = .ok outcome) ↔
      (∀ m ∈ members, m.Renders) ∧
        ∀ m ∈ members, m.isNone = false → ∃ outcome, describe m = .ok outcome) ∧
    ∀ outcome, describe e = .ok outcome → 2 ≤ (members.filter (!·.isNone)).length →
      ∃ type described, outcome = some type ∧ type.rawName = "Union" ∧
        List.Forall₂ (fun m found => describe m = .ok found) (members.filter (!·.isNone))
          described ∧
        type.arguments = described.filterMap id := by
  have same := (spells.content_eq several single).trans (spells'.content_eq several single).symm
  refine ⟨same, fun file range range' => ?_, spells.exists_describe_iff several single,
    fun outcome h many => spells.exists_union single many h⟩
  rw [content_annotated file range (spells.ne_text several),
    content_annotated file range' (spells'.ne_text several), same]

/-- Two types and the absent value between them. -/
def alternativesSample : List Expr :=
  [.name "int", .constant .none, .subscript (.name "list") (.name "str")]

/-- The alternatives of the sample in a chain that groups to the right, and listed. -/
theorem describe_of_spelled_alternativesSample :
    2 ≤ alternativesSample.length ∧ (∀ m ∈ alternativesSample, m.isChain = false) ∧
    ∃ chain listed, Spells alternativesSample chain ∧ Spells alternativesSample listed ∧
      ∃ type, describe chain = .ok (some type) ∧ type.rawName = "Union" ∧
        type.arguments.map rawName = ["int", "list"] ∧
        Option.map content <$> describe listed = .ok (some type.content) := by
  have single : ∀ m ∈ alternativesSample, m.isChain = false := by
    simp [alternativesSample, isChain]
  have chain : Spells alternativesSample
      (.binary .bitOr (.name "int")
        (.binary .bitOr (.constant .none) (.subscript (.name "list") (.name "str")))) :=
    .joined (.bar (.alone _) (.bar (.alone _) (.alone _)))
  have listed : Spells alternativesSample
      (.subscript (.access (.name "typing") "Union") (.tuple alternativesSample)) :=
    .listed rfl ⟨_, rfl⟩
  have int : describe (.name "int") =
      .ok (some { text := "int", rawName := "int", coreText := "int" }) := by
    rw [describe_name]
    rfl
  have list : describe (.subscript (.name "list") (.name "str")) =
      .ok (some
        { text := "list[str]", rawName := "list",
          arguments := [{ text := "str", rawName := "str", coreText := "str" }],
          coreText := "list[str]" }) := by
    have only : (Expr.name "str").indexElements = [.name "str"] := rfl
    rw [describe_generic rfl rfl, only, describeAll_singleton, describe_name]
    rfl
  -- the listed spelling is not described by hand: it comes to what the chain comes to
  obtain ⟨same, -, returns, union⟩ := describe_of_spelled (by decide) single chain listed
  obtain ⟨outcome, described⟩ := returns.mpr ⟨by
    simp only [alternativesSample, List.forall_mem_cons]
    exact ⟨⟨_, rfl⟩, ⟨_, rfl⟩, ⟨_, rfl⟩, nofun⟩, by
    simp only [alternativesSample, List.forall_mem_cons]
    exact ⟨fun _ => ⟨_, int⟩, nofun, fun _ => ⟨_, list⟩, nofun⟩⟩
  obtain ⟨type, found, rfl, name, each, arguments⟩ := union outcome described (by decide)
  refine ⟨by decide, single, _, _, chain, listed, type, described, name, ?_, ?_⟩
  · cases each with
    | cons here each =>
        cases each with
        | cons there each =>
            cases each
            cases int.symm.trans here
            cases list.symm.trans there
            rw [arguments]
            rfl
  · rw [← same, described]
    rfl

/-- An alternative that cannot be written makes an error of every spelling, although all
alternatives can be described. -/
theorem describe_spelled_unwrittenSample :
    Spells [.name "int", unwrittenSample] (.binary .bitOr (.name "int") unwrittenSample) ∧
    (∀ m ∈ [.name "int", unwrittenSample], m.isChain = false ∧ m.isNone = false) ∧
    describe (.name "int") = .ok (some { text := "int", rawName := "int", coreText := "int" }) ∧
    describe unwrittenSample = .ok none ∧
    describe (.binary .bitOr (.name "int") unwrittenSample) = .error (.render .backslash) := by
  refine ⟨.joined (.bar (.alone _) (.alone _)), ?_, ?_, ?_, ?_⟩
  · simp [unwrittenSample, isChain, isNone]
  · rw [describe_name]
    rfl
  · exact describe_of_other nofun
  · rw [describe_bar]
    rfl

end

end TypeRef

end SignatureLint

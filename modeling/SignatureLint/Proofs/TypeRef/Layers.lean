import SignatureLint.Proofs.Outcome
import SignatureLint.Proofs.TypeRef.Describe
import SignatureLint.Registry

/-!
# Annotations in layers

An annotation can be enclosed any number of times: in `Optional`, in alternatives to the absent
value, in `Annotated`, or as a text between quotes.  What it describes stays the same but for
nullability and markers, as long as every layer can be written.
-/

namespace SignatureLint

namespace Expr

/-! ## Chains of alternatives -/

def isChain : Expr → Bool
  | .binary .bitOr _ _ => true
  | _ => false

/-- The operands of a chain of `|` other than the absent value. -/
def present (e : Expr) : List Expr :=
  e.alternatives.filter (!·.isNone)

/-- A chain of `|` that does not come to a single operand. -/
def Plural (e : Expr) : Prop :=
  e.isChain = true ∧ e.present.length ≠ 1

variable {e : Expr}

theorem alternatives_of_single (single : e.isChain = false) : e.alternatives = [e] := by
  rw [alternatives]
  rintro left right rfl
  cases single

theorem present_of_single (single : e.isChain = false) (given : e.isNone = false) :
    e.present = [e] := by
  rw [present, alternatives_of_single single]
  simp [given]

theorem present_orNone (e : Expr) :
    (Expr.binary .bitOr e (.constant .none)).present = e.present := by
  have absent : (Expr.constant .none).alternatives = [.constant .none] :=
    alternatives_of_single rfl
  rw [present, alternatives, absent, List.filter_append]
  exact List.append_nil _

theorem present_noneOr (e : Expr) :
    (Expr.binary .bitOr (.constant .none) e).present = e.present := by
  have absent : (Expr.constant .none).alternatives = [.constant .none] :=
    alternatives_of_single rfl
  rw [present, alternatives, absent, List.filter_append]
  exact List.nil_append _

/-! ## Writing -/

/-- An expression that can be written. -/
def Renders (e : Expr) : Prop :=
  ∃ text, e.render = .ok text

theorem renders_iff : e.Renders ↔ ∃ text, TypeRef.written e = .ok text := by
  unfold Renders TypeRef.written
  cases e.render with
  | ok text => exact ⟨fun _ => ⟨_, rfl⟩, fun _ => ⟨_, rfl⟩⟩
  | error fault => exact ⟨nofun, nofun⟩

theorem exists_binary_iff (op : BinaryOp) (left right : Expr) (outer : Printer.Strength) :
    (∃ text, Printer.expr false outer (.binary op left right) = .ok text) ↔
      (∃ text, Printer.expr false (Printer.operandStrengths op).1 left = .ok text) ∧
      ∃ text, Printer.expr false (Printer.operandStrengths op).2 right = .ok text := by
  rw [Printer.expr]
  generalize Printer.operandStrengths op = strengths
  constructor
  · rintro ⟨text, written⟩
    obtain ⟨first, here, written⟩ := Outcome.exists_of_bind_eq_ok written
    obtain ⟨second, there, -⟩ := Outcome.exists_of_bind_eq_ok written
    exact ⟨⟨first, here⟩, second, there⟩
  · rintro ⟨⟨first, here⟩, second, there⟩
    simp only [here, there, bind, Except.bind]
    exact ⟨_, rfl⟩

theorem exists_none (outer : Printer.Strength) :
    ∃ text, Printer.expr false outer (.constant .none) = .ok text := by
  rw [Printer.expr]
  exact ⟨_, rfl⟩

theorem renders_orNone (chain : e.isChain = true) :
    (Expr.binary .bitOr e (.constant .none)).Renders ↔ e.Renders := by
  unfold Renders render
  rw [exists_binary_iff]
  cases e with
  | binary op left right =>
      rw [exists_binary_iff, exists_binary_iff]
      exact and_iff_left (exists_none _)
  | _ => cases chain

theorem renders_noneOr (chain : e.isChain = true) :
    (Expr.binary .bitOr (.constant .none) e).Renders ↔ e.Renders := by
  unfold Renders render
  rw [exists_binary_iff]
  cases e with
  | binary op left right =>
      rw [exists_binary_iff, exists_binary_iff]
      exact and_iff_right (exists_none _)
  | _ => cases chain

end Expr

namespace TypeRef

/-! ## Layers -/

/-- A name, or the part of another value with that name. -/
def called (owner : Option Expr) (word : String) : Expr :=
  match owner with
  | none => .name word
  | some value => .access value word

@[simp] theorem dottedName?_called (owner : Option Expr) (word : String) :
    (called owner word).dottedName? = some word := by
  cases owner <;> rfl

/-- What encloses an annotation. -/
inductive Layer where
  | optional (owner : Option Expr)
  | orNone
  | noneOr
  | unionNone (owner : Option Expr)
  | noneUnion (owner : Option Expr)
  | annotated (owner : Option Expr) (metadata : List Expr)
  | quoted (text : LooseText) (marked : Bool)

namespace Layer

/-- Whether a layer admits an absent value. -/
def admitsNone : Layer → Bool
  | annotated _ _ | quoted _ _ => false
  | _ => true

/-- What a layer says besides the type. -/
def metadata : Layer → List Expr
  | annotated _ metadata => metadata
  | _ => []

inductive Encloses : Layer → Expr → Expr → Prop where
  | optional (owner : Option Expr) (inner : Expr) :
      Encloses (.optional owner) inner (applied (called owner "Optional") [inner])
  | orNone (inner : Expr) :
      Encloses .orNone inner (.binary .bitOr inner (.constant .none))
  | noneOr (inner : Expr) :
      Encloses .noneOr inner (.binary .bitOr (.constant .none) inner)
  | unionNone (owner : Option Expr) (inner : Expr) :
      Encloses (.unionNone owner) inner
        (applied (called owner "Union") [inner, .constant .none])
  | noneUnion (owner : Option Expr) (inner : Expr) :
      Encloses (.noneUnion owner) inner
        (applied (called owner "Union") [.constant .none, inner])
  | annotated (owner : Option Expr) (metadata : List Expr) (inner : Expr) :
      Encloses (.annotated owner metadata) inner
        (applied (called owner "Annotated") (inner :: metadata))
  | quoted {text : LooseText} {marked : Bool} {characters : List Char} {found : Located Expr}
      (clean : referenceText text = .ok characters) (read : reference? characters = some found) :
      Encloses (.quoted text marked) found.value (.constant (.text text marked))

variable {layer : Layer} {inner outer : Expr}

theorem Encloses.given (encloses : layer.Encloses inner outer) :
    outer.isNone = false ∧ outer.isTuple = false := by
  cases encloses with
  | annotated owner metadata inner => cases metadata <;> exact ⟨rfl, rfl⟩
  | _ => exact ⟨rfl, rfl⟩

theorem Encloses.plural (encloses : layer.Encloses inner outer) (given : inner.isNone = false)
    (plural : outer.Plural) : inner.Plural := by
  obtain ⟨chain, several⟩ := plural
  have same : outer.present = inner.present := by
    cases encloses with
    | orNone => exact Expr.present_orNone inner
    | noneOr => exact Expr.present_noneOr inner
    | annotated owner metadata inner => cases metadata <;> cases chain
    | _ => cases chain
  rw [same] at several
  refine ⟨?_, several⟩
  rw [← Bool.not_eq_false]
  intro single
  rw [Expr.present_of_single single given] at several
  exact several rfl

end Layer

/-- An expression in several layers, the outermost first, with the expressions that it comes
through. -/
inductive Stacked (x : Expr) : List Layer → List Expr → Expr → Prop where
  | bare : Stacked x [] [] x
  | within {layers : List Layer} {steps : List Expr} {layer : Layer} {inner outer : Expr}
      (stacked : Stacked x layers steps inner) (encloses : layer.Encloses inner outer) :
      Stacked x (layer :: layers) (outer :: steps) outer

/-! ## What the layers leave as it is -/

/-- The type of an expression in several layers, compared to the type of the expression. -/
structure Keeps (x : Expr) (layers : List Layer) (inner outer : TypeRef) : Prop where
  rawName : outer.rawName = inner.rawName
  arguments : outer.arguments = inner.arguments
  nullable : outer.nullable = true ↔
    inner.nullable = true ∨ ∃ layer ∈ layers, layer.admitsNone = true
  markers (marker : String) : marker ∈ outer.markers ↔ marker ∈ inner.markers ∨
    marker ≠ "" ∧ ∃ layer ∈ layers, ∃ e ∈ layer.metadata, e.dottedName? = some marker
  coreText : ¬x.Plural → outer.coreText = inner.coreText
  argumentText : ¬x.Plural → inner.coreText ≠ "" → outer.argumentText = inner.argumentText

variable {x inner outer : Expr} {layers : List Layer} {layer : Layer}

theorem Keeps.bare (x : Expr) (type : TypeRef) : Keeps x [] type type where
  rawName := rfl
  arguments := rfl
  nullable := by simp
  markers := by simp
  coreText _ := rfl
  argumentText _ _ := rfl

theorem Keeps.within {type middle whole : TypeRef} (keeps : Keeps x layers type middle)
    (once : Keeps inner [layer] middle whole) (plural : inner.Plural → x.Plural) :
    Keeps x (layer :: layers) type whole where
  rawName := once.rawName.trans keeps.rawName
  arguments := once.arguments.trans keeps.arguments
  nullable := by
    rw [once.nullable, keeps.nullable]
    simp [or_comm, or_left_comm]
  markers marker := by
    rw [once.markers, keeps.markers]
    simp [and_or_left, or_comm, or_left_comm]
  coreText several := (once.coreText (several ∘ plural)).trans (keeps.coreText several)
  argumentText several filled := by
    have filled' : middle.coreText ≠ "" := by rwa [keeps.coreText several]
    exact (once.argumentText (several ∘ plural) filled').trans
      (keeps.argumentText several filled)

theorem keeps_asNullable (admits : layer.admitsNone = true) (silent : layer.metadata = [])
    (x : Expr) (text : String) (type : TypeRef) :
    Keeps x [layer] type (type.asNullable text true) where
  rawName := rfl
  arguments := rfl
  nullable := by simp [asNullable, admits]
  markers := by simp [asNullable, silent]
  coreText _ := rfl
  argumentText _ filled := argumentText_congr rfl filled

theorem keeps_annotated (owner : Option Expr) (metadata : List Expr) (x : Expr) (text : String)
    (type : TypeRef) :
    Keeps x [.annotated owner metadata] type
      { type with text := text, markers := type.markers ∪ annotatedMarkers metadata } where
  rawName := rfl
  arguments := rfl
  nullable := by simp [Layer.admitsNone]
  markers := by simp [Layer.metadata, annotatedMarkers, and_comm]
  coreText _ := rfl
  argumentText _ filled := argumentText_congr rfl filled

theorem keeps_quoted (text : LooseText) (marked : Bool) (x : Expr) (type : TypeRef) :
    Keeps x [.quoted text marked] type type where
  rawName := rfl
  arguments := rfl
  nullable := by simp [Layer.admitsNone]
  markers := by simp [Layer.metadata]
  coreText _ := rfl
  argumentText _ _ := rfl

/-- Alternatives with the absent value, compared to the same ones with or without it. -/
theorem rel_ofAlternatives (admits : layer.admitsNone = true) (silent : layer.metadata = [])
    (text text' : String) (nullable : Bool) {described : List (Option TypeRef)}
    (several : described.length ≠ 1 → x.Plural) :
    Option.Rel (Keeps x [layer]) (ofAlternatives text nullable described)
      (ofAlternatives text' true described) := by
  -- one alternative is kept and made nullable; several make a union, of whose core nothing is said
  by_cases alone : described.length = 1
  · obtain ⟨found, rfl⟩ := List.length_eq_one_iff.mp alone
    cases found with
    | none => exact .none
    | some type =>
        refine .some ?_
        exact
          { rawName := rfl
            arguments := rfl
            nullable := by simp [asNullable, admits]
            markers := by simp [asNullable, silent]
            coreText := fun _ => rfl
            argumentText := fun _ filled => argumentText_congr rfl filled }
  · have plural := several alone
    have shape (text : String) (nullable : Bool) : ofAlternatives text nullable described =
        some
          { text := text, rawName := "Union", arguments := described.filterMap id,
            nullable := nullable, coreText := text } := by
      rw [ofAlternatives]
      rintro only rfl
      exact alone rfl
    rw [shape, shape]
    refine .some ?_
    exact
      { rawName := rfl
        arguments := rfl
        nullable := by simp [admits]
        markers := by simp [silent]
        coreText := fun single => absurd plural single
        argumentText := fun single => absurd plural single }

/-! ## One layer -/

/-- What an expression describes, compared to what it describes in several layers that it comes
through with several steps. -/
structure LooksThrough (x : Expr) (layers : List Layer) (steps : List Expr) (y : Expr) : Prop where
  back {outer : Option TypeRef} : describe y = .ok outer →
    ∃ inner, describe x = .ok inner ∧ Option.Rel (Keeps x layers) inner outer
  forth {inner : Option TypeRef} : (∀ step ∈ steps, step.Renders) → describe x = .ok inner →
    ∃ outer, describe y = .ok outer
  rendered {type : TypeRef} : describe y = .ok (some type) → ∀ step ∈ steps, step.Renders

theorem looksThrough_of_one
    (back : ∀ whole, describe outer = .ok whole →
      ∃ found, describe inner = .ok found ∧ Option.Rel (Keeps inner [layer]) found whole)
    (forth : ∀ text found, written outer = .ok text → describe inner = .ok found →
      ∃ whole, describe outer = .ok whole)
    (rendered : ∀ type, describe outer = .ok (some type) → ∃ text, written outer = .ok text) :
    LooksThrough inner [layer] [outer] outer where
  back h := back _ h
  forth renders here := by
    obtain ⟨text, whole⟩ := Expr.renders_iff.mp (renders outer List.mem_cons_self)
    exact forth text _ whole here
  rendered h step member := by
    rw [List.mem_singleton.mp member]
    exact Expr.renders_iff.mpr (rendered _ h)

/-- A layer that is looked through first and written then. -/
theorem looksThrough_of_first {adjust : String → TypeRef → TypeRef}
    (described : describe outer = describe inner >>= fun
      | none => .ok none
      | some type => written outer >>= fun text => .ok (some (adjust text type)))
    (keeps : ∀ text type, Keeps inner [layer] type (adjust text type)) :
    LooksThrough inner [layer] [outer] outer := by
  refine looksThrough_of_one (fun whole h => ?_) (fun text found rendered here => ?_)
    fun type h => ?_
  · rw [described] at h
    obtain ⟨found, here, h⟩ := Outcome.exists_of_bind_eq_ok h
    refine ⟨found, here, ?_⟩
    cases found with
    | none =>
        cases h
        exact .none
    | some type =>
        obtain ⟨text, -, h⟩ := Outcome.exists_of_bind_eq_ok h
        cases h
        exact .some (keeps text type)
  · rw [described, here]
    cases found with
    | none => exact ⟨none, rfl⟩
    | some type =>
        simp only [bind, Except.bind, rendered]
        exact ⟨_, rfl⟩
  · rw [described] at h
    obtain ⟨found, -, h⟩ := Outcome.exists_of_bind_eq_ok h
    cases found with
    | none => cases h
    | some type =>
        obtain ⟨text, rendered, -⟩ := Outcome.exists_of_bind_eq_ok h
        exact ⟨text, rendered⟩

theorem looksThrough_of_united (admits : layer.admitsNone = true) (silent : layer.metadata = [])
    (described : describe outer = written outer >>= fun text =>
      describeAll [inner] >>= fun alone => .ok (ofAlternatives text true alone)) :
    LooksThrough inner [layer] [outer] outer := by
  refine looksThrough_of_one (fun whole h => ?_) (fun text found rendered here => ?_)
    fun type h => ?_
  · rw [described, describeAll_singleton] at h
    obtain ⟨text, -, h⟩ := Outcome.exists_of_bind_eq_ok h
    obtain ⟨alone, listed, h⟩ := Outcome.exists_of_bind_eq_ok h
    obtain ⟨found, here, same⟩ := Outcome.exists_of_bind_eq_ok listed
    cases same
    cases h
    refine ⟨found, here, ?_⟩
    cases found with
    | none => exact .none
    | some type => exact .some (keeps_asNullable admits silent inner text type)
  · rw [described, describeAll_singleton, rendered, here]
    exact ⟨_, rfl⟩
  · rw [described] at h
    obtain ⟨text, rendered, -⟩ := Outcome.exists_of_bind_eq_ok h
    exact ⟨text, rendered⟩

theorem looksThrough_of_union (admits : layer.admitsNone = true) (silent : layer.metadata = [])
    (owner : Option Expr) {arguments : List Expr}
    (others : arguments.filter (!·.isNone) = [inner])
    (absent : arguments.any Expr.isNone = true) :
    LooksThrough inner [layer] [.subscript (called owner "Union") (.tuple arguments)]
      (.subscript (called owner "Union") (.tuple arguments)) := by
  refine looksThrough_of_united admits silent ?_
  rw [describe_union (dottedName?_called owner "Union"), Expr.indexElements, others, absent]

theorem length_describeAll {expressions : List Expr} {described : List (Option TypeRef)}
    (h : describeAll expressions = .ok described) : described.length = expressions.length := by
  induction expressions generalizing described with
  | nil =>
      rw [describeAll_nil] at h
      cases h
      rfl
  | cons first rest ih =>
      rw [describeAll_cons] at h
      obtain ⟨here, -, h⟩ := Outcome.exists_of_bind_eq_ok h
      obtain ⟨others, there, h⟩ := Outcome.exists_of_bind_eq_ok h
      cases h
      rw [List.length_cons, List.length_cons, ih there]

/-- A chain that goes on with the absent value. -/
theorem looksThrough_of_continued (admits : layer.admitsNone = true) (silent : layer.metadata = [])
    (chain : inner.isChain = true) (renders : outer.Renders ↔ inner.Renders)
    (described : describe outer = written outer >>= fun text =>
      describeAll inner.present >>= fun several => .ok (ofAlternatives text true several)) :
    LooksThrough inner [layer] [outer] outer := by
  have before : describe inner = written inner >>= fun text =>
      describeAll inner.present >>= fun several =>
        .ok (ofAlternatives text (inner.alternatives.any Expr.isNone) several) := by
    match inner, chain with
    | .binary .bitOr left right, _ => exact describe_bar left right
  refine looksThrough_of_one (fun whole h => ?_) (fun text found rendered here => ?_)
    fun type h => ?_
  · rw [described] at h
    obtain ⟨text, rendered, h⟩ := Outcome.exists_of_bind_eq_ok h
    obtain ⟨several, here, h⟩ := Outcome.exists_of_bind_eq_ok h
    cases h
    obtain ⟨part, shorter⟩ :=
      Expr.renders_iff.mp (renders.mp (Expr.renders_iff.mpr ⟨text, rendered⟩))
    rw [before, shorter, here]
    refine ⟨_, rfl, rel_ofAlternatives admits silent _ _ _ fun plural => ⟨chain, ?_⟩⟩
    rwa [← length_describeAll here]
  · rw [before] at here
    obtain ⟨part, -, here⟩ := Outcome.exists_of_bind_eq_ok here
    obtain ⟨several, listed, -⟩ := Outcome.exists_of_bind_eq_ok here
    rw [described, rendered, listed]
    exact ⟨_, rfl⟩
  · rw [described] at h
    obtain ⟨text, rendered, -⟩ := Outcome.exists_of_bind_eq_ok h
    exact ⟨text, rendered⟩

theorem looksThrough_of_bar {left right : Expr} (admits : layer.admitsNone = true)
    (silent : layer.metadata = []) (given : inner.isNone = false)
    (same : (Expr.binary .bitOr left right).present = inner.present)
    (absent : (Expr.binary .bitOr left right).alternatives.any Expr.isNone = true)
    (renders : inner.isChain = true →
      ((Expr.binary .bitOr left right).Renders ↔ inner.Renders)) :
    LooksThrough inner [layer] [.binary .bitOr left right] (.binary .bitOr left right) := by
  have described := describe_bar left right
  rw [absent, ← Expr.present, same] at described
  cases chain : inner.isChain with
  | true => exact looksThrough_of_continued admits silent chain (renders chain) described
  | false =>
      rw [Expr.present_of_single chain given] at described
      exact looksThrough_of_united admits silent described

/-- What an expression describes is looked for through one layer. -/
theorem Layer.Encloses.looksThrough (encloses : layer.Encloses inner outer)
    (given : inner.isNone = false) (single : inner.isTuple = false) :
    LooksThrough inner [layer] [outer] outer := by
  -- four kinds of layers leave one alternative besides None, two look at the first element only,
  -- and a quoted text describes what it refers to
  have absent : (Expr.constant .none).isNone = true := rfl
  cases encloses with
  | optional owner =>
      obtain ⟨index, shape, elements⟩ : ∃ index,
          applied (called owner "Optional") [inner] = .subscript (called owner "Optional") index ∧
            index.indexElements = [inner] :=
        exists_index _ single
      rw [shape]
      exact looksThrough_of_first (describe_optional (dottedName?_called _ _) elements)
        (keeps_asNullable rfl rfl inner)
  | annotated owner metadata =>
      obtain ⟨index, shape, elements⟩ : ∃ index,
          applied (called owner "Annotated") (inner :: metadata) =
              .subscript (called owner "Annotated") index ∧
            index.indexElements = inner :: metadata :=
        exists_index _ single
      rw [shape]
      exact looksThrough_of_first (describe_annotated (dottedName?_called _ _) elements)
        (keeps_annotated owner metadata inner)
  | unionNone owner =>
      have others : [inner, .constant .none].filter (!·.isNone) = [inner] := by
        simp [given, absent]
      exact looksThrough_of_union rfl rfl owner others (by simp [absent])
  | noneUnion owner =>
      have others : [.constant .none, inner].filter (!·.isNone) = [inner] := by
        simp [given, absent]
      exact looksThrough_of_union rfl rfl owner others (by simp [absent])
  | orNone =>
      refine looksThrough_of_bar rfl rfl given (Expr.present_orNone inner) ?_ Expr.renders_orNone
      simp [Expr.alternatives, absent]
  | noneOr =>
      refine looksThrough_of_bar rfl rfl given (Expr.present_noneOr inner) ?_ Expr.renders_noneOr
      simp [Expr.alternatives, absent]
  | quoted clean read =>
      rename_i text marked characters found
      have described : describe (.constant (.text text marked)) = describe found.value := by
        rw [describe_text, clean]
        simp only [bind, Except.bind, read]
      refine looksThrough_of_one (fun whole h => ?_) (fun _ _ _ h => ⟨_, described.trans h⟩)
        fun _ _ => ?_
      · rw [described] at h
        refine ⟨whole, h, ?_⟩
        cases whole with
        | none => exact .none
        | some type => exact .some (keeps_quoted text marked found.value type)
      · rw [written, Expr.render, Printer.expr]
        exact ⟨_, rfl⟩

/-! ## Any number of layers -/

/-- An expression in layers is neither absent nor a tuple, and has no more alternatives than
without them. -/
theorem Stacked.given {y : Expr} {steps : List Expr} (stacked : Stacked x layers steps y)
    (given : x.isNone = false) (single : x.isTuple = false) :
    y.isNone = false ∧ y.isTuple = false ∧ (y.Plural → x.Plural) := by
  induction stacked with
  | bare => exact ⟨given, single, id⟩
  | within stacked encloses ih =>
      exact ⟨encloses.given.1, encloses.given.2, ih.2.2 ∘ encloses.plural ih.1⟩

/-- What an expression describes is looked for through all layers. -/
theorem Stacked.looksThrough {y : Expr} {steps : List Expr} (stacked : Stacked x layers steps y)
    (given : x.isNone = false) (single : x.isTuple = false) : LooksThrough x layers steps y := by
  induction stacked with
  | bare =>
      refine ⟨fun h => ⟨_, h, ?_⟩, fun _ h => ⟨_, h⟩, fun _ step member => ?_⟩
      · rename_i type
        cases type with
        | none => exact .none
        | some type => exact .some (Keeps.bare x type)
      · cases member
  | within stacked encloses ih =>
      -- a layer is looked through once, and what stands in it is looked through by induction
      have before := stacked.given given single
      have once := encloses.looksThrough before.1 before.2.1
      refine ⟨fun h => ?_, fun renders h => ?_, fun h step member => ?_⟩
      · obtain ⟨middle, there, kept⟩ := once.back h
        obtain ⟨type, here, keeps⟩ := ih.back there
        refine ⟨type, here, ?_⟩
        cases kept with
        | none =>
            cases keeps
            exact .none
        | some kept =>
            cases keeps with
            | some keeps => exact .some (keeps.within kept before.2.2)
      · obtain ⟨middle, there⟩ :=
          ih.forth (fun step member => renders step (List.mem_cons_of_mem _ member)) h
        refine once.forth (fun step member => ?_) there
        rw [List.mem_singleton.mp member]
        exact renders _ List.mem_cons_self
      · obtain ⟨middle, there, kept⟩ := once.back h
        rcases List.mem_cons.mp member with rfl | member
        · exact once.rendered h step List.mem_cons_self
        · cases kept
          exact ih.rendered there step member

/-- The type of an expression in any number of layers is that of the expression but for nullability
and markers, so that one is a modifier if the other is.  There is such a type as soon as the
expressions that the layers make up can be written, and only then. -/
theorem describe_of_stacked {x y : Expr} {layers : List Layer} {steps : List Expr}
    (given : x.isNone = false) (single : x.isTuple = false)
    (stacked : Stacked x layers steps y) :
    (∀ outer, describe y = .ok outer →
      ∃ inner, describe x = .ok inner ∧ Option.Rel (Keeps x layers) inner outer ∧
        ∀ registry : Registry, registry.classifies (some .modifier) outer =
          registry.classifies (some .modifier) inner) ∧
    ((∀ step ∈ steps, step.Renders) → ∀ inner, describe x = .ok inner →
      ∃ outer, describe y = .ok outer) ∧
    ∀ type, describe y = .ok (some type) → ∀ step ∈ steps, step.Renders := by
  have through := stacked.looksThrough given single
  refine ⟨fun outer h => ?_, fun renders inner h => through.forth renders h, fun type h =>
    through.rendered h⟩
  obtain ⟨inner, here, keeps⟩ := through.back h
  refine ⟨inner, here, keeps, fun registry => ?_⟩
  cases keeps with
  | none => rfl
  | some keeps => rw [Registry.classifies, Registry.classifies, Registry.includes,
      Registry.includes, keeps.rawName]

/-- A modifier in three layers. -/
def layeredSample : Expr :=
  .subscript (.access (.name "typing") "Optional")
    (.subscript (.name "Annotated")
      (.tuple [.binary .bitOr (.name "Modifier") (.constant .none), .name "Stable"]))

/-- The layers of the sample are looked through. -/
theorem describe_of_stacked_layeredSample :
    ∃ layers steps, Stacked (.name "Modifier") layers steps layeredSample ∧
      (Expr.name "Modifier").isNone = false ∧ (Expr.name "Modifier").isTuple = false ∧
      ∃ outer, describe layeredSample = .ok (some outer) ∧ outer.rawName = "Modifier" ∧
        outer.nullable = true ∧ "Stable" ∈ outer.markers ∧ outer.coreText = "Modifier" := by
  have stacked : Stacked (.name "Modifier")
      [.optional (some (.name "typing")), .annotated none [.name "Stable"], .orNone] _
      layeredSample :=
    .within (.within (.within .bare (.orNone _)) (.annotated none _ _)) (.optional _ _)
  obtain ⟨back, forth, -⟩ := describe_of_stacked rfl rfl stacked
  have bare : describe (.name "Modifier") =
      .ok (some { text := "Modifier", rawName := "Modifier", coreText := "Modifier" }) := by
    rw [describe_name]
    rfl
  obtain ⟨outer, described⟩ : ∃ outer, describe layeredSample = .ok outer := by
    refine forth ?_ _ bare
    refine List.forall_mem_cons.mpr ⟨⟨_, rfl⟩, List.forall_mem_cons.mpr ⟨⟨_, rfl⟩, ?_⟩⟩
    exact List.forall_mem_singleton.mpr ⟨_, rfl⟩
  obtain ⟨inner, same, keeps, -⟩ := back outer described
  cases bare.symm.trans same
  cases keeps with
  | some keeps =>
      rename_i type
      refine ⟨_, _, stacked, rfl, rfl, type, described, keeps.rawName, ?_, ?_, ?_⟩
      · exact keeps.nullable.mpr (.inr ⟨_, List.mem_cons_self, rfl⟩)
      · refine (keeps.markers "Stable").mpr (.inr ⟨by decide, ?_⟩)
        exact ⟨_, List.mem_cons_of_mem _ List.mem_cons_self, _, List.mem_cons_self, rfl⟩
      · exact keeps.coreText fun plural => nomatch plural.1

/-- Metadata without a text: a control character in a field of a formatted text. -/
def unwrittenSample : Expr :=
  .joined [.field (.constant (.text (.clean "\x01") false)) none none]

/-- A layer that cannot be written makes an error of an annotation that describes a type. -/
theorem describe_annotated_unwrittenSample :
    Stacked (.name "int") [.annotated none [unwrittenSample]]
      [applied (.name "Annotated") [.name "int", unwrittenSample]]
      (applied (.name "Annotated") [.name "int", unwrittenSample]) ∧
    describe (.name "int") = .ok (some { text := "int", rawName := "int", coreText := "int" }) ∧
    describe (applied (.name "Annotated") [.name "int", unwrittenSample]) =
      .error (.render .backslash) := by
  have bare : describe (.name "int") =
      .ok (some { text := "int", rawName := "int", coreText := "int" }) := by
    rw [describe_name]
    rfl
  refine ⟨.within .bare (.annotated none _ _), bare, ?_⟩
  have named : (Expr.name "Annotated").dottedName? = some "Annotated" := rfl
  have elements : (Expr.tuple [.name "int", unwrittenSample]).indexElements =
      [.name "int", unwrittenSample] := rfl
  have whole := describe_annotated named elements
  rw [bare] at whole
  exact whole

end TypeRef

end SignatureLint

import SignatureLint.Outline
import SignatureLint.Proofs.TypeRef.Accepted
import SignatureLint.Proofs.TypeRef.Bracketed
import SignatureLint.Proofs.TypeRef.Describable
import SignatureLint.Proofs.TypeRef.Layers
import SignatureLint.Proofs.TypeRef.Shared
import SignatureLint.Rule

/-!
# The arguments of a type as written

A written type has the arguments behind its name, and an annotation those of the expression that it
comes down to: of what an optional or annotated type wraps, of the only alternative, of what a text
refers to.  The arguments are looked for in the whole text, between angle brackets first.  Square
brackets are therefore overlooked if anything among the arguments stands in angle ones, a text of
an annotation such as `'Map<str>'` included.
-/

namespace SignatureLint

namespace TypeRef

/-! ## What an annotation comes down to -/

/-- The expressions that an annotation stands for, one step at a time. -/
inductive Through : Expr → Expr → Prop
  | referred {text : LooseText} {marked : Bool} {characters : List Char} {found : Located Expr}
      (clean : referenceText text = .ok characters) (read : reference? characters = some found) :
      Through (.constant (.text text marked)) found.value
  | alone {left right only : Expr} (present : (Expr.binary .bitOr left right).present = [only]) :
      Through (.binary .bitOr left right) only
  | wrapped {value index first : Expr} {rest : List Expr}
      (wrapper : value.dottedName? = some "Optional" ∨ value.dottedName? = some "Annotated")
      (elements : index.indexElements = first :: rest) :
      Through (.subscript value index) first
  | member {value index only : Expr} (named : value.dottedName? = some "Union")
      (present : index.indexElements.filter (!·.isNone) = [only]) :
      Through (.subscript value index) only

theorem Through.part {e inner : Expr} (through : Through e inner) : Part e inner := by
  have among {only : Expr} {listed : List Expr} (present : listed.filter (!·.isNone) = [only]) :
      only ∈ listed ∧ only.isNone = false := by
    have found : only ∈ listed.filter (!·.isNone) := by
      rw [present]
      exact List.mem_singleton_self only
    simpa using found
  cases through with
  | referred clean read => exact .referred clean read
  | alone present =>
      obtain ⟨member, given⟩ := among present
      exact .alternative member given
  | wrapped wrapper elements => exact .wrapped wrapper elements
  | member named present =>
      obtain ⟨member, given⟩ := among present
      exact .member named member given

/-- The expression that an annotation finally stands for. -/
def Root (e root : Expr) : Prop :=
  Relation.ReflTransGen Through e root ∧ ∀ inner, ¬Through root inner

structure Names (root : Expr) (type : TypeRef) : Prop where
  written : written root = .ok type.coreText
  named : ∀ value index, root = .subscript value index → value.dottedName? = some type.rawName

theorem alternatives_cases {text : String} {nullable : Bool} {listed : List Expr}
    {described : List (Option TypeRef)} {type : TypeRef} (all : describeAll listed = .ok described)
    (h : ofAlternatives text nullable described = some type) :
    (∃ only inner, listed = [only] ∧ describe only = .ok (some inner) ∧
        type = inner.asNullable text nullable) ∨
      (∀ only, listed ≠ [only]) ∧ type.rawName = "Union" ∧ type.coreText = text := by
  by_cases single : ∃ only, listed = [only]
  · obtain ⟨only, rfl⟩ := single
    rw [describeAll_singleton] at all
    obtain ⟨found, here, all⟩ := Outcome.exists_of_bind_eq_ok all
    cases all
    obtain ⟨inner, rfl, rfl⟩ := Option.map_eq_some_iff.mp h
    exact .inl ⟨only, inner, rfl, here, rfl⟩
  · have several : ∀ found, described ≠ [found] := by
      rintro found rfl
      have same := length_describeAll all
      exact single (List.length_eq_one_iff.mp same.symm)
    rw [ofAlternatives] at h
    · obtain rfl := Option.some.inj h
      exact .inr ⟨fun only same => single ⟨only, same⟩, rfl, rfl⟩
    · exact several

variable {e : Expr} {type : TypeRef}

theorem through_of_wrapped {value index first : Expr} {rest : List Expr}
    {wrap : TypeRef → String → TypeRef}
    (wrapper : value.dottedName? = some "Optional" ∨ value.dottedName? = some "Annotated")
    (elements : index.indexElements = first :: rest)
    (described : describe (.subscript value index) = describe first >>= fun
      | none => .ok none
      | some inner => written (.subscript value index) >>= fun text =>
          .ok (some (wrap inner text)))
    (keeps : ∀ inner text, (wrap inner text).rawName = inner.rawName ∧
      (wrap inner text).coreText = inner.coreText)
    (h : describe (.subscript value index) = .ok (some type)) :
    ∃ inner found, Through (.subscript value index) inner ∧ describe inner = .ok (some found) ∧
      type.rawName = found.rawName ∧ type.coreText = found.coreText := by
  rw [described] at h
  obtain ⟨found, here, h⟩ := Outcome.exists_of_bind_eq_ok h
  cases found with
  | none => cases h
  | some found =>
      obtain ⟨text, -, h⟩ := @Outcome.exists_of_bind_eq_ok _ _ _ (written _) _ _ h
      cases h
      exact ⟨first, found, .wrapped wrapper elements, here, keeps found text⟩

theorem through_subscript_iff {value index inner : Expr} {name : String}
    (named : value.dottedName? = some name) :
    Through (.subscript value index) inner ↔
      (name = "Optional" ∨ name = "Annotated") ∧ (∃ rest, index.indexElements = inner :: rest) ∨
        name = "Union" ∧ index.indexElements.filter (!·.isNone) = [inner] := by
  have same {other : String} : value.dottedName? = some other ↔ name = other := by
    rw [named, Option.some_inj]
  constructor
  · rintro (_ | _ | ⟨wrapper, elements⟩ | ⟨union, present⟩)
    · exact .inl ⟨wrapper.imp same.mp same.mp, _, elements⟩
    · exact .inr ⟨same.mp union, present⟩
  · rintro (⟨wrapper, rest, elements⟩ | ⟨union, present⟩)
    · exact .wrapped (wrapper.imp same.mpr same.mpr) elements
    · exact .member (same.mpr union) present

theorem names_subscript {value index : Expr} {name text : String}
    (named : value.dottedName? = some name)
    (written : written (.subscript value index) = .ok text) (rawName : type.rawName = name)
    (coreText : type.coreText = text) : Names (.subscript value index) type := by
  refine ⟨by rw [coreText, written], ?_⟩
  rintro _ _ ⟨rfl, rfl⟩
  rw [rawName, named]

theorem names_of_arguments {value index : Expr} {name : String}
    (named : value.dottedName? = some name)
    (described : describe (.subscript value index) =
      written (.subscript value index) >>= fun text =>
        describeAll index.indexElements >>= fun described =>
          .ok (some
            { text := text, rawName := name, arguments := described.filterMap id,
              coreText := text }))
    (h : describe (.subscript value index) = .ok (some type)) :
    Names (.subscript value index) type := by
  rw [described] at h
  obtain ⟨text, written, h⟩ := Outcome.exists_of_bind_eq_ok h
  obtain ⟨arguments, -, h⟩ := Outcome.exists_of_bind_eq_ok h
  cases h
  exact names_subscript named written rfl rfl

/-- A type described by a subscript is that of what the subscript wraps, or its own. -/
theorem through_or_names_subscript {value index : Expr} {name : String}
    (named : value.dottedName? = some name)
    (h : describe (.subscript value index) = .ok (some type)) :
    (∃ inner found, Through (.subscript value index) inner ∧ describe inner = .ok (some found) ∧
        type.rawName = found.rawName ∧ type.coreText = found.coreText) ∨
      (∀ inner, ¬Through (.subscript value index) inner) ∧ Names (.subscript value index) type := by
  by_cases union : name = "Union"
  · subst union
    rw [describe_union named] at h
    obtain ⟨text, written, h⟩ := Outcome.exists_of_bind_eq_ok h
    obtain ⟨described, all, h⟩ := Outcome.exists_of_bind_eq_ok h
    rcases alternatives_cases all (Except.ok.inj h) with
      ⟨only, inner, present, here, rfl⟩ | ⟨several, rawName, coreText⟩
    · exact .inl ⟨only, inner, .member named present, here, rfl, rfl⟩
    · refine .inr ⟨fun inner through => ?_, names_subscript named written rawName coreText⟩
      rcases (through_subscript_iff named).mp through with ⟨wrapper, -⟩ | ⟨-, present⟩
      · exact absurd wrapper (by decide)
      · exact several inner present
  -- a wrapper without elements looks through to nothing and names what it wraps, as any other name
  by_cases wrapper : name = "Optional" ∨ name = "Annotated"
  · cases elements : index.indexElements with
    | cons first rest =>
        rcases wrapper with rfl | rfl
        · exact .inl (through_of_wrapped (.inl named) elements (describe_optional named elements)
            (fun _ _ => ⟨rfl, rfl⟩) h)
        · exact .inl (through_of_wrapped (.inr named) elements (describe_annotated named elements)
            (fun _ _ => ⟨rfl, rfl⟩) h)
    | nil =>
        refine .inr ⟨fun inner through => ?_,
          names_of_arguments named (describe_hollow named wrapper elements) h⟩
        rcases (through_subscript_iff named).mp through with ⟨-, rest, filled⟩ | ⟨union', -⟩
        · rw [elements] at filled
          cases filled
        · exact union union'
  · obtain ⟨optional, annotated⟩ := not_or.mp wrapper
    have plain : Wrapper.ofName? name = none := by
      rw [Wrapper.ofName?, if_neg optional, if_neg union, if_neg annotated]
    refine .inr ⟨fun inner through => ?_,
      names_of_arguments named (describe_generic named plain) h⟩
    rcases (through_subscript_iff named).mp through with ⟨wrapper', -⟩ | ⟨union', -⟩
    · exact wrapper wrapper'
    · exact union union'

/-- A type described by an expression is that of what the expression stands for, or its own. -/
theorem through_or_names (h : describe e = .ok (some type)) :
    (∃ inner found, Through e inner ∧ describe inner = .ok (some found) ∧
        type.rawName = found.rawName ∧ type.coreText = found.coreText) ∨
      (∀ inner, ¬Through e inner) ∧ Names e type := by
  by_cases form : Describing e
  · cases form with
    | none =>
        rw [describe_none] at h
        cases h
        exact .inr ⟨nofun, rfl, nofun⟩
    | text text marked =>
        rw [describe_text] at h
        obtain ⟨characters, clean, h⟩ := Outcome.exists_of_bind_eq_ok h
        cases read : reference? characters with
        | none =>
            rw [read] at h
            cases h
        | some found =>
            rw [read] at h
            exact .inl ⟨found.value, type, .referred clean read, h, rfl, rfl⟩
    | name id =>
        rw [describe_name] at h
        obtain ⟨text, written, h⟩ := Outcome.exists_of_bind_eq_ok h
        cases h
        exact .inr ⟨nofun, written, nofun⟩
    | access value part =>
        rw [describe_access] at h
        obtain ⟨text, written, h⟩ := Outcome.exists_of_bind_eq_ok h
        cases h
        exact .inr ⟨nofun, written, nofun⟩
    | bar left right =>
        rw [describe_bar] at h
        obtain ⟨text, written, h⟩ := Outcome.exists_of_bind_eq_ok h
        obtain ⟨described, all, h⟩ := Outcome.exists_of_bind_eq_ok h
        -- one alternative besides None is described itself; several are named together
        rcases alternatives_cases all (Except.ok.inj h) with
          ⟨only, inner, present, here, rfl⟩ | ⟨several, -, rfl⟩
        · exact .inl ⟨only, inner, .alone present, here, rfl, rfl⟩
        · refine .inr ⟨?_, written, nofun⟩
          rintro inner ⟨⟩
          exact several _ ‹_›
    | subscript named => exact through_or_names_subscript named h
  · rw [describe_of_other form] at h
    cases h

/-- A type described by an expression goes by the name and the text of what the expression finally
stands for. -/
theorem exists_root {e : Expr} {type : TypeRef} (h : describe e = .ok (some type)) :
    ∃ root, Root e root ∧ Names root type := by
  rcases through_or_names h with ⟨inner, found, through, here, rawName, coreText⟩ | ⟨last, names⟩
  · obtain ⟨root, ⟨reached, last⟩, names⟩ := exists_root here
    refine ⟨root, ⟨.head through reached, last⟩, ?_, ?_⟩
    · rw [coreText]
      exact names.written
    · rw [rawName]
      exact names.named
  · exact ⟨e, ⟨.refl, last⟩, names⟩
termination_by (e.longestText, sizeOf e)
decreasing_by exact through.part.precedes

/-- A subscript is written as what stands before the brackets, and the brackets. -/
theorem exists_of_written_subscript {value index : Expr} {text : String}
    (h : written (.subscript value index) = .ok text) :
    ∃ front inside, Printer.expr false .atom value = .ok front ∧
      text = String.ofList (front ++ '[' :: (inside ++ [']'])) := by
  unfold written Expr.render at h
  rw [Printer.expr] at h
  split at h
  · rename_i whole rendered
    obtain rfl := Except.ok.inj h
    obtain ⟨front, before, rendered⟩ := Outcome.exists_of_bind_eq_ok rendered
    have close {inner : Except RenderError (List Char)}
        (rendered : (inner >>= fun inside => .ok (front ++ '[' :: (inside ++ [']']))) = .ok whole) :
        ∃ inside, String.ofList whole = String.ofList (front ++ '[' :: (inside ++ [']'])) := by
      obtain ⟨inside, -, rendered⟩ := Outcome.exists_of_bind_eq_ok rendered
      exact ⟨inside, congrArg String.ofList (Except.ok.inj rendered).symm⟩
    have cut : ∃ inside,
        String.ofList whole = String.ofList (front ++ '[' :: (inside ++ [']'])) := by
      dsimp only at rendered
      split at rendered
      · obtain ⟨head, -, rendered⟩ := Outcome.exists_of_bind_eq_ok rendered
        obtain ⟨tail, -, rendered⟩ := Outcome.exists_of_bind_eq_ok rendered
        exact close rendered
      · exact close rendered
    obtain ⟨inside, same⟩ := cut
    exact ⟨front, inside, before, same⟩
  · cases h

/-! ## Which arguments are found -/

/-- The arguments of a type are repeated as they are written, and so they are in the type that is
recommended in its place. -/
def Repeats (type : TypeRef) (group : List Char) : Prop :=
  type.argumentText = String.ofList group ∧
    UnstableCollections.recommended type =
      Collections.immutableCounterpart type.rawName ++ String.ofList group

theorem repeats_iff {group : List Char} :
    Repeats type group ↔ type.argumentText = String.ofList group :=
  and_iff_left_of_imp fun found => by rw [UnstableCollections.recommended, found]

variable {front inside core : List Char}

theorem argumentText_angle
    (coreText : type.coreText = String.ofList (front ++ '<' :: (inside ++ ['>'])))
    (unopened : '<' ∉ front) : type.argumentText = String.ofList ('<' :: (inside ++ ['>'])) := by
  rw [argumentText_eq coreText (by simp), bracketed?_outermost unopened List.not_mem_nil,
    Option.getD_some]

/-- Arguments in square brackets are found if these are the first ones and nothing stands between
angle brackets. -/
theorem argumentText_square_iff
    (coreText : type.coreText = String.ofList (front ++ '[' :: (inside ++ [']']))) :
    type.argumentText = String.ofList ('[' :: (inside ++ [']'])) ↔
      '[' ∉ front ∧ ¬Spans '<' '>' (front ++ '[' :: (inside ++ [']'])) := by
  rw [argumentText_eq coreText (by simp), String.ofList_inj]
  cases angle : bracketed? '<' '>' (front ++ '[' :: (inside ++ [']'])) with
  | some group =>
      have spans : Spans '<' '>' (front ++ '[' :: (inside ++ [']'])) := by
        by_contra missing
        rw [bracketed?_eq_none (by decide) missing] at angle
        cases angle
      obtain ⟨between, rfl⟩ := bracketed?_eq_some (by decide) angle
      exact iff_of_false nofun fun found => found.2 spans
  | none =>
      have missing := (bracketed?_eq_none_iff (by decide)).mp angle
      rw [Option.getD_none, and_iff_left missing]
      constructor
      · intro found opened
        obtain ⟨before, more, rfl, first⟩ := List.eq_append_cons_of_mem opened
        have earlier : before ++ '[' :: more ++ '[' :: (inside ++ [']']) =
            before ++ '[' :: ((more ++ '[' :: inside) ++ [']']) := by simp
        rw [earlier, bracketed?_outermost first List.not_mem_nil, Option.getD_some] at found
        have longer := congrArg List.length found
        simp at longer
        omega
      · intro first
        rw [bracketed?_outermost first List.not_mem_nil, Option.getD_some]

theorem argumentText_bare_iff (coreText : type.coreText = String.ofList core) (filled : core ≠ []) :
    type.argumentText = String.ofList [] ↔ ¬Spans '<' '>' core ∧ ¬Spans '[' ']' core := by
  rw [argumentText_eq coreText filled, String.ofList_inj, ← bracketed?_eq_none_iff (by decide),
    ← bracketed?_eq_none_iff (by decide)]
  cases angle : bracketed? '<' '>' core with
  | some group =>
      obtain ⟨between, rfl⟩ := bracketed?_eq_some (by decide) angle
      exact iff_of_false nofun nofun
  | none =>
      cases square : bracketed? '[' ']' core with
      | some group =>
          obtain ⟨between, rfl⟩ := bracketed?_eq_some (by decide) square
          exact iff_of_false nofun nofun
      | none => exact iff_of_true rfl ⟨rfl, rfl⟩

theorem spans_square_iff (unopened : '<' ∉ front) :
    Spans '<' '>' (front ++ '[' :: (inside ++ [']'])) ↔ Spans '<' '>' inside := by
  have around : front ++ '[' :: (inside ++ [']']) = (front ++ ['[']) ++ (inside ++ [']']) := by simp
  have same :
      bracketed? '<' '>' (front ++ '[' :: (inside ++ [']'])) = bracketed? '<' '>' inside := by
    rw [around]
    exact bracketed?_between (by simpa using unopened) (by decide) (by decide) inside
  rw [← not_iff_not, ← bracketed?_eq_none_iff (by decide), ← bracketed?_eq_none_iff (by decide),
    same]

/-- The arguments of a written type are found unless they stand in square brackets and something
among them in angle ones. -/
theorem repeats_group_iff {written : List Char} (reading : Reading written type) :
    Repeats type (Group.text reading.core.group) ↔
      ∀ group ∈ reading.core.group, group.brackets = .square → ¬Spans '<' '>' group.inside := by
  have coreText := reading.coreText
  have unopened := reading.core.unopened_front
  have filled : reading.core.last.letters ≠ [] := reading.core.last.nonempty
  rw [Core.text] at coreText
  generalize front : reading.core.qualifier ++ reading.core.last.letters ++ reading.core.blanks =
    before at coreText unopened
  have noAngle : '<' ∉ before := fun member => absurd (unopened _ member) (by decide)
  have noSquare : '[' ∉ before := fun member => absurd (unopened _ member) (by decide)
  generalize reading.core.group = group at coreText ⊢
  rw [repeats_iff]
  cases group with
  | none =>
      rw [Group.text, List.append_nil] at coreText
      rw [Group.text, argumentText_bare_iff coreText (by rw [← front]; simp [filled])]
      refine iff_of_true ⟨not_spans_of_not_mem noAngle, not_spans_of_not_mem noSquare⟩ ?_
      rintro _ ⟨⟩
  | some group =>
      obtain ⟨brackets, inside⟩ := group
      cases brackets with
      | angle =>
          refine iff_of_true (argumentText_angle coreText noAngle) ?_
          rintro _ ⟨⟩ ⟨⟩
      | square =>
          have found := argumentText_square_iff coreText
          rw [and_iff_right noSquare, spans_square_iff noAngle] at found
          refine found.trans ⟨?_, fun all => all _ rfl rfl⟩
          rintro missing _ ⟨⟩ -
          exact missing

theorem exists_root_of_annotated {file : Outline.File} {written : Located Expr}
    (h : file.annotated written = .ok (some type)) :
    ∃ root, Root written.value root ∧ Names root type := by
  have taken {described : Option TypeRef} {adjust : TypeRef → TypeRef}
      (here : describe written.value = .ok described) (same : described.map adjust = some type)
      (keeps : ∀ found, (adjust found).rawName = found.rawName ∧
        (adjust found).coreText = found.coreText) :
      ∃ root, Root written.value root ∧ Names root type := by
    obtain ⟨found, rfl, rfl⟩ := Option.map_eq_some_iff.mp same
    obtain ⟨root, reached, names⟩ := exists_root here
    obtain ⟨rawName, coreText⟩ := keeps found
    exact ⟨root, reached, by rw [coreText]; exact names.written,
      by rw [rawName]; exact names.named⟩
  unfold Outline.File.annotated at h
  dsimp only at h
  split at h
  · obtain ⟨characters, -, h⟩ := Outcome.exists_of_bind_eq_ok h
    obtain ⟨described, here, h⟩ := Outcome.exists_of_bind_eq_ok h
    exact taken here (Except.ok.inj h) fun _ => ⟨rfl, rfl⟩
  · obtain ⟨described, here, h⟩ := Outcome.exists_of_bind_eq_ok h
    exact taken here (Except.ok.inj h) fun _ => ⟨rfl, rfl⟩

/--
The arguments of a type are repeated as they are written, in brackets, under the following
conditions and under no others.  In a written type, nothing may stand in angle brackets among
arguments in square ones.  In an annotation, which comes down to one expression with a text, the
square brackets of this expression must be its first ones, and nothing in its whole text may stand
in angle brackets; a type without brackets of its own must hold none.
-/
theorem repeats_arguments_iff (type : TypeRef) :
    (∀ text span, ofText? text span = some type →
      ∃ reading : Reading text.toList type,
        (Repeats type (Group.text reading.core.group) ↔
          ∀ group ∈ reading.core.group, group.brackets = .square →
            ¬Spans '<' '>' group.inside)) ∧
    ∀ (file : Outline.File) (expression : Located Expr),
      file.annotated expression = .ok (some type) →
      ∃ root, Root expression.value root ∧ written root = .ok type.coreText ∧
        (∀ value index, root = .subscript value index →
          value.dottedName? = some type.rawName ∧
          ∃ front inside, Printer.expr false .atom value = .ok front ∧
            type.coreText = String.ofList (front ++ '[' :: (inside ++ [']'])) ∧
            (Repeats type ('[' :: (inside ++ [']'])) ↔
              '[' ∉ front ∧ ¬Spans '<' '>' type.coreText.toList)) ∧
        ((∀ value index, root ≠ .subscript value index) → type.coreText ≠ "" →
          (Repeats type [] ↔
            ¬Spans '<' '>' type.coreText.toList ∧ ¬Spans '[' ']' type.coreText.toList)) := by
  constructor
  · intro text span h
    obtain ⟨reading, -, -⟩ := regular_of_ofText? h
    exact ⟨reading, repeats_group_iff reading⟩
  · intro file expression h
    obtain ⟨root, reached, names⟩ := exists_root_of_annotated h
    refine ⟨root, reached, names.written, fun value index subscript => ?_, fun _ filled => ?_⟩
    · subst subscript
      obtain ⟨front, inside, before, coreText⟩ := exists_of_written_subscript names.written
      refine ⟨names.named value index rfl, front, inside, before, coreText, ?_⟩
      rw [repeats_iff, argumentText_square_iff coreText, coreText, String.toList_ofList]
    · rw [repeats_iff]
      refine argumentText_bare_iff (String.ofList_toList).symm ?_
      simpa using filled

/-- The written type `Set[Map<K, V>]`. -/
def setOfMaps : TypeTree :=
  .node [] ⟨[], ⟨['S', 'e', 't'], List.cons_ne_nil _ _, List.all_eq_true.mp rfl⟩⟩ .square
    [.node [] ⟨[], ⟨['M', 'a', 'p'], List.cons_ne_nil _ _, List.all_eq_true.mp rfl⟩⟩ .angle
      [.node [] ⟨[], ⟨['K'], List.cons_ne_nil _ _, List.all_eq_true.mp rfl⟩⟩ .angle [] none,
        .node [] ⟨[], ⟨['V'], List.cons_ne_nil _ _, List.all_eq_true.mp rfl⟩⟩ .angle [] none]
      none]
    none

theorem argumentText_setOfMaps : setOfMaps.described.argumentText = "<K, V>" := by
  have coreText : setOfMaps.described.coreText = String.ofList "Set[Map<K, V>]".toList := rfl
  rw [argumentText_eq coreText (by decide)]
  rfl

/-- The arguments of the map are recommended for the set itself. -/
theorem not_repeats_setOfMaps :
    ofText? "Set[Map<K, V>]" none = some setOfMaps.described ∧
      setOfMaps.described.rawName = "Set" ∧
      setOfMaps.described.coreText = "Set[Map<K, V>]" ∧
      setOfMaps.described.argumentText = "<K, V>" ∧
      UnstableCollections.recommended setOfMaps.described = "ImmutableSet<K, V>" ∧
      ¬Repeats setOfMaps.described "[Map<K, V>]".toList := by
  have found := argumentText_setOfMaps
  refine ⟨ofText?_text setOfMaps none, rfl, rfl, found, ?_, fun repeats => ?_⟩
  · rw [UnstableCollections.recommended, found]
    rfl
  · rw [repeats_iff, found] at repeats
    exact absurd repeats (by decide)

def stringList : Expr :=
  .subscript (.name "list") (.name "str")

theorem describe_stringList : (∀ inner, ¬Through stringList inner) ∧
    ∃ arguments, describe stringList = .ok (some
      { text := "list[str]", rawName := "list", arguments, coreText := "list[str]" }) := by
  have named : (Expr.name "list").dottedName? = some "list" := rfl
  constructor
  · intro inner through
    rcases (through_subscript_iff named).mp through with ⟨wrapper, -⟩ | ⟨union, -⟩
    · exact absurd wrapper (by decide)
    · exact absurd union (by decide)
  · have index : (Expr.name "str").indexElements = [.name "str"] := rfl
    rw [stringList, describe_generic named rfl, index, describeAll_singleton, describe_name]
    exact ⟨_, rfl⟩

/-- The arguments of a list in an annotation are repeated; those of a written set of maps are not,
since something stands in angle brackets among them. -/
theorem repeats_arguments_iff_stringList :
    (∃ type, Outline.File.annotated ⟨"a.py", .ofText [], {}⟩ ⟨stringList, ⟨⟨1, 0⟩, ⟨1, 9⟩⟩⟩ =
        .ok (some type) ∧ type.coreText = "list[str]" ∧ Repeats type "[str]".toList) ∧
      ∃ reading : Reading "Set[Map<K, V>]".toList setOfMaps.described,
        ¬∀ group ∈ reading.core.group, group.brackets = .square →
          ¬Spans '<' '>' group.inside := by
  constructor
  · obtain ⟨last, arguments, described⟩ := describe_stringList
    obtain ⟨text, annotated⟩ := SharedType.exists_annotated ⟨"a.py", .ofText [], {}⟩
      ⟨⟨1, 0⟩, ⟨1, 9⟩⟩ (e := stringList) nofun described
    obtain ⟨root, ⟨reached, -⟩, -, subscript, -⟩ := (repeats_arguments_iff _).2 _ _ annotated
    obtain rfl : stringList = root := by
      rcases Relation.ReflTransGen.cases_head_iff.mp reached with same | ⟨inner, through, -⟩
      · exact same
      · exact absurd through (last inner)
    obtain ⟨-, front, inside, before, coreText, found⟩ := subscript _ _ rfl
    rw [Printer.expr] at before
    obtain rfl := Except.ok.inj before
    have letters := congrArg String.toList coreText
    rw [String.toList_ofList] at letters
    have arguments : ['s', 't', 'r'] ++ [']'] = inside ++ [']'] := by simpa using letters
    obtain rfl := List.append_cancel_right arguments
    have plain : ¬Spans '<' '>' "list[str]".toList := not_spans_of_not_mem (by decide)
    exact ⟨_, annotated, rfl, found.mpr ⟨by decide, plain⟩⟩
  · have read : ofText? "Set[Map<K, V>]" none = some setOfMaps.described :=
      ofText?_text setOfMaps none
    obtain ⟨reading, found⟩ := (repeats_arguments_iff _).1 _ _ read
    refine ⟨reading, fun apart => ?_⟩
    have own := repeats_iff.mp (found.mpr apart)
    rw [argumentText_setOfMaps] at own
    have group : "<K, V>".toList = Group.text reading.core.group := String.ofList_injective own
    have whole : "Set[Map<K, V>]".toList = reading.core.text :=
      String.ofList_injective reading.coreText
    rw [Core.text, ← group] at whole
    -- the group would have to end the text, which ends with another bracket
    have ending := congrArg List.getLast? whole
    simp at ending

end TypeRef

end SignatureLint

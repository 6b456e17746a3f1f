import Mathlib.Logic.Relation
import SignatureLint.Proofs.Outcome
import SignatureLint.Proofs.Text.Words
import SignatureLint.Proofs.TypeRef.Describe

/-!
# Which expressions can be described

To describe an expression is to describe the parts that it looks through or lists, and the
expressions that texts among them spell.  That comes to an end, and it fails only at a part
that is faulty itself: a text that no program can be read from, or an expression that is to be
written down and has no text.
-/

namespace SignatureLint

namespace TypeRef

/-! ## Parts and faults -/

inductive Part : Expr → Expr → Prop
  | referred {text : LooseText} {marked : Bool} {characters : List Char} {found : Located Expr}
      (clean : referenceText text = .ok characters) (read : reference? characters = some found) :
      Part (.constant (.text text marked)) found.value
  | alternative {left right part : Expr}
      (among : part ∈ (Expr.binary .bitOr left right).alternatives)
      (present : part.isNone = false) :
      Part (.binary .bitOr left right) part
  | wrapped {value index first : Expr} {rest : List Expr}
      (wrapper : value.dottedName? = some "Optional" ∨ value.dottedName? = some "Annotated")
      (elements : index.indexElements = first :: rest) :
      Part (.subscript value index) first
  | member {value index part : Expr} (named : value.dottedName? = some "Union")
      (among : part ∈ index.indexElements) (present : part.isNone = false) :
      Part (.subscript value index) part
  | argument {value index part : Expr} {name : String} (named : value.dottedName? = some name)
      (plain : Wrapper.ofName? name = none) (among : part ∈ index.indexElements) :
      Part (.subscript value index) part

/-- The expressions that can describe a type, by their form. -/
inductive Describing : Expr → Prop
  | none : Describing (.constant .none)
  | text (text : LooseText) (marked : Bool) : Describing (.constant (.text text marked))
  | name (id : String) : Describing (.name id)
  | access (value : Expr) (part : String) : Describing (.access value part)
  | bar (left right : Expr) : Describing (.binary .bitOr left right)
  | subscript {value index : Expr} {name : String} (named : value.dottedName? = some name) :
      Describing (.subscript value index)

theorem Part.describing {e part : Expr} (h : Part e part) : Describing e := by
  cases h with
  | referred clean read => exact .text _ _
  | alternative among present => exact .bar _ _
  | wrapped wrapper elements =>
      rcases wrapper with named | named
      · exact .subscript named
      · exact .subscript named
  | member named among present => exact .subscript named
  | argument named plain among => exact .subscript named

/-- The expressions that are written down when they are described. -/
inductive Recorded : Expr → Prop
  | name (id : String) : Recorded (.name id)
  | access (value : Expr) (part : String) : Recorded (.access value part)
  | bar (left right : Expr) : Recorded (.binary .bitOr left right)
  /-- A wrapper of something that describes no type is not written down. -/
  | subscript {value index : Expr} {name : String} (named : value.dottedName? = some name)
      (wraps : ∀ first rest, name = "Optional" ∨ name = "Annotated" →
        index.indexElements = first :: rest → describe first ≠ .ok none) :
      Recorded (.subscript value index)

theorem Recorded.describing {e : Expr} (h : Recorded e) : Describing e := by
  cases h with
  | name id => exact .name id
  | access value part => exact .access value part
  | bar left right => exact .bar left right
  | subscript named wraps => exact .subscript named

/-- An expression that cannot be described, whatever its parts are. -/
inductive Faulty : Expr → Prop
  | nullCharacter {text : String} (marked : Bool) (holds : '\x00' ∈ text.toList) :
      Faulty (.constant (.text (.clean text) marked))
  | surrogate (points : List Nat) (marked : Bool) :
      Faulty (.constant (.text (.broken points) marked))
  | unwritten {e : Expr} {error : RenderError} (recorded : Recorded e)
      (fails : e.render = .error error) : Faulty e

theorem referenceText_ok_iff {text : LooseText} (marked : Bool) :
    (∃ characters, referenceText text = .ok characters) ↔
      ¬Faulty (.constant (.text text marked)) := by
  cases text with
  | broken points =>
      exact iff_of_false nofun fun faultless => faultless (.surrogate points marked)
  | clean text =>
      have stays : '\x00' ∈ Text.trim text.toList ↔ '\x00' ∈ text.toList :=
        Text.mem_trim_iff (by decide) text.toList
      rw [referenceText]
      by_cases holds : '\x00' ∈ text.toList
      · rw [if_pos (List.contains_iff_mem.mpr (stays.mpr holds))]
        exact iff_of_false nofun fun faultless => faultless (.nullCharacter marked holds)
      · rw [if_neg fun found => holds (stays.mp (List.contains_iff_mem.mp found))]
        refine iff_of_true ⟨_, rfl⟩ ?_
        rintro (⟨-, found⟩ | _ | ⟨recorded, -⟩)
        · exact holds found
        · cases recorded

theorem written_ok_iff {e : Expr} (recorded : Recorded e) :
    (∃ text, written e = .ok text) ↔ ¬Faulty e := by
  rw [written]
  cases rendered : e.render with
  | ok text =>
      refine iff_of_true ⟨_, rfl⟩ ?_
      rintro (_ | _ | ⟨-, fails⟩)
      · cases recorded
      · cases recorded
      · rw [rendered] at fails
        cases fails
  | error error =>
      exact iff_of_false nofun fun faultless => faultless (.unwritten recorded rendered)

/-! ## One expression -/

theorem exists_describeAll_iff {expressions : List Expr} :
    (∃ described, describeAll expressions = .ok described) ↔
      ∀ part ∈ expressions, ∃ described, describe part = .ok described := by
  induction expressions with
  | nil => exact ⟨fun _ _ => nofun, fun _ => ⟨[], describeAll_nil⟩⟩
  | cons first rest ih =>
      rw [describeAll_cons, List.forall_mem_cons, ← ih]
      exact Outcome.exists_both_ok_iff

variable {e : Expr}

/-- An expression that is written down and lists its parts can be described if it is not faulty
and its parts can be described. -/
theorem exists_describe_of_listed {parts : List Expr}
    {type : String → List (Option TypeRef) → Option TypeRef} (recorded : Recorded e)
    (isPart : ∀ part, Part e part ↔ part ∈ parts)
    (described : describe e = written e >>= fun text =>
      describeAll parts >>= fun found => .ok (type text found)) :
    (∃ type, describe e = .ok type) ↔
      ¬Faulty e ∧ ∀ part, Part e part → ∃ type, describe part = .ok type := by
  have listed : (∃ found, describeAll parts = .ok found) ↔
      ∀ part, Part e part → ∃ type, describe part = .ok type := by
    rw [exists_describeAll_iff]
    exact forall_congr' fun part => imp_congr (isPart part).symm Iff.rfl
  rw [described, ← written_ok_iff recorded, ← listed]
  exact Outcome.exists_both_ok_iff

/-- A wrapper can be described if it is not faulty and what it wraps can be described. -/
theorem exists_describe_of_wrapped {first : Expr} {type : TypeRef → String → TypeRef}
    (recorded : describe first ≠ .ok none → Recorded e)
    (faulty : Faulty e → describe first ≠ .ok none)
    (isPart : ∀ part, Part e part ↔ part = first)
    (described : describe e = describe first >>= fun
      | none => .ok none
      | some inner => written e >>= fun text => .ok (some (type inner text))) :
    (∃ type, describe e = .ok type) ↔
      ¬Faulty e ∧ ∀ part, Part e part → ∃ type, describe part = .ok type := by
  have single : (∀ part, Part e part → ∃ type, describe part = .ok type) ↔
      ∃ type, describe first = .ok type := by
    constructor
    · exact fun h => h first ((isPart first).mpr rfl)
    · rintro h part among
      rw [(isPart part).mp among]
      exact h
  rw [single, described]
  -- where nothing is described inside, nothing is written, and the metadata do not count
  cases inside : describe first with
  | error fault => exact iff_of_false nofun fun h => nomatch h.2
  | ok found =>
      cases found with
      | none => exact iff_of_true ⟨none, rfl⟩ ⟨fun fault => faulty fault inside, none, rfl⟩
      | some inner =>
          rw [← written_ok_iff (recorded (by rw [inside]; nofun))]
          constructor
          · rintro ⟨_, h⟩
            obtain ⟨text, here, -⟩ := @Outcome.exists_of_bind_eq_ok _ _ _ (written e) _ _ h
            exact ⟨⟨text, here⟩, some inner, rfl⟩
          · rintro ⟨⟨text, here⟩, -⟩
            exact ⟨some (type inner text), by rw [here]; rfl⟩

section Subscripts

variable {value index : Expr} {name : String}

theorem part_subscript_iff (named : value.dottedName? = some name) (part : Expr) :
    Part (.subscript value index) part ↔
      (name = "Optional" ∨ name = "Annotated") ∧ index.indexElements.head? = some part ∨
        name = "Union" ∧ part ∈ index.indexElements ∧ part.isNone = false ∨
        Wrapper.ofName? name = none ∧ part ∈ index.indexElements := by
  have same {other : String} (named' : value.dottedName? = some other) : name = other :=
    Option.some.inj (named.symm.trans named')
  constructor
  · rintro (_ | _ | ⟨wrapper, elements⟩ | ⟨named', among, present⟩ | ⟨named', plain, among⟩)
    · exact .inl ⟨wrapper.imp same same, by rw [elements]; rfl⟩
    · exact .inr (.inl ⟨same named', among, present⟩)
    · obtain rfl := same named'
      exact .inr (.inr ⟨plain, among⟩)
  · rintro (⟨wrapper, first⟩ | ⟨rfl, among, present⟩ | ⟨plain, among⟩)
    · obtain ⟨rest, elements⟩ := List.head?_eq_some_iff.mp first
      refine .wrapped (wrapper.imp ?_ ?_) elements
      · rintro rfl
        exact named
      · rintro rfl
        exact named
    · exact .member named among present
    · exact .argument named plain among

theorem describe_hollow (named : value.dottedName? = some name)
    (wrapper : name = "Optional" ∨ name = "Annotated") (hollow : index.indexElements = []) :
    describe (.subscript value index) =
      written (.subscript value index) >>= fun text =>
        describeAll index.indexElements >>= fun described =>
          .ok (some
            { text := text, rawName := name, arguments := described.filterMap id,
              coreText := text }) := by
  rw [describe]
  simp only [named]
  split
  · rename_i some
    rw [hollow] at some
    cases some
  · rename_i some
    rw [hollow] at some
    cases some
  · rename_i other
    rcases wrapper with rfl | rfl <;> cases other
  · rfl

/-- A wrapper of something can be described if it is not faulty and what it wraps can be
described. -/
theorem exists_describe_wrapper {first : Expr} {rest : List Expr}
    (named : value.dottedName? = some name) (wrapper : name = "Optional" ∨ name = "Annotated")
    (elements : index.indexElements = first :: rest) :
    (∃ type, describe (.subscript value index) = .ok type) ↔
      ¬Faulty (.subscript value index) ∧
        ∀ part, Part (.subscript value index) part → ∃ type, describe part = .ok type := by
  have recorded : describe first ≠ .ok none → Recorded (.subscript value index) := by
    intro typed
    refine .subscript named fun first' rest' _ elements' => ?_
    rw [elements] at elements'
    obtain ⟨rfl, -⟩ := List.cons.inj elements'
    exact typed
  have faulty : Faulty (.subscript value index) → describe first ≠ .ok none := by
    rintro (_ | _ | ⟨⟨⟩ | ⟨⟩ | ⟨⟩ | ⟨named', wraps⟩, -⟩)
    rw [named] at named'
    obtain rfl := Option.some.inj named'
    exact wraps first rest wrapper elements
  have isPart (part : Expr) : Part (.subscript value index) part ↔ part = first := by
    rw [part_subscript_iff named, elements]
    have only : (first :: rest).head? = some part ↔ part = first :=
      ⟨fun same => (Option.some.inj same).symm, fun same => by rw [same]; rfl⟩
    rcases wrapper with rfl | rfl <;> simpa [Wrapper.ofName?] using only
  rcases wrapper with rfl | rfl
  · exact exists_describe_of_wrapped recorded faulty isPart (describe_optional named elements)
  · exact exists_describe_of_wrapped recorded faulty isPart (describe_annotated named elements)

/-- A subscript of a name can be described if it is not faulty and its parts can be described. -/
theorem exists_describe_subscript (named : value.dottedName? = some name) :
    (∃ type, describe (.subscript value index) = .ok type) ↔
      ¬Faulty (.subscript value index) ∧
        ∀ part, Part (.subscript value index) part → ∃ type, describe part = .ok type := by
  by_cases wrapper : name = "Optional" ∨ name = "Annotated"
  · cases elements : index.indexElements with
    | cons first rest => exact exists_describe_wrapper named wrapper elements
    | nil =>
        refine exists_describe_of_listed (.subscript named ?_) (fun part => ?_)
          (describe_hollow named wrapper elements)
        · intro first rest _ some
          rw [elements] at some
          cases some
        · rw [part_subscript_iff named, elements]
          simp
  · have recorded : Recorded (.subscript value index) :=
      .subscript named fun _ _ other => absurd other wrapper
    by_cases union : name = "Union"
    · subst union
      refine exists_describe_of_listed recorded (fun part => ?_) (describe_union named)
      rw [part_subscript_iff named]
      simp [Wrapper.ofName?]
    · obtain ⟨optional, annotated⟩ := not_or.mp wrapper
      have plain : Wrapper.ofName? name = none := by
        rw [Wrapper.ofName?, if_neg optional, if_neg union, if_neg annotated]
      refine exists_describe_of_listed recorded (fun part => ?_) (describe_generic named plain)
      rw [part_subscript_iff named]
      simp [wrapper, union, plain]

end Subscripts

theorem describe_of_other (other : ¬Describing e) : describe e = .ok none := by
  rw [describe.eq_def]
  split
  · exact absurd .none other
  · exact absurd (.text _ _) other
  · exact absurd (.name _) other
  · exact absurd (.access _ _) other
  · exact absurd (.bar _ _) other
  · split
    · rfl
    · exact absurd (.subscript ‹_›) other
  · rfl

theorem exists_describe_of_other (other : ¬Describing e) :
    (∃ type, describe e = .ok type) ↔
      ¬Faulty e ∧ ∀ part, Part e part → ∃ type, describe part = .ok type := by
  have typeless := describe_of_other other
  refine iff_of_true ⟨none, typeless⟩ ⟨?_, fun part among => absurd among.describing other⟩
  rintro (_ | _ | ⟨recorded, -⟩)
  · exact other (.text _ _)
  · exact other (.text _ _)
  · exact other recorded.describing

theorem exists_describe_text (text : LooseText) (marked : Bool) :
    (∃ type, describe (.constant (.text text marked)) = .ok type) ↔
      ¬Faulty (.constant (.text text marked)) ∧
        ∀ part, Part (.constant (.text text marked)) part → ∃ type, describe part = .ok type := by
  rw [describe_text, Outcome.exists_bind_ok_iff, ← referenceText_ok_iff marked]
  constructor
  · rintro ⟨characters, clean, h⟩
    refine ⟨⟨characters, clean⟩, ?_⟩
    rintro _ (@⟨_, _, characters', found, clean', read⟩)
    rw [clean] at clean'
    obtain rfl := Except.ok.inj clean'
    rwa [read] at h
  · rintro ⟨⟨characters, clean⟩, h⟩
    refine ⟨characters, clean, ?_⟩
    cases read : reference? characters with
    | none => exact ⟨none, rfl⟩
    | some found => exact h _ (.referred clean read)

/-- An expression can be described if it is not faulty and its parts can be described. -/
theorem exists_describe_iff_parts (e : Expr) :
    (∃ type, describe e = .ok type) ↔
      ¬Faulty e ∧ ∀ part, Part e part → ∃ type, describe part = .ok type := by
  -- the forms that describe anything, each with its parts; all others describe nothing
  by_cases form : Describing e
  · cases form with
    | none =>
        refine iff_of_true ⟨_, describe_none⟩ ⟨?_, nofun⟩
        rintro (_ | _ | ⟨⟨⟩, -⟩)
    | text text marked => exact exists_describe_text text marked
    | name id =>
        refine @exists_describe_of_listed _ []
          (fun text _ => some { text := text, rawName := id, coreText := text }) (.name id)
          (fun part => ⟨nofun, nofun⟩) ?_
        rw [describe_name, describeAll_nil]
        rfl
    | access value last =>
        refine @exists_describe_of_listed _ []
          (fun text _ => some { text := text, rawName := last, coreText := text })
          (.access value last) (fun part => ⟨nofun, nofun⟩) ?_
        rw [describe_access, describeAll_nil]
        rfl
    | bar left right =>
        refine exists_describe_of_listed (.bar left right) (fun part => ?_)
          (describe_bar left right)
        rw [List.mem_filter, Bool.not_eq_true']
        exact ⟨fun | .alternative among present => ⟨among, present⟩,
          fun ⟨among, present⟩ => .alternative among present⟩
    | subscript named => exact exists_describe_subscript named
  · exact exists_describe_of_other form

/-! ## All parts -/

/-- One of several expressions brings no longer text than all of them and is no larger than the
largest. -/
theorem bounds_of_mem {part : Expr} {expressions : List Expr} (among : part ∈ expressions) :
    part.longestText ≤ Expr.longestTexts expressions ∧
      sizeOf part ≤ Expr.largest expressions := by
  induction expressions with
  | nil => cases among
  | cons first rest ih =>
      simp only [Expr.longestTexts, Expr.largest, List.foldr_cons]
      rcases List.mem_cons.mp among with rfl | among
      · exact ⟨Nat.le_max_left _ _, Nat.le_max_left _ _⟩
      · obtain ⟨text, size⟩ := ih among
        exact ⟨Nat.le_trans text (Nat.le_max_right _ _),
          Nat.le_trans size (Nat.le_max_right _ _)⟩

theorem Part.smaller {e part : Expr} (h : Part e part) :
    part.longestText < e.longestText ∨
      part.longestText ≤ e.longestText ∧ sizeOf part < sizeOf e := by
  have indexed {value index : Expr} (among : part ∈ index.indexElements) :
      part.longestText ≤ (Expr.subscript value index).longestText ∧
        sizeOf part < sizeOf (Expr.subscript value index) := by
    obtain ⟨text, size⟩ := bounds_of_mem among
    obtain ⟨texts, sizes⟩ := Expr.bounds_indexElements value index
    exact ⟨Nat.le_trans text texts, Nat.lt_of_le_of_lt size sizes⟩
  cases h with
  | referred clean read => exact .inl (longestText_of_reference clean read)
  | alternative among present =>
      obtain ⟨text, size⟩ := bounds_of_mem among
      exact .inr ⟨Nat.le_trans text (Expr.longestTexts_alternatives_le _),
        Nat.lt_of_le_of_lt size (Expr.largest_alternatives_lt _ _)⟩
  | wrapped wrapper elements => exact .inr (Expr.bounds_of_indexElements _ elements)
  | member named among present => exact .inr (indexed among)
  | argument named plain among => exact .inr (indexed among)

theorem Part.precedes {e part : Expr} (h : Part e part) :
    Prod.Lex (· < ·) (· < ·) (part.longestText, sizeOf part) (e.longestText, sizeOf e) := by
  rcases h.smaller with shorter | ⟨noLonger, smaller⟩
  · exact .left _ _ shorter
  · rcases Nat.lt_or_eq_of_le noLonger with shorter | same
    · exact .left _ _ shorter
    · rw [same]
      exact .right _ smaller

theorem exists_describe_of_faultless (e : Expr)
    (faultless : ∀ part, Relation.ReflTransGen Part e part → ¬Faulty part) :
    ∃ type, describe e = .ok type :=
  (exists_describe_iff_parts e).mpr ⟨faultless e .refl, fun part among =>
    exists_describe_of_faultless part fun inner reached => faultless inner (.head among reached)⟩
termination_by (e.longestText, sizeOf e)
decreasing_by exact among.precedes

theorem exists_describe_iff (e : Expr) :
    (∃ type, describe e = .ok type) ↔
      ∀ part, Relation.ReflTransGen Part e part → ¬Faulty part := by
  refine ⟨fun described part reached => ?_, exists_describe_of_faultless e⟩
  have whole : ∃ type, describe part = .ok type := by
    induction reached with
    | refl => exact described
    | tail _ among ih => exact ((exists_describe_iff_parts _).mp ih).2 _ among
  exact ((exists_describe_iff_parts part).mp whole).1

end TypeRef

end SignatureLint

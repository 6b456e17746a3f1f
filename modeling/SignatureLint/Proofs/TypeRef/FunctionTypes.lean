import SignatureLint.Proofs.TypeRef.Commas

/-!
# Function types among the arguments

A type may have function types among its arguments, to any depth.  It is always taken for a type.
Its arguments are what stands between the commas at depth zero, as far as that is a type.  These are
the arguments that were written if the arrows leave the commas clear.
-/

namespace SignatureLint.TypeRef

/-! ## Texts -/

/-- A written type of which the arguments may be function types, or a function type of such
types. -/
inductive ArgumentTree where
  | node (markers : List Marker) (name : DottedName) (brackets : Brackets)
      (arguments : List ArgumentTree) (sign : Option NullSign)
  | function (parameters : List ArgumentTree) (result : ArgumentTree)

namespace ArgumentTree

mutual

def text : ArgumentTree → List Char
  | node markers name brackets arguments sign =>
      markers.flatMap Marker.text ++ (name.text ++ brackets.enclose (texts arguments)) ++
        NullSign.text sign
  | function parameters result =>
      ('(' :: Text.join [',', ' '] (texts parameters) ++ [')']) ++ (" -> ".toList ++ result.text)

def texts : List ArgumentTree → List (List Char)
  | [] => []
  | first :: rest => first.text :: texts rest

end

/-- What stands in the brackets around several arguments. -/
def inside (arguments : List ArgumentTree) : List Char :=
  Text.join [',', ' '] (texts arguments)

theorem texts_eq_map (trees : List ArgumentTree) : texts trees = trees.map text := by
  induction trees with
  | nil => rfl
  | cons first rest ih => rw [texts, ih, List.map_cons]

end ArgumentTree

/-! ## Texts that may stand as arguments -/

theorem getLast?_append_ne {front back : List Char} {sign : Char}
    (first : front.getLast? ≠ some sign) (second : back.getLast? ≠ some sign) :
    (front ++ back).getLast? ≠ some sign := by
  rw [List.getLast?_append]
  cases last : back.getLast? with
  | none => exact first
  | some c => rwa [last] at second

theorem getLast?_join_ne {parts : List (List Char)}
    (ends : ∀ part ∈ parts, part.getLast? ≠ some '-') :
    (Text.join [',', ' '] parts).getLast? ≠ some '-' := by
  induction parts with
  | nil => exact nofun
  | cons first rest ih =>
      obtain ⟨here, later⟩ := List.forall_mem_cons.mp ends
      cases rest with
      | nil => rwa [join_singleton]
      | cons second rest =>
          have separator : [',', ' '].getLast? ≠ some '-' := by decide
          rw [join_cons_cons]
          exact getLast?_append_ne here (getLast?_append_ne separator (ih later))

theorem withoutTips_join {parts : List (List Char)}
    (ends : ∀ part ∈ parts, part.getLast? ≠ some '-') :
    withoutTips (Text.join [',', ' '] parts) = Text.join [',', ' '] (parts.map withoutTips) := by
  induction parts with
  | nil => rfl
  | cons first rest ih =>
      obtain ⟨here, later⟩ := List.forall_mem_cons.mp ends
      cases rest with
      | nil => rw [List.map_singleton, join_singleton, join_singleton]
      | cons second rest =>
          rw [List.map_cons, List.map_cons, join_cons_cons, join_cons_cons,
            withoutTips_append fun last => absurd last here, withoutTips_cons (by simp),
            withoutTips_cons (by simp), ih later, List.map_cons]

theorem withoutTips_group {left right : Char} (opens : left ≠ '-') {parts : List (List Char)}
    (ends : ∀ part ∈ parts, part.getLast? ≠ some '-') :
    withoutTips (left :: Text.join [',', ' '] parts ++ [right]) =
      left :: Text.join [',', ' '] (parts.map withoutTips) ++ [right] := by
  have closing : withoutTips [right] = [right] := withoutTips_cons fun _ => nofun
  rw [List.cons_append, withoutTips_cons fun dash => absurd dash opens,
    withoutTips_append fun last => absurd last (getLast?_join_ne ends), withoutTips_join ends,
    closing, List.cons_append]

theorem withoutTips_enclose (brackets : Brackets) {parts : List (List Char)}
    (ends : ∀ part ∈ parts, part.getLast? ≠ some '-') :
    withoutTips (brackets.enclose parts) = brackets.enclose (parts.map withoutTips) := by
  cases parts with
  | nil => rfl
  | cons first rest => exact withoutTips_group (by cases brackets <;> decide) ends

theorem not_mem_markers (markers : List Marker) : '>' ∉ markers.flatMap Marker.text := by
  intro found
  obtain ⟨marker, -, found⟩ := List.mem_flatMap.mp found
  rcases List.mem_append.mp found with found | blank
  · rcases List.mem_append.mp found with name | argument
    · rcases List.mem_cons.mp name with sign | name
      · exact absurd sign (by decide)
      · exact DottedName.ne_of_mem name '>' (by decide) rfl
    · cases given : marker.argument with
      | none =>
          rw [given] at argument
          cases argument
      | some letters =>
          rw [given, MarkerArgument.text] at argument
          rcases List.mem_append.mp argument with inner | close
          · rcases List.mem_cons.mp inner with open_ | letter
            · exact absurd open_ (by decide)
            · exact absurd (letters.notBrackets '>' letter) (by decide)
          · exact absurd (List.mem_singleton.mp close) (by decide)
  · exact absurd (List.mem_singleton.mp blank) (by decide)

/-- What is written as a type may stand as an argument if its own arguments may. -/
theorem isArgument_written (markers : List Marker) (name : DottedName) (brackets : Brackets)
    {parts : List (List Char)} (arguments : ∀ part ∈ parts, IsArgument part)
    (sign : Option NullSign) :
    IsArgument (markers.flatMap Marker.text ++ (name.text ++ brackets.enclose parts) ++
      NullSign.text sign) where
  passes := by
    -- no tip of an arrow stands at the seams between the parts, so each part is passed by itself
    have signless : '>' ∉ NullSign.text sign := by rcases sign with _ | _ | _ <;> decide
    have nameless : '>' ∉ name.text := fun found =>
      DottedName.ne_of_mem found '>' (by decide) rfl
    have unopened : ∀ back, (name.text ++ back).head? ≠ some '>' := by
      intro back tip
      obtain ⟨c, more, shape⟩ := List.exists_cons_of_ne_nil name.text_ne_nil
      rw [shape] at tip nameless
      cases tip
      exact nameless List.mem_cons_self
    have unclosed : (brackets.enclose parts).head? ≠ some '>' := by
      cases parts <;> cases brackets <;> exact nofun
    rw [withoutTips_append fun _ tip => signless (List.mem_of_head? tip),
      withoutTips_append fun _ => unopened _, withoutTips_append fun _ => unclosed,
      withoutTips_eq_self (not_mem_markers markers), withoutTips_eq_self nameless,
      withoutTips_eq_self signless,
      withoutTips_enclose brackets fun part found => (arguments part found).ends]
    have inner := passes_enclose brackets
      (List.forall_mem_map.mpr fun part found => (arguments part found).passes)
    exact ((passes_markers markers).append ((passes_name name).append inner)).append
      (passes_sign sign)
  ends := by
    obtain ⟨c, last, closed⟩ := last_core name brackets parts
    have other : c ≠ '-' := by
      rcases closed with rfl | rfl | ⟨word, -⟩
      · decide
      · decide
      · exact ne_of_isWord word (by decide)
    refine getLast?_append_ne ?_ (by rcases sign with _ | _ | _ <;> decide)
    rw [List.getLast?_append, last, Option.some_or]
    exact fun same => other (Option.some.inj same)
  trimmed := trimmed_written markers name brackets parts sign
  filled := written_ne_nil markers name brackets parts sign

theorem isArgument_function {parts : List (List Char)}
    (parameters : ∀ part ∈ parts, IsArgument part) {result : List Char}
    (returned : IsArgument result) :
    IsArgument (('(' :: Text.join [',', ' '] parts ++ [')']) ++ (" -> ".toList ++ result)) where
  passes := by
    have arrow : withoutTips (" -> ".toList ++ result) = " - ".toList ++ withoutTips result :=
      withoutTips_append fun last => absurd last (by decide)
    have group : Passes 0 ('(' :: Text.join [',', ' '] (parts.map withoutTips) ++ [')']) :=
      Passes.group (by decide) (by decide)
        (passes_join (List.forall_mem_map.mpr fun part found => (parameters part found).passes))
    rw [withoutTips_append fun _ => by simp,
      withoutTips_group (by decide) fun part found => (parameters part found).ends, arrow]
    exact group.append ((Passes.of_all (by decide)).append returned.passes)
  ends := by
    have parenthesis : ('(' :: Text.join [',', ' '] parts ++ [')']).getLast? ≠ some '-' := by
      rw [List.getLast?_append, List.getLast?_singleton, Option.some_or]
      decide
    exact getLast?_append_ne parenthesis (getLast?_append_ne (by decide) returned.ends)
  trimmed := by
    have opening : Text.Trimmed ['('] := Text.Trimmed.of_all (by decide)
    have ends := Text.Trimmed.of_ends (Text.join [',', ' '] parts ++ ')' :: " -> ".toList) opening
      returned.trimmed (List.cons_ne_nil _ _) returned.filled
    simpa using ends
  filled := List.cons_ne_nil _ _

mutual

theorem ArgumentTree.isArgument_text : (tree : ArgumentTree) → IsArgument tree.text
  | node markers name brackets arguments sign => by
      rw [text]
      exact isArgument_written markers name brackets (isArgument_texts arguments) sign
  | function parameters result => by
      rw [text]
      exact isArgument_function (isArgument_texts parameters) result.isArgument_text

theorem ArgumentTree.isArgument_texts : (trees : List ArgumentTree) →
    ∀ part ∈ texts trees, IsArgument part
  | [] => List.forall_mem_nil _
  | first :: rest => List.forall_mem_cons.mpr ⟨first.isArgument_text, isArgument_texts rest⟩

end

/-! ## Reading -/

/-- The types that are read from texts, as far as these are types. -/
def readAll (parts : List (List Char)) : List TypeRef :=
  parts.filterMap fun part => ofText? (String.ofList part) none

theorem readAll_eq (parts : List (List Char)) : readAll parts = parts.filterMap parse := by
  simp only [readAll, ofText?_none, String.toList_ofList]

/--
A type with arguments, among which there may be function types, is always taken for a type.  Its
arguments are read from the pieces between the commas at depth zero.  These pieces are the arguments
that were written under the following condition and under no other: no comma between the arguments
has an arrow before it, and no comma within them has as many arrows before it as brackets around it.
Then no argument is lost.
-/
theorem arguments_of_ofText? (markers : List Marker) (name : DottedName) (brackets : Brackets)
    {arguments : List ArgumentTree} (given : arguments ≠ []) (sign : Option NullSign)
    (span : Option Span) :
    ∃ type, ofText?
        (String.ofList (ArgumentTree.node markers name brackets arguments sign).text) span =
          some type ∧
      type.arguments = readAll (splitArguments (ArgumentTree.inside arguments)) ∧
      (splitArguments (ArgumentTree.inside arguments) = ArgumentTree.texts arguments ↔
        CommasClear (ArgumentTree.inside arguments)) ∧
      (CommasClear (ArgumentTree.inside arguments) →
        type.arguments = readAll (ArgumentTree.texts arguments)) := by
  have written : ArgumentTree.texts arguments ≠ [] := by
    rw [ArgumentTree.texts_eq_map]
    exact fun none => given (List.map_eq_nil_iff.mp none)
  -- which pieces are read depends on the commas only, whatever the pieces are
  have clear := splitArguments_join_iff written (ArgumentTree.isArgument_texts arguments)
  have split : splitCore (name.text ++ brackets.enclose (ArgumentTree.texts arguments)) =
      some (name.text, some (ArgumentTree.inside arguments)) := by
    obtain ⟨first, rest, parts⟩ := List.exists_cons_of_ne_nil written
    rw [ArgumentTree.inside, parts]
    exact splitCore_enclosed name brackets _
  have read := parse_written markers name brackets _ sign split
  have found : ∃ type, ofText?
        (String.ofList (ArgumentTree.node markers name brackets arguments sign).text) span =
          some type ∧
      type.arguments = readAll (splitArguments (ArgumentTree.inside arguments)) := by
    rw [ofText?, String.toList_ofList, ArgumentTree.text, read, Option.map_some, readAll_eq]
    exact ⟨_, rfl, rfl⟩
  obtain ⟨type, taken, pieces⟩ := found
  refine ⟨type, taken, pieces, clear, fun apart => ?_⟩
  exact pieces.trans (congrArg readAll (clear.mpr apart))

def ArgumentTree.letter (c : Char) (word : Text.isWord c = true) : ArgumentTree :=
  .node [] ⟨[], ⟨[c], List.cons_ne_nil _ _, List.forall_mem_singleton.mpr word⟩⟩ .angle [] none

def pairName : DottedName :=
  ⟨[], ⟨['P', 'a', 'i', 'r'], List.cons_ne_nil _ _, List.all_eq_true.mp rfl⟩⟩

/-- The arguments of `Pair<A, (B) -> C>`. -/
def functionLast : List ArgumentTree :=
  [.letter 'A' rfl, .function [.letter 'B' rfl] (.letter 'C' rfl)]

/-- Nothing is lost before a function type. -/
theorem arguments_functionLast :
    functionLast ≠ [] ∧ CommasClear "A, (B) -> C".toList ∧
      ∃ type, ofText? "Pair<A, (B) -> C>" none = some type ∧
        type.arguments = readAll ["A".toList, "(B) -> C".toList] := by
  have given : functionLast ≠ [] := List.cons_ne_nil _ _
  obtain ⟨type, read, -, clear, whole⟩ := arguments_of_ofText? [] pairName .angle given none none
  have apart : CommasClear "A, (B) -> C".toList := clear.mp rfl
  exact ⟨given, apart, type, read, whole apart⟩

theorem parse_eq_none {text : List Char} (trimmed : Text.Trimmed text)
    (unmarked : splitMarkers text = ([], text)) (unsigned : splitNullability text = (false, text))
    (bare : splitCore text = some (text, none))
    (wordless : (Text.lastSegment text).all Text.isWord = false) : parse text = none := by
  have cut : splitCore (splitNullability (splitMarkers (Text.trim text)).2).2 =
      some (text, none) := by
    rw [trimmed.trim_eq, unmarked, unsigned, bare]
  rw [parse]
  dsimp only
  split
  · rfl
  · split
    · rfl
    · rename_i found
      rw [cut] at found
      obtain ⟨rfl, rfl⟩ := Prod.mk.inj (Option.some.inj found)
      rw [wordless, Bool.and_false]
      rfl

/-- The arguments of `Pair<(A) -> B, C>`. -/
def functionFirst : List ArgumentTree :=
  [.function [.letter 'A' rfl] (.letter 'B' rfl), .letter 'C' rfl]

def behindFunction : TypeTree :=
  .node [] ⟨[], ⟨['C'], List.cons_ne_nil _ _, List.all_eq_true.mp rfl⟩⟩ .angle [] none

/-- The type behind the function type is lost. -/
theorem not_arguments_functionFirst :
    ∃ type, ofText? "Pair<(A) -> B, C>" none = some type ∧ type.arguments = [] ∧
      readAll ["(A) -> B".toList, "C".toList] = [behindFunction.described] := by
  have function : parse "(A) -> B".toList = none :=
    parse_eq_none (Text.trimmed_trim "(A) -> B".toList) (by rw [splitMarkers]; rfl) rfl rfl rfl
  have uncut : parse "(A) -> B, C".toList = none :=
    parse_eq_none (Text.trimmed_trim "(A) -> B, C".toList) (by rw [splitMarkers]; rfl) rfl rfl rfl
  have read := parse_written [] pairName .angle (ArgumentTree.texts functionFirst) none
    (splitCore_enclosed pairName .angle (ArgumentTree.inside functionFirst))
  have pieces : splitArguments (ArgumentTree.inside functionFirst) = ["(A) -> B, C".toList] := rfl
  refine ⟨_, congrArg (Option.map _) read, ?_, ?_⟩
  · exact (congrArg (List.filterMap parse) pieces).trans (List.filterMap_cons_none uncut)
  · rw [readAll_eq, List.filterMap_cons_none function]
    exact List.filterMap_cons_some (parse_text behindFunction)

end SignatureLint.TypeRef

import SignatureLint.Proofs.Text.Words
import SignatureLint.Proofs.TypeRef.Grammar

/-!
# Reading a written type

Reading the text of a type tree gives the type that the tree describes.  Each
step of the reader undoes one part of the text: the markers, the sign of an
absent value, the brackets, and the commas between the arguments.  The commas of
an inner type are passed over because its brackets are balanced.
-/

namespace SignatureLint.TypeRef

/-! ## Letters -/

theorem ne_of_isWord {c sign : Char} (h : Text.isWord c = true)
    (shapes : Text.isWord sign = false) : c ≠ sign := by
  rintro rfl
  rw [h] at shapes
  cases shapes

namespace DottedName

theorem isNameChar_of_mem {name : DottedName} {c : Char} (h : c ∈ name.text) :
    isNameChar c = true := by
  unfold text at h
  rcases List.mem_append.mp h with qualifier | last
  · obtain ⟨segment, -, member⟩ := List.mem_flatMap.mp qualifier
    rcases List.mem_append.mp member with letter | stop
    · simp [isNameChar, segment.areWord c letter]
    · rw [List.mem_singleton.mp stop]
      decide
  · simp [isNameChar, name.last.areWord c last]

theorem ne_of_mem {name : DottedName} {c : Char} (h : c ∈ name.text) (sign : Char)
    (outside : isNameChar sign = false) : c ≠ sign := by
  rintro rfl
  rw [isNameChar_of_mem h] at outside
  cases outside

theorem text_ne_nil (name : DottedName) : name.text ≠ [] := by
  intro empty
  exact name.last.nonempty (List.append_eq_nil_iff.mp empty).2

theorem trimmed (name : DottedName) : Text.Trimmed name.text := by
  apply Text.Trimmed.of_forall
  intro c member
  have nameChar := isNameChar_of_mem member
  simp only [isNameChar, Bool.or_eq_true, beq_iff_eq] at nameChar
  rcases nameChar with word | rfl
  · exact Text.not_isBlank_of_isWord word
  · decide

theorem lastSegment_text (name : DottedName) :
    Text.lastSegment name.text = name.last.letters := by
  have noStop : ∀ c ∈ name.last.letters.reverse, (c != '.') = true := by
    intro c member
    have word := name.last.areWord c (List.mem_reverse.mp member)
    simpa using ne_of_isWord word (by decide)
  unfold Text.lastSegment text
  rw [List.reverse_append, List.takeWhile_append_of_pos noStop]
  rcases List.eq_nil_or_concat name.qualifiers with none | ⟨before, segment, some⟩
  · simp [none]
  · simp [some]

end DottedName

/-! ## Markers -/

theorem afterMarkerArgument?_text (argument : Option MarkerArgument) (rest : List Char) :
    (afterMarkerArgument? (MarkerArgument.text argument ++ ' ' :: rest)).getD
        (MarkerArgument.text argument ++ ' ' :: rest) = ' ' :: rest := by
  cases argument with
  | none => rfl
  | some argument =>
      have inside : ∀ c ∈ argument.letters, (c != ')') = true := by
        intro c member
        have notBracket := argument.notBrackets c member
        simp only [bne_iff_ne, ne_eq]
        rintro rfl
        cases notBracket
      simp only [MarkerArgument.text, List.cons_append, List.append_assoc, List.nil_append,
        afterMarkerArgument?]
      rw [List.dropWhile_append_of_pos inside]
      rfl

theorem head_argument_not_isNameChar (argument : Option MarkerArgument) (rest : List Char) :
    ∃ c more, MarkerArgument.text argument ++ ' ' :: rest = c :: more ∧ isNameChar c = false := by
  cases argument with
  | none => exact ⟨' ', rest, rfl, by decide⟩
  | some argument => exact ⟨'(', _, rfl, by decide⟩

theorem marker?_text (marker : Marker) (rest : List Char) :
    marker? (marker.text ++ rest) = some (marker.name.text, Text.trimStart rest) := by
  obtain ⟨c, more, split, outside⟩ := head_argument_not_isNameChar marker.argument rest
  have shape : marker.text ++ rest =
      '@' :: (marker.name.text ++ (MarkerArgument.text marker.argument ++ ' ' :: rest)) := by
    simp [Marker.text]
  have inside : ∀ c ∈ marker.name.text, isNameChar c = true :=
    fun c member => DottedName.isNameChar_of_mem member
  have name : (marker.name.text ++ (MarkerArgument.text marker.argument ++ ' ' :: rest)).takeWhile
      isNameChar = marker.name.text := by
    rw [List.takeWhile_append_of_pos inside, split, List.takeWhile_cons_of_neg (by simp [outside]),
      List.append_nil]
  have tail : (marker.name.text ++ (MarkerArgument.text marker.argument ++ ' ' :: rest)).dropWhile
      isNameChar = MarkerArgument.text marker.argument ++ ' ' :: rest := by
    rw [List.dropWhile_append_of_pos inside, split, List.dropWhile_cons_of_neg (by simp [outside])]
  have nonempty : marker.name.text.isEmpty = false := by
    simpa using marker.name.text_ne_nil
  rw [shape]
  simp only [marker?, name, tail, nonempty, Bool.false_eq_true, if_false,
    afterMarkerArgument?_text]
  simp [afterBlanks?, show Text.isBlank ' ' = true by decide]

theorem Marker.text_eq_cons (marker : Marker) : ∃ rest, marker.text = '@' :: rest :=
  ⟨_, rfl⟩

theorem marker?_eq_none {text : List Char} (h : ∀ c ∈ text.head?, c ≠ '@') :
    marker? text = none := by
  cases text with
  | nil => rfl
  | cons c rest =>
      have different := h c rfl
      unfold marker?
      split
      · rename_i heq
        injection heq with same
        exact absurd same different
      · rfl

theorem trimmed_markers_append {core : List Char} (markers : List Marker)
    (h : Text.Trimmed core) (nonempty : core ≠ []) :
    Text.Trimmed (markers.flatMap Marker.text ++ core) := by
  cases markers with
  | nil => exact h
  | cons first rest =>
      have sign : Text.Trimmed ['@'] := Text.Trimmed.of_all (by decide)
      obtain ⟨more, shape⟩ := first.text_eq_cons
      have ends := Text.Trimmed.of_ends (more ++ rest.flatMap Marker.text) sign h
        (List.cons_ne_nil _ _) nonempty
      simpa [shape] using ends

/-- The markers are split off, and only the last segments of their names are kept. -/
theorem splitMarkers_text (markers : List Marker) {core : List Char} (h : Text.Trimmed core)
    (nonempty : core ≠ []) (unmarked : ∀ c ∈ core.head?, c ≠ '@') :
    splitMarkers (markers.flatMap Marker.text ++ core) =
      (markers.map fun marker => marker.name.last.letters, core) := by
  induction markers with
  | nil =>
      rw [List.flatMap_nil, List.nil_append, splitMarkers]
      have none := marker?_eq_none unmarked
      split
      · rfl
      · rename_i found
        rw [none] at found
        cases found
  | cons first rest ih =>
      rw [List.flatMap_cons, List.append_assoc, splitMarkers]
      have found := marker?_text first (rest.flatMap Marker.text ++ core)
      split
      · rename_i missing
        rw [found] at missing
        cases missing
      · rename_i name after same
        rw [found] at same
        obtain ⟨rfl, rfl⟩ := Prod.mk.inj (Option.some.inj same)
        have trimmed := trimmed_markers_append rest h nonempty
        rw [trimmed.trimStart_eq, trimmed.trim_eq, ih]
        simp [DottedName.lastSegment_text]

/-! ## The sign of an absent value -/

theorem dropEnding?_append (front ending : List Char) :
    Text.dropEnding? ending (front ++ ending) = some front := by
  unfold Text.dropEnding?
  rw [if_pos (List.isSuffixOf_iff_suffix.mpr ⟨front, rfl⟩)]
  simp

theorem dropEnding?_eq_none {ending text : List Char} {c d : Char}
    (last : text.getLast? = some c) (expected : ending.getLast? = some d) (different : c ≠ d) :
    Text.dropEnding? ending text = none := by
  unfold Text.dropEnding?
  rw [if_neg]
  intro isSuffix
  obtain ⟨front, rfl⟩ := List.isSuffixOf_iff_suffix.mp isSuffix
  rw [List.getLast?_append, expected, Option.some_or] at last
  exact different (Option.some.inj last).symm

/-- A type without its markers and its sign ends with a letter of its name or a
closing bracket. -/
theorem splitNullability_plain {core : List Char} {c : Char} (last : core.getLast? = some c)
    (closed : c = '>' ∨ c = ']' ∨ Text.isWord c = true ∧ '|' ∉ core) :
    splitNullability core = (false, core) := by
  have noMark : Text.dropEnding? ['?'] core = none := by
    apply dropEnding?_eq_none last (d := '?') rfl
    rcases closed with rfl | rfl | ⟨word, -⟩
    · decide
    · decide
    · exact ne_of_isWord word (by decide)
  have noAlternative : Text.dropEnding? "| None".toList core = none := by
    rcases closed with rfl | rfl | ⟨-, noBar⟩
    · exact dropEnding?_eq_none last (d := 'e') rfl (by decide)
    · exact dropEnding?_eq_none last (d := 'e') rfl (by decide)
    · unfold Text.dropEnding?
      rw [if_neg]
      intro isSuffix
      obtain ⟨front, rfl⟩ := List.isSuffixOf_iff_suffix.mp isSuffix
      exact noBar (by simp)
  unfold splitNullability
  rw [noMark, noAlternative]

/-- The sign of an absent value is split off. -/
theorem splitNullability_text {core : List Char} {c : Char} (trimmed : Text.Trimmed core)
    (last : core.getLast? = some c)
    (closed : c = '>' ∨ c = ']' ∨ Text.isWord c = true ∧ '|' ∉ core) (sign : Option NullSign) :
    splitNullability (core ++ NullSign.text sign) = (sign.isSome, core) := by
  cases sign with
  | none =>
      rw [NullSign.text, List.append_nil]
      exact splitNullability_plain last closed
  | some sign =>
      cases sign with
      | questionMark =>
          simp only [splitNullability, NullSign.text, dropEnding?_append, trimmed.trim_eq,
            Option.isSome_some]
      | alternative =>
          have split : core ++ ' ' :: "| None".toList = (core ++ [' ']) ++ "| None".toList := by
            rw [List.append_assoc, List.singleton_append]
          have noMark : Text.dropEnding? ['?'] (core ++ ' ' :: "| None".toList) = none :=
            dropEnding?_eq_none (c := 'e') (by simp) (d := '?') rfl (by decide)
          -- the blank in front of the mark goes with it
          have blank : Text.trim (core ++ [' ']) = core := by
            have nonempty : core ≠ [] := by
              rintro rfl
              cases last
            have start : Text.trimStart (core ++ [' ']) = core ++ [' '] := by
              cases core with
              | nil => exact absurd rfl nonempty
              | cons d rest =>
                  unfold Text.trimStart
                  rw [List.cons_append, List.dropWhile_cons_of_neg]
                  rw [trimmed.head d rfl]
                  exact Bool.false_ne_true
            unfold Text.trim
            rw [start, Text.trimEnd_append_of_blank (List.forall_mem_singleton.mpr rfl),
              trimmed.trimEnd_eq]
          simp only [splitNullability, NullSign.text, noMark]
          rw [split, dropEnding?_append (core ++ [' ']) "| None".toList]
          simp only [blank, Option.isSome_some]

/-! ## Commas -/

/-- A text without a separator of its own at any depth of brackets from `low` on. -/
def Passes (low : Int) (text : List Char) : Prop :=
  ∀ depth, low ≤ depth → ∀ rest,
    splitAtDepth depth (text ++ rest) =
      (text ++ (splitAtDepth depth rest).1, (splitAtDepth depth rest).2)

namespace Passes

theorem nil (low : Int) : Passes low [] :=
  fun _ _ _ => rfl

theorem append {low : Int} {front back : List Char} (first : Passes low front)
    (second : Passes low back) : Passes low (front ++ back) := by
  intro depth deep rest
  rw [List.append_assoc, first depth deep, second depth deep, List.append_assoc]

theorem mono {low : Int} {text : List Char} (h : Passes low text) {high : Int} (le : low ≤ high) :
    Passes high text :=
  fun depth deep => h depth (Int.le_trans le deep)

theorem depthAfter_of_not_isBracket (depth : Int) {c : Char} (h : isBracket c = false) :
    depthAfter depth c = depth := by
  simp only [isBracket, List.contains_cons, List.contains_nil, Bool.or_false, Bool.or_eq_false_iff,
    beq_eq_false_iff_ne, ne_eq] at h
  simp [depthAfter, h]

theorem singleton {low : Int} {c : Char} (plain : isBracket c = false)
    (comma : c ≠ ',' ∨ 0 < low) : Passes low [c] := by
  intro depth deep rest
  have notSplit : (c == ',' && depth == 0) = false := by
    rcases comma with different | inside
    · simp [different]
    · have : depth ≠ 0 := by omega
      simp [this]
  simp [splitAtDepth, depthAfter_of_not_isBracket depth plain, notSplit]

theorem of_forall {low : Int} {text : List Char} (plain : ∀ c ∈ text, isBracket c = false)
    (comma : (∀ c ∈ text, c ≠ ',') ∨ 0 < low) : Passes low text := by
  induction text with
  | nil => exact nil low
  | cons c rest ih =>
      have here : Passes low [c] := by
        apply singleton (plain c List.mem_cons_self)
        rcases comma with different | inside
        · exact .inl (different c List.mem_cons_self)
        · exact .inr inside
      apply append here
      apply ih (fun d member => plain d (List.mem_cons_of_mem _ member))
      rcases comma with different | inside
      · exact .inl fun d member => different d (List.mem_cons_of_mem _ member)
      · exact .inr inside

theorem of_all {low : Int} {text : List Char}
    (plain : text.all (fun c => !isBracket c && c != ',') = true) : Passes low text := by
  have each : ∀ c ∈ text, isBracket c = false ∧ c ≠ ',' := by
    simpa using plain
  exact of_forall (fun c found => (each c found).1) (.inl fun c found => (each c found).2)

/-- A group in brackets is passed over together with the commas in it. -/
theorem group {low : Int} {left right : Char} {inner : List Char}
    (opens : ['<', '[', '('].contains left = true)
    (closes : ['>', ']', ')'].contains right = true) (h : Passes (low + 1) inner) :
    Passes low (left :: inner ++ [right]) := by
  intro depth deep rest
  have deeper : depthAfter depth left = depth + 1 := by
    rw [depthAfter, if_pos opens]
  have back : depthAfter (depth + 1) right = depth := by
    have notOpening : ['<', '[', '('].contains right = false := by
      simp only [List.contains_cons, List.contains_nil, Bool.or_false, Bool.or_eq_true,
        beq_iff_eq] at closes
      rcases closes with rfl | rfl | rfl <;> decide
    rw [depthAfter, notOpening, if_neg Bool.false_ne_true, if_pos closes]
    omega
  have leftNotComma : (left == ',') = false := by
    rw [beq_eq_false_iff_ne]
    rintro rfl
    cases opens
  have rightNotComma : (right == ',') = false := by
    rw [beq_eq_false_iff_ne]
    rintro rfl
    cases closes
  rw [List.cons_append, List.cons_append, splitAtDepth, deeper, List.append_assoc,
    h (depth + 1) (by omega), List.singleton_append, splitAtDepth, back]
  simp [leftNotComma, rightNotComma]

end Passes

theorem splitAtDepth_join (first : List Char) (rest : List (List Char))
    (h : ∀ part ∈ first :: rest, Passes 0 part) :
    splitAtDepth 0 (Text.join [',', ' '] (first :: rest)) = (first, rest.map (' ' :: ·)) := by
  induction rest generalizing first with
  | nil =>
      have passed := h first List.mem_cons_self 0 (Int.le_refl 0) []
      simpa [Text.join, splitAtDepth] using passed
  | cons second rest ih =>
      have passed := h first List.mem_cons_self 0 (Int.le_refl 0)
      have later := ih second fun part member => h part (List.mem_cons_of_mem _ member)
      have comma : depthAfter 0 ',' = 0 := by decide
      have blank : depthAfter 0 ' ' = 0 := by decide
      unfold Text.join at later ⊢
      rw [List.intercalate_cons_cons, List.append_assoc, passed]
      simp [splitAtDepth, comma, blank, later]

theorem splitArguments_eq {text first : List Char} {rest : List (List Char)}
    (cut : splitAtDepth 0 text = (first, rest.map (' ' :: ·)))
    (trimmed : ∀ part ∈ first :: rest, Text.Trimmed part)
    (filled : ∀ part ∈ first :: rest, part ≠ []) : splitArguments text = first :: rest := by
  have same : (first :: rest.map (' ' :: ·)).map Text.trim = first :: rest := by
    rw [List.map_cons, (trimmed first List.mem_cons_self).trim_eq, List.map_map]
    congr 1
    conv => rhs; rw [← List.map_id rest]
    apply List.map_congr_left
    intro part member
    have whole := trimmed part (List.mem_cons_of_mem _ member)
    show Text.trim (' ' :: part) = part
    rw [Text.trim, Text.trimStart_cons_of_isBlank (by decide), whole.trimStart_eq, whole.trimEnd_eq]
  have notBlank : ¬ (first :: rest).getLast? = some [] := by
    intro last
    exact filled [] (List.mem_of_getLast? last) rfl
  unfold splitArguments
  rw [cut]
  simp only [same]
  rw [if_neg notBlank]

theorem splitArguments_join {parts : List (List Char)} (nonempty : parts ≠ [])
    (passes : ∀ part ∈ parts, Passes 0 part) (trimmed : ∀ part ∈ parts, Text.Trimmed part)
    (filled : ∀ part ∈ parts, part ≠ []) :
    splitArguments (Text.join [',', ' '] parts) = parts := by
  obtain ⟨first, rest, rfl⟩ := List.exists_cons_of_ne_nil nonempty
  exact splitArguments_eq (splitAtDepth_join first rest passes) trimmed filled

theorem DottedName.not_opensArguments {name : DottedName} {c : Char} (h : c ∈ name.text) :
    (!opensArguments c) = true := by
  have angle := ne_of_mem h '<' (by decide)
  have square := ne_of_mem h '[' (by decide)
  simp [opensArguments, angle, square]

theorem splitCore_bare (name : DottedName) : splitCore name.text = some (name.text, none) := by
  have plain : ∀ c ∈ name.text, (!opensArguments c) = true :=
    fun c member => DottedName.not_opensArguments member
  have passed : (name.text ++ []).dropWhile (!opensArguments ·) = [] :=
    List.dropWhile_append_of_pos plain
  rw [List.append_nil] at passed
  unfold splitCore
  rw [passed]

theorem splitCore_enclosed (name : DottedName) (brackets : Brackets) (inside : List Char) :
    splitCore (name.text ++ (brackets.opening :: inside ++ [brackets.closing])) =
      some (name.text, some inside) := by
  have plain : ∀ c ∈ name.text, (!opensArguments c) = true :=
    fun c member => DottedName.not_opensArguments member
  have opens : ¬ (!opensArguments brackets.opening) = true := by
    cases brackets <;> decide
  have closes : closing brackets.opening = brackets.closing := by
    cases brackets <;> rfl
  have dropped : (brackets.opening :: (inside ++ [brackets.closing])).dropWhile
      (!opensArguments ·) = brackets.opening :: (inside ++ [brackets.closing]) :=
    List.dropWhile_cons_of_neg opens
  have taken : (brackets.opening :: (inside ++ [brackets.closing])).takeWhile
      (!opensArguments ·) = [] :=
    List.takeWhile_cons_of_neg opens
  unfold splitCore
  rw [List.dropWhile_append_of_pos plain, List.takeWhile_append_of_pos plain, List.cons_append,
    dropped, taken]
  simp [closes, name.trimmed.trim_eq]

/-! ## Whole types -/

/-- The type that a text spells, put together from what each step of the reader finds. -/
theorem parse_eq_some {text marked core name last : List Char} {names : List (List Char)}
    {nullable : Bool} {inside : Option (List Char)} (trimmed : Text.Trimmed text)
    (nonempty : text ≠ []) (markers : splitMarkers text = (names, marked))
    (sign : splitNullability marked = (nullable, core))
    (parts : splitCore core = some (name, inside)) (segment : Text.lastSegment name = last)
    (filled : last ≠ []) (word : ∀ c ∈ last, Text.isWord c = true) :
    parse text =
      some
        { text := String.ofList text
          rawName := String.ofList last
          arguments := ((inside.map splitArguments).getD []).filterMap parse
          nullable := nullable
          markers := NameSet.ofList (names.map String.ofList)
          coreText := String.ofList core } := by
  have isName : (!last.isEmpty && last.all Text.isWord) = true := by
    simpa [filled] using word
  -- the reader asks for what is left of the text after each step, so all steps are put together
  have cut : splitCore (splitNullability (splitMarkers (Text.trim text)).2).2 =
      some (name, inside) := by
    rw [trimmed.trim_eq, markers, sign, parts]
  rw [parse]
  simp only [trimmed.trim_eq, markers, sign, List.isEmpty_iff, nonempty, if_false]
  split
  · rename_i missing
    rw [cut] at missing
    cases missing
  · rename_i found
    rw [cut] at found
    obtain ⟨rfl, rfl⟩ := Prod.mk.inj (Option.some.inj found)
    rw [segment, if_pos isName]
    cases inside with
    | none => rfl
    | some inside => simp

theorem of_parse {written : List Char} {type : TypeRef} (h : parse written = some type) :
    type.span = none ∧ ∀ argument ∈ type.arguments, ∃ part, parse part = some argument := by
  rw [parse] at h
  dsimp only at h
  split at h
  · cases h
  · split at h
    · cases h
    · rename_i name inside cut
      split at h
      · cases h
        refine ⟨rfl, fun argument member => ?_⟩
        cases inside with
        | none => cases member
        | some inside =>
            obtain ⟨part, -, read⟩ := List.mem_filterMap.mp member
            exact ⟨part.1, read⟩
      · cases h

theorem ofText?_none (text : String) : ofText? text none = parse text.toList := by
  rw [ofText?]
  cases read : parse text.toList with
  | none => rfl
  | some type =>
      obtain ⟨spanless, -⟩ := of_parse read
      cases type
      cases spanless
      rfl

theorem trimmed_core (name : DottedName) (brackets : Brackets) (parts : List (List Char)) :
    Text.Trimmed (name.text ++ brackets.enclose parts) := by
  cases parts with
  | nil =>
      rw [Brackets.enclose, List.append_nil]
      exact name.trimmed
  | cons first rest =>
      have closing : Text.Trimmed [brackets.closing] := by
        apply Text.Trimmed.of_all
        cases brackets <;> decide
      have ends := Text.Trimmed.of_ends
        (brackets.opening :: Text.join [',', ' '] (first :: rest)) name.trimmed closing
        name.text_ne_nil (List.cons_ne_nil _ _)
      simpa [Brackets.enclose] using ends

theorem core_ne_nil (name : DottedName) (brackets : Brackets) (parts : List (List Char)) :
    name.text ++ brackets.enclose parts ≠ [] :=
  fun empty => name.text_ne_nil (List.append_eq_nil_iff.mp empty).1

theorem head_name_append (name : DottedName) (rest : List Char) :
    ∀ c ∈ (name.text ++ rest).head?, c ≠ '@' := by
  intro c first
  cases letters : name.text with
  | nil => exact absurd letters name.text_ne_nil
  | cons d more =>
      rw [letters] at first
      obtain rfl : d = c := Option.some.inj first
      have member : d ∈ name.text := letters ▸ List.mem_cons_self
      exact DottedName.ne_of_mem member _ (by decide)

theorem last_core (name : DottedName) (brackets : Brackets) (parts : List (List Char)) :
    ∃ c, (name.text ++ brackets.enclose parts).getLast? = some c ∧
      (c = '>' ∨ c = ']' ∨ Text.isWord c = true ∧ '|' ∉ name.text ++ brackets.enclose parts) := by
  cases parts with
  | nil =>
      have noBar : '|' ∉ name.text ++ brackets.enclose [] := by
        rw [Brackets.enclose, List.append_nil]
        exact fun bar => DottedName.ne_of_mem bar '|' (by decide) rfl
      have member := List.getLast_mem name.last.nonempty
      refine ⟨name.last.letters.getLast name.last.nonempty, ?_, .inr (.inr ⟨?_, noBar⟩)⟩
      · rw [Brackets.enclose, List.append_nil, DottedName.text, List.getLast?_append,
          List.getLast?_eq_some_getLast name.last.nonempty, Option.some_or]
      · exact name.last.areWord _ member
  | cons first rest =>
      refine ⟨brackets.closing, ?_, ?_⟩
      · rw [Brackets.enclose.eq_def, ← List.append_assoc, List.getLast?_append,
          List.getLast?_singleton, Option.some_or]
      cases brackets with
      | angle => exact .inl rfl
      | square => exact .inr (.inl rfl)

theorem trimmed_written (markers : List Marker) (name : DottedName) (brackets : Brackets)
    (parts : List (List Char)) (sign : Option NullSign) :
    Text.Trimmed (markers.flatMap Marker.text ++ (name.text ++ brackets.enclose parts) ++
      NullSign.text sign) := by
  have nonempty := core_ne_nil name brackets parts
  have front := trimmed_markers_append markers (trimmed_core name brackets parts) nonempty
  cases sign with
  | none =>
      rw [NullSign.text, List.append_nil]
      exact front
  | some sign =>
      cases sign with
      | questionMark => exact front.append (Text.Trimmed.of_all (by decide))
      | alternative =>
          have word : Text.Trimmed "None".toList := Text.Trimmed.of_all (by decide)
          have ends := Text.Trimmed.of_ends [' ', '|', ' '] front word
            (List.append_ne_nil_of_right_ne_nil _ nonempty) (by decide)
          simpa [NullSign.text] using ends

theorem written_ne_nil (markers : List Marker) (name : DottedName) (brackets : Brackets)
    (parts : List (List Char)) (sign : Option NullSign) :
    markers.flatMap Marker.text ++ (name.text ++ brackets.enclose parts) ++
      NullSign.text sign ≠ [] :=
  List.append_ne_nil_of_left_ne_nil
    (List.append_ne_nil_of_right_ne_nil _ (core_ne_nil name brackets parts)) _

theorem TypeTree.trimmed_text (tree : TypeTree) : Text.Trimmed tree.text := by
  cases tree with
  | node markers name brackets arguments sign =>
      rw [text]
      exact trimmed_written markers name brackets (texts arguments) sign

theorem TypeTree.text_ne_nil (tree : TypeTree) : tree.text ≠ [] := by
  cases tree with
  | node markers name brackets arguments sign =>
      rw [text]
      exact written_ne_nil markers name brackets (texts arguments) sign

/-- What is written as a type is read as one: the arguments are the pieces of what stands in the
brackets. -/
theorem parse_written (markers : List Marker) (name : DottedName) (brackets : Brackets)
    (parts : List (List Char)) (sign : Option NullSign) {inside : Option (List Char)}
    (split : splitCore (name.text ++ brackets.enclose parts) = some (name.text, inside)) :
    parse (markers.flatMap Marker.text ++ (name.text ++ brackets.enclose parts) ++
        NullSign.text sign) =
      some
        { text := String.ofList (markers.flatMap Marker.text ++
            (name.text ++ brackets.enclose parts) ++ NullSign.text sign)
          rawName := String.ofList name.last.letters
          arguments := ((inside.map splitArguments).getD []).filterMap parse
          nullable := sign.isSome
          markers :=
            NameSet.ofList (markers.map fun marker => String.ofList marker.name.last.letters)
          coreText := String.ofList (name.text ++ brackets.enclose parts) } := by
  have trimmed := trimmed_core name brackets parts
  have nonempty := core_ne_nil name brackets parts
  obtain ⟨c, last, closed⟩ := last_core name brackets parts
  have bare := trimmed_written [] name brackets parts sign
  rw [List.flatMap_nil, List.nil_append] at bare
  have marked := splitMarkers_text markers bare (List.append_ne_nil_of_left_ne_nil nonempty _)
    (by rw [List.append_assoc]; exact head_name_append name _)
  rw [← List.append_assoc] at marked
  rw [parse_eq_some (trimmed_written markers name brackets parts sign)
    (written_ne_nil markers name brackets parts sign) marked
    (splitNullability_text trimmed last closed sign) split name.lastSegment_text
    name.last.nonempty name.last.areWord, List.map_map]
  rfl

theorem passes_name (name : DottedName) : Passes 0 name.text := by
  apply Passes.of_forall
  · intro c member
    have outside := DottedName.ne_of_mem member
    simp [isBracket, outside '(' (by decide), outside ')' (by decide), outside '[' (by decide),
      outside ']' (by decide), outside '<' (by decide), outside '>' (by decide)]
  · exact .inl fun c member => DottedName.ne_of_mem member _ (by decide)

theorem passes_marker (marker : Marker) : Passes 0 marker.text := by
  have sign : Passes 0 ['@'] := Passes.singleton (by decide) (.inl (by decide))
  have blank : Passes 0 [' '] := Passes.singleton (by decide) (.inl (by decide))
  have argument : Passes 0 (MarkerArgument.text marker.argument) := by
    cases marker.argument with
    | none => exact Passes.nil 0
    | some argument =>
        exact Passes.group (by decide) (by decide)
          (Passes.of_forall argument.notBrackets (.inr (by decide)))
  exact ((sign.append (passes_name marker.name)).append argument).append blank

theorem passes_markers (markers : List Marker) : Passes 0 (markers.flatMap Marker.text) := by
  induction markers with
  | nil => exact Passes.nil 0
  | cons first rest ih => exact (passes_marker first).append ih

theorem passes_sign (sign : Option NullSign) : Passes 0 (NullSign.text sign) := by
  cases sign with
  | none => exact Passes.nil 0
  | some sign =>
      cases sign with
      | questionMark => exact Passes.singleton (by decide) (.inl (by decide))
      | alternative => exact Passes.of_all (by decide)

theorem passes_join {parts : List (List Char)} (h : ∀ part ∈ parts, Passes 0 part) :
    Passes 1 (Text.join [',', ' '] parts) := by
  have separator : Passes 1 ([','] ++ [' ']) :=
    (Passes.singleton (by decide) (.inr (by decide))).append
      (Passes.singleton (by decide) (.inl (by decide)))
  induction parts with
  | nil => exact Passes.nil 1
  | cons first rest ih =>
      have here := (h first List.mem_cons_self).mono (show 0 ≤ 1 by decide)
      have later := ih fun part member => h part (List.mem_cons_of_mem _ member)
      cases rest with
      | nil => simpa [Text.join] using here
      | cons second rest =>
          rw [Text.join, List.intercalate_cons_cons]
          exact (here.append separator).append later

theorem passes_enclose (brackets : Brackets) {parts : List (List Char)}
    (h : ∀ part ∈ parts, Passes 0 part) : Passes 0 (brackets.enclose parts) := by
  cases parts with
  | nil => exact Passes.nil 0
  | cons first rest =>
      cases brackets with
      | angle => exact Passes.group (by decide) (by decide) (passes_join h)
      | square => exact Passes.group (by decide) (by decide) (passes_join h)

mutual

theorem TypeTree.passes_text : (tree : TypeTree) → Passes 0 tree.text
  | node markers name brackets arguments sign => by
      have inner := passes_enclose brackets (TypeTree.passes_texts arguments)
      rw [text]
      exact ((passes_markers markers).append ((passes_name name).append inner)).append
        (passes_sign sign)

theorem TypeTree.passes_texts : (trees : List TypeTree) → ∀ part ∈ texts trees, Passes 0 part
  | [] => by
      intro part member
      cases member
  | first :: rest => by
      intro part member
      rcases List.mem_cons.mp member with rfl | later
      · exact TypeTree.passes_text first
      · exact TypeTree.passes_texts rest part later

end

theorem TypeTree.texts_eq_map (trees : List TypeTree) : texts trees = trees.map text := by
  induction trees with
  | nil => rfl
  | cons first rest ih => rw [texts, ih, List.map_cons]

theorem splitArguments_texts {trees : List TypeTree} (nonempty : trees ≠ []) :
    splitArguments (Text.join [',', ' '] (TypeTree.texts trees)) = TypeTree.texts trees := by
  have passes := TypeTree.passes_texts trees
  rw [TypeTree.texts_eq_map] at passes ⊢
  apply splitArguments_join
  · simpa using nonempty
  · exact passes
  · intro part member
    obtain ⟨tree, -, rfl⟩ := List.mem_map.mp member
    exact tree.trimmed_text
  · intro part member
    obtain ⟨tree, -, rfl⟩ := List.mem_map.mp member
    exact tree.text_ne_nil

mutual

theorem parse_text : (tree : TypeTree) → parse tree.text = some tree.described
  | .node markers name brackets arguments sign => by
      have inner := filterMap_parse_texts arguments
      cases arguments with
      | nil =>
          have parts : splitCore (name.text ++ brackets.enclose (TypeTree.texts [])) =
              some (name.text, none) := by
            rw [TypeTree.texts, Brackets.enclose, List.append_nil]
            exact splitCore_bare name
          rw [TypeTree.text, parse_written markers name brackets _ sign parts]
          rfl
      | cons first rest =>
          have parts := splitCore_enclosed name brackets
            (Text.join [',', ' '] (TypeTree.texts (first :: rest)))
          rw [TypeTree.text,
            parse_written markers name brackets (TypeTree.texts (first :: rest)) sign parts,
            Option.map_some, Option.getD_some,
            splitArguments_texts (List.cons_ne_nil _ _), inner]
          rfl

theorem filterMap_parse_texts :
    (trees : List TypeTree) → (TypeTree.texts trees).filterMap parse = TypeTree.describedAll trees
  | [] => rfl
  | first :: rest => by
      rw [TypeTree.texts, List.filterMap_cons, parse_text first, filterMap_parse_texts rest,
        TypeTree.describedAll]

end

/--
Reading undoes writing over the whole grammar: the text of a type tree, wherever
it stands in a file, is read as the type that the tree describes.
-/
theorem ofText?_text (tree : TypeTree) (span : Option Span) :
    ofText? (String.ofList tree.text) span = some { tree.described with span := span } := by
  unfold ofText?
  rw [String.toList_ofList, parse_text, Option.map_some]

end SignatureLint.TypeRef

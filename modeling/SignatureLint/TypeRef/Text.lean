import SignatureLint.Text.Class
import SignatureLint.TypeRef

/-!
# Types in plain text

A type is written as markers, a dotted name, arguments in angle or square
brackets, and a sign that an absent value is admitted:
`@Immutable kotlin.List<String>?` or `list[str] | None`.
-/

namespace SignatureLint.TypeRef

/-- A letter of a dotted name. -/
def isNameChar (c : Char) : Bool :=
  Text.isWord c || c == '.'

/-- What follows the bracketed argument of a marker, if it has a complete one. -/
def afterMarkerArgument? : List Char → Option (List Char)
  | '(' :: rest =>
      match rest.dropWhile (· != ')') with
      | _ :: after => some after
      | [] => none
  | _ => none

/-- A text that begins with a blank, without the blanks in front. -/
def afterBlanks? : List Char → Option (List Char)
  | c :: rest => if Text.isBlank c then some (Text.trimStart rest) else none
  | [] => none

/-- The dotted name of a marker in front of a type, and what follows the blanks
after the marker. -/
def marker? : List Char → Option (List Char × List Char)
  | '@' :: rest =>
      let name := rest.takeWhile isNameChar
      let tail := rest.dropWhile isNameChar
      if name.isEmpty then none
      else
        let after := (afterMarkerArgument? tail).getD tail
        (afterBlanks? after).map (name, ·)
  | _ => none

theorem length_afterMarkerArgument_le {text after : List Char}
    (h : afterMarkerArgument? text = some after) : after.length ≤ text.length := by
  unfold afterMarkerArgument? at h
  split at h
  · rename_i rest
    split at h
    · rename_i drop c tail eq
      have shorter := (List.dropWhile_suffix (l := rest) (· != ')')).length_le
      rw [eq] at shorter
      injection h with h
      subst h
      simp only [List.length_cons] at shorter ⊢
      omega
    · cases h
  · cases h

theorem length_afterBlanks_le {text after : List Char}
    (h : afterBlanks? text = some after) : after.length ≤ text.length := by
  unfold afterBlanks? at h
  split at h
  · split at h
    · injection h with h
      subst h
      have := Text.length_trimStart_le ‹List Char›
      simp only [List.length_cons]
      omega
    · cases h
  · cases h

theorem length_of_marker {text name after : List Char}
    (h : marker? text = some (name, after)) : after.length < text.length := by
  unfold marker? at h
  split at h
  · rename_i rest
    dsimp only at h
    split at h
    · cases h
    · obtain ⟨found, eq, pair⟩ := Option.map_eq_some_iff.mp h
      injection pair with _ same
      subst same
      have first := length_afterBlanks_le eq
      have tailShorter := (List.dropWhile_suffix (l := rest) isNameChar).length_le
      have second : ((afterMarkerArgument? (rest.dropWhile isNameChar)).getD
          (rest.dropWhile isNameChar)).length ≤ (rest.dropWhile isNameChar).length := by
        cases found : afterMarkerArgument? (rest.dropWhile isNameChar) with
        | none => simp
        | some after => simpa using length_afterMarkerArgument_le found
      simp only [List.length_cons]
      omega
  · cases h

/-- The last segments of the names of the markers before a type, and the bare type. -/
def splitMarkers (text : List Char) : List (List Char) × List Char :=
  match _ : marker? text with
  | none => ([], text)
  | some (name, after) =>
      let (names, core) := splitMarkers (Text.trim after)
      (Text.lastSegment name :: names, core)
termination_by text.length
decreasing_by
  have := length_of_marker ‹_›
  have := Text.length_trim_le after
  omega

/-- Whether a type admits an absent value, and the type without the sign for it. -/
def splitNullability (text : List Char) : Bool × List Char :=
  match Text.dropEnding? ['?'] text with
  | some core => (true, Text.trim core)
  | none =>
      match Text.dropEnding? "| None".toList text with
      | some core => (true, Text.trim core)
      | none => (false, text)

/-- The depth of brackets after one more character. -/
def depthAfter (depth : Int) (c : Char) : Int :=
  if ['<', '[', '('].contains c then depth + 1
  else if ['>', ']', ')'].contains c then depth - 1
  else depth

/-- The rest of the current argument and the arguments after it, at a depth of brackets. -/
def splitAtDepth (depth : Int) : List Char → List Char × List (List Char)
  | [] => ([], [])
  | c :: rest =>
      let after := depthAfter depth c
      let (current, later) := splitAtDepth after rest
      if c == ',' && after == 0 then ([], current :: later) else (c :: current, later)

/-- The arguments between the brackets of a type, separated by the commas that
stand in no brackets.  A blank last argument is none. -/
def splitArguments (text : List Char) : List (List Char) :=
  let (first, later) := splitAtDepth 0 text
  let parts := (first :: later).map Text.trim
  if parts.getLast? = some [] then parts.dropLast else parts

theorem length_le_of_mem_splitAtDepth {depth : Int} {text part : List Char}
    (h : part ∈ (splitAtDepth depth text).1 :: (splitAtDepth depth text).2) :
    part.length ≤ text.length := by
  induction text generalizing depth part with
  | nil => simp_all [splitAtDepth]
  | cons c rest ih =>
      simp only [splitAtDepth] at h
      split at h
      · rcases List.mem_cons.mp h with rfl | member
        · simp
        · exact Nat.le_succ_of_le (ih member)
      · rcases List.mem_cons.mp h with rfl | member
        · simpa using ih (List.mem_cons_self ..)
        · exact Nat.le_succ_of_le (ih (List.mem_cons_of_mem _ member))

theorem length_le_of_mem_splitArguments {text part : List Char}
    (h : part ∈ splitArguments text) : part.length ≤ text.length := by
  have inParts : part ∈
      ((splitAtDepth 0 text).1 :: (splitAtDepth 0 text).2).map Text.trim := by
    simp only [splitArguments] at h
    split at h
    · exact (List.dropLast_sublist _).subset h
    · exact h
  obtain ⟨raw, member, rfl⟩ := List.mem_map.mp inParts
  exact Nat.le_trans (Text.length_trim_le _) (length_le_of_mem_splitAtDepth member)

def closing (opening : Char) : Char :=
  if opening == '<' then '>' else ']'

def opensArguments (c : Char) : Bool :=
  c == '<' || c == '['

/-- A type without markers and nullability: its name, and the text between the
brackets after it. -/
def splitCore (core : List Char) : Option (List Char × Option (List Char)) :=
  match core.dropWhile (!opensArguments ·) with
  | [] => some (core, none)
  | opening :: inside =>
      if inside.getLast? = some (closing opening) then
        some (Text.trim (core.takeWhile (!opensArguments ·)), some inside.dropLast)
      else none

theorem length_of_splitCore {core name inside : List Char}
    (h : splitCore core = some (name, some inside)) : inside.length < core.length := by
  unfold splitCore at h
  split at h
  · cases h
  · rename_i opening rest eq
    split at h
    · rename_i ending
      injection h with h
      injection h with _ h
      injection h with h
      have shorter := (List.dropWhile_suffix (l := core) (!opensArguments ·)).length_le
      rw [eq] at shorter
      subst h
      simp only [List.length_cons, List.length_dropLast] at shorter ⊢
      omega
    · cases h

theorem length_splitMarkers_le (text : List Char) :
    (splitMarkers text).2.length ≤ text.length := by
  fun_induction splitMarkers text with
  | case1 => exact Nat.le_refl _
  | case2 text name after h names core eq ih =>
      rw [eq] at ih
      have := length_of_marker ‹_›
      have := Text.length_trim_le after
      simp only at ih ⊢
      omega

theorem length_dropEnding_le {ending text core : List Char}
    (h : Text.dropEnding? ending text = some core) : core.length ≤ text.length := by
  unfold Text.dropEnding? at h
  split at h
  · injection h with h
    subst h
    simp only [List.length_take]
    omega
  · cases h

theorem length_splitNullability_le (text : List Char) :
    (splitNullability text).2.length ≤ text.length := by
  unfold splitNullability
  split
  · exact Nat.le_trans (Text.length_trim_le _) (length_dropEnding_le ‹_›)
  · split
    · exact Nat.le_trans (Text.length_trim_le _) (length_dropEnding_le ‹_›)
    · exact Nat.le_refl _

/-- The type that a text spells, `none` if the text is no type.  Arguments that
are no types are left out. -/
def parse (written : List Char) : Option TypeRef :=
  let whole := Text.trim written
  if whole.isEmpty then none
  else
    let marked := splitMarkers whole
    let nullability := splitNullability marked.2
    match h : splitCore nullability.2 with
    | none => none
    | some (name, inside) =>
        let arguments :=
          match inside with
          | none => []
          | some inside => (splitArguments inside).attach.filterMap fun part => parse part.1
        let rawName := Text.lastSegment name
        if !rawName.isEmpty && rawName.all Text.isWord then
          some
            { text := String.ofList whole
              rawName := String.ofList rawName
              arguments := arguments
              nullable := nullability.1
              markers := NameSet.ofList (marked.1.map String.ofList)
              coreText := String.ofList nullability.2 }
        else none
termination_by written.length
decreasing_by
  have := length_le_of_mem_splitArguments part.2
  have := length_of_splitCore h
  have := length_splitNullability_le (splitMarkers (Text.trim written)).2
  have := length_splitMarkers_le (Text.trim written)
  have := Text.length_trim_le written
  simp only [nullability, marked, whole] at *
  omega

/-- The type that a text spells, with its place in a file. -/
def ofText? (text : String) (span : Option Span) : Option TypeRef :=
  (parse text.toList).map ({ · with span := span })

end SignatureLint.TypeRef

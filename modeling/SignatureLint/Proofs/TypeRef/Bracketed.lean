import SignatureLint.Proofs.Text.Words
import SignatureLint.TypeRef

/-!
# The part of a text in brackets

The part of a text in brackets stands from the first opening bracket to the last closing one.
There is such a part exactly if a closing bracket stands behind an opening one, and blanks around
the text say nothing about it.  The arguments of a type are looked for twice in this way: between
angle brackets, wherever these stand, and only then between square ones.
-/

namespace SignatureLint.TypeRef

/-- An opening bracket with a closing one behind it, with anything between them. -/
def Spans (opening closing : Char) (text : List Char) : Prop :=
  ∃ front inside after, text = front ++ opening :: (inside ++ closing :: after)

variable {opening closing : Char} {text front inside after : List Char}

theorem not_spans_of_not_mem (missing : opening ∉ text) : ¬Spans opening closing text := by
  rintro ⟨front, inside, after, rfl⟩
  exact missing (List.mem_append_right front List.mem_cons_self)

theorem Spans.exists_outermost (spans : Spans opening closing text) :
    ∃ front inside after, text = front ++ opening :: (inside ++ closing :: after) ∧
      opening ∉ front ∧ closing ∉ after := by
  obtain ⟨before, between, behind, rfl⟩ := spans
  obtain ⟨front, more, left, first⟩ := List.eq_append_cons_of_mem
    (show opening ∈ before ++ [opening] from List.mem_append_right _ List.mem_cons_self)
  obtain ⟨tail, others, right, last⟩ := List.eq_append_cons_of_mem
    (show closing ∈ (closing :: behind).reverse from List.mem_reverse.mpr List.mem_cons_self)
  have closed : closing :: behind = others.reverse ++ closing :: tail.reverse := by
    rw [← List.reverse_reverse (closing :: behind), right]
    simp
  refine ⟨front, more ++ between ++ others.reverse, tail.reverse, ?_, first,
    fun member => last (List.mem_reverse.mp member)⟩
  calc before ++ opening :: (between ++ closing :: behind)
      = (before ++ [opening]) ++ (between ++ closing :: behind) := by simp
    _ = (front ++ opening :: more) ++
          (between ++ (others.reverse ++ closing :: tail.reverse)) := by rw [left, closed]
    _ = front ++ opening :: (more ++ between ++ others.reverse ++ closing :: tail.reverse) := by
        simp

theorem dropWhile_ne_append {sign : Char} (missing : sign ∉ front) (rest : List Char) :
    (front ++ rest).dropWhile (· != sign) = rest.dropWhile (· != sign) := by
  apply List.dropWhile_append_of_pos
  intro c member
  rw [bne_iff_ne]
  rintro rfl
  exact missing member

theorem dropWhile_ne_cons (sign : Char) (rest : List Char) :
    (sign :: rest).dropWhile (· != sign) = sign :: rest :=
  List.dropWhile_cons_of_neg (by simp)

theorem dropWhile_ne_eq_nil {sign : Char} (missing : sign ∉ text) :
    text.dropWhile (· != sign) = [] := by
  have whole := dropWhile_ne_append missing []
  rwa [List.append_nil, List.dropWhile_nil] at whole

theorem bracketed?_outermost (first : opening ∉ front) (last : closing ∉ after) :
    bracketed? opening closing (front ++ opening :: (inside ++ closing :: after)) =
      some (opening :: (inside ++ [closing])) := by
  have backwards : (opening :: (inside ++ closing :: after)).reverse =
      after.reverse ++ closing :: (opening :: inside).reverse := by simp
  have cut : ((opening :: (inside ++ closing :: after)).reverse.dropWhile
      (· != closing)).reverse = opening :: (inside ++ [closing]) := by
    rw [backwards, dropWhile_ne_append (fun member => last (List.mem_reverse.mp member)),
      dropWhile_ne_cons]
    simp
  simp only [bracketed?, dropWhile_ne_append first, dropWhile_ne_cons, cut]

theorem bracketed?_eq_none (different : opening ≠ closing) (h : ¬Spans opening closing text) :
    bracketed? opening closing text = none := by
  by_cases opened : opening ∈ text
  · obtain ⟨front, rest, rfl, first⟩ := List.eq_append_cons_of_mem opened
    have unclosed : closing ∉ (opening :: rest).reverse := by
      intro member
      rcases List.mem_cons.mp (List.mem_reverse.mp member) with rfl | member
      · exact different rfl
      · obtain ⟨inside, after, rfl⟩ := List.append_of_mem member
        exact h ⟨front, inside, after, rfl⟩
    simp only [bracketed?, dropWhile_ne_append first, dropWhile_ne_cons,
      dropWhile_ne_eq_nil unclosed, List.reverse_nil]
  · simp only [bracketed?, dropWhile_ne_eq_nil opened]

theorem bracketed?_eq_none_iff (different : opening ≠ closing) :
    bracketed? opening closing text = none ↔ ¬Spans opening closing text := by
  refine ⟨fun found spans => ?_, bracketed?_eq_none different⟩
  obtain ⟨front, inside, after, rfl, first, last⟩ := spans.exists_outermost
  rw [bracketed?_outermost first last] at found
  cases found

theorem bracketed?_eq_some (different : opening ≠ closing) {group : List Char}
    (found : bracketed? opening closing text = some group) :
    ∃ inside, group = opening :: (inside ++ [closing]) := by
  by_cases spans : Spans opening closing text
  · obtain ⟨front, inside, after, rfl, first, last⟩ := spans.exists_outermost
    rw [bracketed?_outermost first last] at found
    exact ⟨inside, (Option.some.inj found).symm⟩
  · rw [bracketed?_eq_none different spans] at found
    cases found

theorem bracketed?_between {left right : List Char} (before : opening ∉ left)
    (behind : opening ∉ right) (closed : closing ∉ right) (text : List Char) :
    bracketed? opening closing (left ++ (text ++ right)) = bracketed? opening closing text := by
  by_cases opened : opening ∈ text
  · obtain ⟨front, rest, rfl, first⟩ := List.eq_append_cons_of_mem opened
    have cut : (opening :: (rest ++ right)).reverse.dropWhile (· != closing) =
        (opening :: rest).reverse.dropWhile (· != closing) := by
      rw [← List.cons_append, List.reverse_append,
        dropWhile_ne_append fun member => closed (List.mem_reverse.mp member)]
    simp only [bracketed?, dropWhile_ne_append before, List.append_assoc, List.cons_append,
      dropWhile_ne_append first, dropWhile_ne_cons, cut]
    cases ((opening :: rest).reverse.dropWhile (· != closing)).reverse <;> rfl
  · have unopened : opening ∉ text ++ right :=
      fun member => (List.mem_append.mp member).elim opened behind
    simp only [bracketed?, dropWhile_ne_append before, dropWhile_ne_eq_nil opened,
      dropWhile_ne_eq_nil unopened]

theorem bracketed?_trim (opens : Text.isBlank opening = false)
    (closes : Text.isBlank closing = false) (text : List Char) :
    bracketed? opening closing (Text.trim text) = bracketed? opening closing text := by
  obtain ⟨blanks, blank, whole⟩ := Text.exists_blanks_trimEnd (Text.trimStart text)
  have parts : text.takeWhile Text.isBlank ++ (Text.trim text ++ blanks) = text := by
    rw [Text.trim, ← whole, Text.trimStart, List.takeWhile_append_dropWhile]
  have outside {c : Char} (other : Text.isBlank c = false) {cut : List Char}
      (only : ∀ d ∈ cut, Text.isBlank d = true) : c ∉ cut := by
    intro member
    rw [only c member] at other
    cases other
  have front : ∀ d ∈ text.takeWhile Text.isBlank, Text.isBlank d = true :=
    List.all_eq_true.mp List.all_takeWhile
  have same := bracketed?_between (outside opens front) (outside opens blank)
    (outside closes blank) (Text.trim text)
  rw [parts] at same
  exact same.symm

/-- The arguments of a type stand between angle brackets if it has any, wherever they stand, and
between square ones otherwise. -/
theorem argumentText_eq {type : TypeRef} {core : List Char}
    (coreText : type.coreText = String.ofList core) (filled : core ≠ []) :
    type.argumentText = String.ofList
      ((bracketed? '<' '>' core).getD ((bracketed? '[' ']' core).getD [])) := by
  have nonempty : type.coreText.isEmpty = false := by
    rw [coreText]
    simpa using filled
  unfold argumentText
  rw [nonempty, coreText]
  have angle : bracketed? '<' '>' (Text.trim core) = bracketed? '<' '>' core :=
    bracketed?_trim (by decide) (by decide) core
  have square : bracketed? '[' ']' (Text.trim core) = bracketed? '[' ']' core :=
    bracketed?_trim (by decide) (by decide) core
  simp only [Bool.false_eq_true, if_false, String.toList_ofList, angle, square]
  cases bracketed? '<' '>' core with
  | none => rfl
  | some group => rfl

end SignatureLint.TypeRef

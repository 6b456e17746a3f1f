import Mathlib.Data.List.TakeWhile
import SignatureLint.Console.Markup
import SignatureLint.Proofs.Outcome
import SignatureLint.Proofs.Text.Words

/-!
# What is shown of markup

A text that holds no tag, no escaped bracket, no code of an emoji and no dropped character is shown
as it is.  Tags around a text are not shown, and what comes after them is shown as it would be
alone.
-/

namespace SignatureLint.Console

/-! ## Plain parts -/

def isInside (c : Char) : Bool :=
  c != '[' && c != ']'

/-- A character that has to do with no tag and is not dropped. -/
def isPlain (c : Char) : Bool :=
  isInside c && c != '\\' && !isDropped c

theorem isPlain_iff {c : Char} :
    isPlain c = true ↔ isInside c = true ∧ c ≠ '\\' ∧ isDropped c = false := by
  rw [isPlain, Bool.and_eq_true, Bool.and_eq_true, bne_iff_ne, Bool.not_eq_true', and_assoc]

/-- A text in which no bracket begins a tag. -/
def Untagged (text : List Char) : Prop :=
  ∀ front rest, text = front ++ '[' :: rest → tagBody? rest = none

/-- A text in which no two colons enclose the name of an emoji. -/
def Nameless (text : List Char) : Prop :=
  ∀ front body rest, text = front ++ ':' :: (body ++ ':' :: rest) →
    (∀ c ∈ body, c ≠ ':' ∧ Text.isBlank c = false) → emojiOf? body = none

/-- A text that is shown as it is: without tags and codes, with no backslash in front of a bracket,
and with no character that is dropped. -/
structure Unmarked (text : List Char) : Prop where
  untagged : Untagged text
  unescaped : ∀ front rest, text ≠ front ++ '\\' :: '[' :: rest
  nameless : Nameless text
  kept : ∀ c ∈ text, isDropped c = false

theorem Untagged.tail {c : Char} {rest : List Char} (untagged : Untagged (c :: rest)) :
    Untagged rest :=
  fun front after whole => untagged (c :: front) after (by rw [whole]; rfl)

theorem Nameless.tail {c : Char} {rest : List Char} (nameless : Nameless (c :: rest)) :
    Nameless rest :=
  fun front body after whole => nameless (c :: front) body after (by rw [whole]; rfl)

theorem unescaped_cons {c : Char} (other : c ≠ '\\') (rest : List Char) :
    Console.unescaped (c :: rest) = c :: Console.unescaped rest := by
  rw [Console.unescaped]
  rintro after rfl
  exact absurd rfl other

theorem unescaped_eq_self {text : List Char}
    (escapeless : ∀ front rest, text ≠ front ++ '\\' :: '[' :: rest) :
    Console.unescaped text = text := by
  induction text with
  | nil => rfl
  | cons c rest ih =>
      have later := ih fun front after whole =>
        escapeless (c :: front) after (by rw [whole]; rfl)
      rw [Console.unescaped, later]
      rintro after rfl rfl
      exact escapeless [] after rfl

theorem eq_append_of_emojiBody? {text body : List Char} (found : emojiBody? text = some body) :
    (∀ c ∈ body, c ≠ ':' ∧ Text.isBlank c = false) ∧
      text = body ++ ':' :: text.drop (body.length + 1) := by
  rw [emojiBody?, Option.ite_none_right_eq_some, beq_iff_eq, Option.some_inj] at found
  obtain ⟨closed, body_eq⟩ := found
  rw [body_eq] at closed
  constructor
  · intro c member
    rw [← body_eq] at member
    have kept := List.mem_takeWhile_imp member
    rwa [Bool.and_eq_true, bne_iff_ne, Bool.not_eq_true'] at kept
  · obtain ⟨rest, after⟩ := List.head?_eq_some_iff.mp closed
    have whole : text = body ++ text.drop body.length := by
      rw [← body_eq, Text.drop_length_takeWhile, List.takeWhile_append_dropWhile]
    rw [← List.drop_drop, after, List.drop_one, List.tail_cons, ← after]
    exact whole

theorem withEmoji_eq_self {text : List Char} (nameless : Nameless text) :
    withEmoji text = text := by
  fun_induction withEmoji text with
  | case1 => rfl
  | case2 rest none ih => exact congrArg _ (ih nameless.tail)
  | case3 rest body found shown ih =>
      obtain ⟨inside, whole⟩ := eq_append_of_emojiBody? found
      have later := ih fun front body' after whole' =>
        nameless (':' :: (body ++ ':' :: front)) body' after (by
          rw [whole, whole', List.cons_append, List.append_assoc]
          rfl)
      have unknown : shown = ':' :: (body ++ [':']) :=
        congrArg (Option.getD · _)
          (nameless [] body (rest.drop (body.length + 1)) (congrArg _ whole) inside)
      rw [later, unknown, List.cons_append, List.append_assoc, List.singleton_append, ← whole]
  | case4 c rest other ih => exact congrArg _ (ih nameless.tail)

theorem shown_eq_self {text : List Char} (unmarked : Unmarked text) : shown text = text := by
  rw [shown, unescaped_eq_self unmarked.unescaped, withEmoji_eq_self unmarked.nameless]
  exact List.filter_eq_self.mpr fun c found => by rw [unmarked.kept c found]; rfl

theorem shown_nil : shown [] = [] := by
  rw [shown, Console.unescaped, withEmoji]
  rfl

theorem shown_blank (text : List Char) : shown (' ' :: text) = ' ' :: shown text := by
  rw [shown, unescaped_cons (by decide), withEmoji, if_neg (by decide)]
  rfl

/-! ## Tags -/

/-- The tag with which a text begins, perhaps behind backslashes. -/
def leadingTag? (text : List Char) : Option (List Char) :=
  let backslashes := (text.takeWhile (· == '\\')).length
  if (text.drop backslashes).head? == some '[' then tagBody? (text.drop (backslashes + 1)) else none

variable {position position' : Nat} {plain : List Char} {c : Char} {rest : List Char}

theorem markupPieces_cons (none : leadingTag? (c :: rest) = none) :
    markupPieces position plain (c :: rest) = markupPieces (position + 1) (c :: plain) rest := by
  rw [leadingTag?] at none
  rw [markupPieces]
  dsimp only at none ⊢
  rw [none]

theorem markupPieces_leadingTag {body : List Char} (tag : leadingTag? (c :: rest) = some body) :
    markupPieces position plain (c :: rest) =
      plainPiece plain.reverse ++
        (taggedPieces ((c :: rest).takeWhile (· == '\\')).length position body ++
          markupPieces (position + ((c :: rest).takeWhile (· == '\\')).length + body.length + 2) []
            (rest.drop (((c :: rest).takeWhile (· == '\\')).length + body.length + 1))) := by
  rw [leadingTag?] at tag
  rw [markupPieces]
  dsimp only at tag ⊢
  rw [tag]
  exact List.append_assoc _ _ _

theorem leadingTag?_eq_none {text : List Char} (untagged : Untagged text) :
    leadingTag? text = none := by
  unfold leadingTag?
  extract_lets backslashes
  split
  · rename_i bracket
    obtain ⟨after, found⟩ := List.head?_eq_some_iff.mp (beq_iff_eq.mp bracket)
    rw [← List.drop_drop, found]
    refine untagged (text.takeWhile (· == '\\')) after ?_
    rw [← found, Text.drop_length_takeWhile, List.takeWhile_append_dropWhile]
  · rfl

theorem markupPieces_of_untagged {text : List Char} (untagged : Untagged text) :
    markupPieces position plain text = plainPiece (plain.reverse ++ text) := by
  induction text generalizing position plain with
  | nil => rw [markupPieces, List.append_nil]
  | cons c rest ih =>
      rw [markupPieces_cons (leadingTag?_eq_none untagged), ih untagged.tail, List.reverse_cons,
        List.append_assoc, List.singleton_append]

theorem markupPieces_append {front : List Char} (plains : front.all isPlain = true)
    (rest : List Char) :
    markupPieces position plain (front ++ rest) =
      markupPieces (position + front.length) (front.reverse ++ plain) rest := by
  induction front generalizing position plain with
  | nil => rfl
  | cons c front ih =>
      rw [List.all_cons, Bool.and_eq_true] at plains
      obtain ⟨inside, backslash, -⟩ := isPlain_iff.mp plains.1
      have bracket : c ≠ '[' := by
        rintro rfl
        exact absurd inside (by decide)
      have none : leadingTag? (c :: (front ++ rest)) = none := by
        rw [leadingTag?, List.takeWhile_cons_of_neg (by simpa using backslash)]
        exact if_neg (by simpa using bracket)
      rw [List.cons_append, markupPieces_cons none, ih plains.2, List.length_cons,
        List.reverse_cons, List.append_assoc, List.singleton_append, Nat.add_right_comm,
        Nat.add_assoc]

theorem markupPieces_bracket (body : List Char)
    (tag : tagBody? (body ++ ']' :: rest) = some body) :
    markupPieces position plain ('[' :: (body ++ ']' :: rest)) =
      plainPiece plain.reverse ++
        .tag body position :: markupPieces (position + body.length + 2) [] rest := by
  have leading : leadingTag? ('[' :: (body ++ ']' :: rest)) = some body := tag
  have none : ('[' :: (body ++ ']' :: rest)).takeWhile (· == '\\') = [] := rfl
  have after : (body ++ ']' :: rest).drop (0 + body.length + 1) = rest := by
    rw [Nat.zero_add, ← List.drop_drop, List.drop_left, List.drop_one, List.tail_cons]
  rw [markupPieces_leadingTag leading, none, List.length_nil, after]
  rfl

/-! ## What is shown -/

/-- What is shown of parts inside some open tags, unless a tag cannot be closed. -/
def shown? (isOpen : List OpenTag) (pieces : List MarkupPiece) : Option (List Char) :=
  (showPieces isOpen pieces).toOption

variable {isOpen : List OpenTag}

theorem shown?_plain (text : List Char) (rest : List MarkupPiece) :
    shown? isOpen (.plain text :: rest) = (shown? isOpen rest).map (shown text ++ ·) := by
  rw [shown?, showPieces, shown?]
  cases showPieces isOpen rest <;> rfl

theorem shown?_plainPiece (text : List Char) (rest : List MarkupPiece) :
    shown? isOpen (plainPiece text ++ rest) = (shown? isOpen rest).map (shown text ++ ·) := by
  cases text with
  | nil =>
      rw [shown_nil]
      change shown? isOpen rest = _
      cases shown? isOpen rest <;> rfl
  | cons c text => exact shown?_plain (c :: text) rest

theorem shown?_tag (body : List Char) (rest : List MarkupPiece) :
    shown? isOpen (.tag body position :: rest) =
      (afterTag isOpen body 0).toOption.bind (shown? · rest) := by
  have anywhere : (afterTag isOpen body position).toOption =
      (afterTag isOpen body 0).toOption := by
    unfold afterTag
    split
    · split
      · cases isOpen <;> rfl
      · dsimp only
        split <;> rfl
    · rfl
  rw [← anywhere, shown?, showPieces]
  cases afterTag isOpen body position <;> rfl

theorem shown?_blank (position : Nat) (plain text : List Char) :
    shown? isOpen (markupPieces position (plain ++ [' ']) text) =
      (shown? isOpen (markupPieces position plain text)).map (' ' :: ·) := by
  have front (plain : List Char) (others : List MarkupPiece) :
      shown? isOpen (plainPiece (plain ++ [' ']).reverse ++ others) =
        (shown? isOpen (plainPiece plain.reverse ++ others)).map (' ' :: ·) := by
    rw [List.reverse_append, List.reverse_singleton, List.singleton_append, shown?_plainPiece,
      shown?_plainPiece, shown_blank, Option.map_map]
    rfl
  induction text generalizing position plain with
  | nil =>
      rw [markupPieces, markupPieces, ← List.append_nil (plainPiece _), front, List.append_nil]
  | cons c rest ih =>
      cases tag : leadingTag? (c :: rest) with
      | none => rw [markupPieces_cons tag, markupPieces_cons tag, ← ih, List.cons_append]
      | some body => rw [markupPieces_leadingTag tag, markupPieces_leadingTag tag, front]

/-- It does not matter where a text begins. -/
theorem shown?_markupPieces (position position' : Nat) (text : List Char) :
    shown? isOpen (markupPieces position plain text) =
      shown? isOpen (markupPieces position' plain text) := by
  induction size : text.length using Nat.strong_induction_on
    generalizing isOpen position position' plain text with
  | _ size ih =>
      cases text with
      | nil => rw [markupPieces, markupPieces]
      | cons c rest =>
          rw [List.length_cons] at size
          cases tag : leadingTag? (c :: rest) with
          | none =>
              rw [markupPieces_cons tag, markupPieces_cons tag]
              exact ih rest.length (by omega) _ _ rest rfl
          | some body =>
              -- what is left behind a tag is shorter, and the places of its pieces count from
              -- another start
              have later (isOpen : List OpenTag) (start start' count : Nat) :
                  shown? isOpen (markupPieces start [] (rest.drop count)) =
                    shown? isOpen (markupPieces start' [] (rest.drop count)) := by
                refine ih _ ?_ _ _ _ rfl
                rw [List.length_drop]
                omega
              rw [markupPieces_leadingTag tag, markupPieces_leadingTag tag, shown?_plainPiece,
                shown?_plainPiece, taggedPieces, taggedPieces]
              rw [List.append_assoc, List.append_assoc, shown?_plainPiece, shown?_plainPiece]
              congr 2
              split
              · exact (shown?_plain _ _).trans
                  ((congrArg _ (later ..)).trans (shown?_plain _ _).symm)
              · exact (shown?_tag _ _).trans
                  ((congrArg _ (funext fun _ => later ..)).trans (shown?_tag _ _).symm)

/-! ## Texts between tags -/

theorem tagBody?_cons (c : Char) (rest : List Char) :
    tagBody? (c :: rest) =
      if opensTag c && (rest.dropWhile isInside).head? == some ']' then
        some (c :: rest.takeWhile isInside)
      else none := by
  rw [← Text.drop_length_takeWhile]
  rfl

theorem tagBody?_append {body : List Char} (opens : opensTag c = true)
    (inside : ∀ d ∈ body, isInside d = true) (rest : List Char) :
    tagBody? (c :: (body ++ ']' :: rest)) = some (c :: body) := by
  rw [tagBody?_cons, List.dropWhile_append_of_pos inside, List.takeWhile_append_of_pos inside,
    List.dropWhile_cons_of_neg (by decide), List.takeWhile_cons_of_neg (by decide),
    List.append_nil, opens]
  rfl

theorem OpenTag.close_of_empty (style : String) : (OpenTag.mk style []).close = .ok () := by
  rw [close, List.isEmpty_nil, Bool.not_true, Bool.and_false]
  rfl

/-- A name of a style that is written with small letters. -/
structure TagName (name : List Char) : Prop where
  nonempty : name ≠ []
  small : name.all Char.isLower = true

namespace TagName

variable {name : List Char} (named : TagName name)

include named

theorem ne_of_mem (found : c ∈ name) : c ≠ '/' ∧ c ≠ '=' := by
  have small := List.all_eq_true.mp named.small c found
  refine ⟨?_, ?_⟩ <;> rintro rfl <;> exact absurd small (by decide)

theorem isInside_of_mem (found : c ∈ name) : isInside c = true := by
  have small := List.all_eq_true.mp named.small c found
  rw [isInside, Bool.and_eq_true, bne_iff_ne, bne_iff_ne]
  refine ⟨?_, ?_⟩ <;> rintro rfl <;> exact absurd small (by decide)

theorem isBlank_of_mem (found : c ∈ name) : Text.isBlank c = false := by
  have small : (decide (97 ≤ c.val) && decide (c.val ≤ 122)) = true :=
    List.all_eq_true.mp named.small c found
  simp only [Bool.and_eq_true, decide_eq_true_eq, UInt32.le_iff_toNat_le] at small
  change 97 ≤ c.toNat ∧ c.toNat ≤ 122 at small
  cases blank : Text.isBlank c with
  | false => rfl
  | true =>
      have above : ∀ code ∈ Text.blanksAboveAscii, 128 ≤ code := by decide
      rcases Text.code_of_isBlank blank with low | high
      · omega
      · have := above _ high
        omega

theorem tagBody?_eq (rest : List Char) : tagBody? (name ++ ']' :: rest) = some name := by
  cases name with
  | nil => exact absurd rfl named.nonempty
  | cons c name =>
      refine tagBody?_append ?_ (fun d found => ?_) rest
      · rw [opensTag, List.all_eq_true.mp named.small c List.mem_cons_self]
        rfl
      · exact named.isInside_of_mem (List.mem_cons_of_mem c found)

theorem tagBody?_slash (rest : List Char) :
    tagBody? ('/' :: (name ++ ']' :: rest)) = some ('/' :: name) :=
  tagBody?_append (by decide) (fun _ found => named.isInside_of_mem found) rest

theorem tagName_eq : tagName name = name :=
  List.takeWhile_eq_self_iff.mpr fun _ found => bne_iff_ne.mpr (named.ne_of_mem found).2

theorem tagParameters_eq : tagParameters name = [] := by
  have none : name.dropWhile (· != '=') = [] :=
    List.dropWhile_eq_nil_iff.mpr fun _ found => bne_iff_ne.mpr (named.ne_of_mem found).2
  rw [tagParameters, none, List.drop_nil]

theorem afterTag_eq (isOpen : List OpenTag) :
    afterTag isOpen name 0 = .ok (⟨styleName name, []⟩ :: isOpen) := by
  unfold afterTag
  rw [named.tagName_eq, named.tagParameters_eq]
  split
  · exact absurd rfl (named.ne_of_mem List.mem_cons_self).1
  · rfl

theorem afterTag_slash (isOpen : List OpenTag) :
    afterTag (⟨styleName name, []⟩ :: isOpen) ('/' :: name) 0 = .ok isOpen := by
  have whole : tagName ('/' :: name) = '/' :: name := by
    rw [tagName, List.takeWhile_cons_of_pos (by decide)]
    exact congrArg _ named.tagName_eq
  have trimmed : Text.trim name = name :=
    (Text.Trimmed.of_forall fun _ found => named.isBlank_of_mem found).trim_eq
  have filled : name.isEmpty = false := by
    rw [List.isEmpty_eq_false_iff]
    exact named.nonempty
  unfold afterTag
  rw [whole]
  change (if (Text.trim name).isEmpty then _ else _) = _
  rw [trimmed, filled]
  simp [OpenTag.close_of_empty, Except.map]

end TagName

/-- A text with tags around it, and what follows. -/
def tagged (name inner rest : List Char) : List Char :=
  '[' :: (name ++ ']' :: (inner ++ '[' :: '/' :: (name ++ ']' :: rest)))

theorem shown?_tagged {name inner : List Char} (named : TagName name)
    (plains : inner.all isPlain = true) (rest : List Char) :
    shown? isOpen (markupPieces position plain (tagged name inner rest)) =
      (shown? isOpen (markupPieces 0 [] rest)).map
        fun text => shown plain.reverse ++ (shown inner ++ text) := by
  have closing (position : Nat) (plain : List Char) :
      markupPieces position plain ('[' :: '/' :: (name ++ ']' :: rest)) =
        plainPiece plain.reverse ++ .tag ('/' :: name) position ::
          markupPieces (position + ('/' :: name).length + 2) [] rest :=
    markupPieces_bracket ('/' :: name) (named.tagBody?_slash rest)
  rw [tagged, markupPieces_bracket name (named.tagBody?_eq _), shown?_plainPiece, shown?_tag,
    named.afterTag_eq, markupPieces_append plains, closing]
  dsimp only [Except.toOption, Option.bind_some]
  rw [shown?_plainPiece, shown?_tag, named.afterTag_slash, List.append_nil, List.reverse_reverse]
  dsimp only [Except.toOption, Option.bind_some]
  rw [shown?_markupPieces _ 0, Option.map_map]
  rfl

theorem shown?_append_tagged {front name inner : List Char} (named : TagName name)
    (outside : front.all isPlain = true) (inside : inner.all isPlain = true)
    (rest : List Char) :
    shown? isOpen (markupPieces 0 [] (front ++ tagged name inner rest)) =
      (shown? isOpen (markupPieces 0 [] rest)).map
        fun text => shown front ++ (shown inner ++ text) := by
  rw [markupPieces_append outside, shown?_tagged named inside, List.append_nil,
    List.reverse_reverse]

/-! ## Whole texts -/

theorem toOption_render (markup : String) :
    (render markup).toOption = shown? [] (markupPieces 0 [] markup.toList) := rfl

theorem shown?_nil : shown? [] (markupPieces 0 [] []) = some [] := by
  rw [markupPieces]
  rfl

theorem render_of_unmarked {text : String} (unmarked : Unmarked text.toList) :
    render text = .ok text.toList := by
  rw [render, markupPieces_of_untagged unmarked.untagged, ← List.append_nil (plainPiece _)]
  have same : shown? [] (plainPiece ([].reverse ++ text.toList) ++ []) = some text.toList := by
    rw [shown?_plainPiece]
    change some (shown text.toList ++ []) = _
    rw [List.append_nil, shown_eq_self unmarked]
  exact Outcome.eq_ok_of_mem_toOption same

theorem shown?_heading {name heading : List Char} (named : TagName name)
    (plains : heading.all isPlain = true) (text : List Char) :
    shown? isOpen (markupPieces 0 [] (tagged name heading (' ' :: text))) =
      (shown? isOpen (markupPieces 0 [] text)).map fun text => shown heading ++ ' ' :: text := by
  have blank : leadingTag? (' ' :: text) = none := rfl
  have front : shown? isOpen (markupPieces 1 [' '] text) =
      (shown? isOpen (markupPieces 1 [] text)).map (' ' :: ·) := shown?_blank 1 [] text
  rw [shown?_tagged named plains, markupPieces_cons blank, front, shown?_markupPieces 1 0,
    Option.map_map]
  refine congrArg (Option.map · _) (funext fun text => ?_)
  have empty : shown [].reverse = [] := shown_nil
  rw [Function.comp_apply, empty, List.nil_append]

end SignatureLint.Console

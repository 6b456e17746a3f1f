import SignatureLint.Proofs.Edit.Placement
import SignatureLint.Proofs.Syntax.Tokens
import SignatureLint.Proofs.Text.Words
import SignatureLint.Rule

/-!
# The last word of a parameter

The edit that gives a parameter a default lengthens the last word or symbol of the
parameter.  That is never empty, and a text that ends in no blank ends in it.
-/

namespace SignatureLint

open Lexer

namespace Lexeme

theorem lastOf_ne_nil {text : List Char} (nonempty : text ≠ []) : lastOf text ≠ [] := by
  unfold lastOf
  split
  · exact nonempty
  · rename_i last before found
    split
    · rename_i word
      rw [List.takeWhile_cons_of_pos word, List.reverse_cons]
      exact List.append_ne_nil_of_right_ne_nil _ (List.cons_ne_nil _ _)
    · exact List.cons_ne_nil _ _

theorem lastOf_concat (front : List Char) {last : Char} (visible : Text.isBlank last = false) :
    lastOf (front ++ [last]) =
      if Text.isWord last then ((last :: front.reverse).takeWhile Text.isWord).reverse
      else [last] := by
  rw [lastOf, List.reverse_append, List.reverse_singleton, List.singleton_append,
    List.dropWhile_cons_of_neg (by rw [visible]; decide)]

theorem lastOf_suffix {text : List Char} (solid : Solid text) : lastOf text <:+ text := by
  obtain ⟨front, last, rfl, visible⟩ := solid
  rw [lastOf_concat front visible]
  split
  · have whole : front ++ [last] = (last :: front.reverse).reverse := by
      rw [List.reverse_cons, List.reverse_reverse]
    rw [whole, List.reverse_suffix]
    exact List.takeWhile_prefix _
  · exact List.suffix_append _ _

theorem feed_not_mem_lastOf {text : List Char} (solid : Solid text) : '\n' ∉ lastOf text := by
  obtain ⟨front, last, rfl, visible⟩ := solid
  rw [lastOf_concat front visible]
  split
  · rw [List.mem_reverse]
    intro found
    have letter := List.all_eq_true.mp List.all_takeWhile _ found
    exact absurd letter (by decide)
  · rw [List.mem_singleton]
    rintro rfl
    exact absurd visible (by decide)

end Lexeme

namespace DeclaredParameter

/-- A parameter whose last word ends where the parameter ends, which is not before its line. -/
structure Anchored (parameter : DeclaredParameter) : Prop where
  lastLexeme : parameter.lastLexeme = Lexeme.trailing parameter.text parameter.span
  column : 0 ≤ parameter.span.endColumn
  /-- Only a parameter without a type may have no text. -/
  text : parameter.type.isSome → parameter.text ≠ ""

end DeclaredParameter

namespace ModifierDefault

variable {config : Config} {parameter : DeclaredParameter}

theorem extends_edit (anchored : parameter.Anchored) (typed : parameter.type.isSome) :
    (edit config parameter).Extends (" = " ++ config.defaultModifier) where
  grown := String.append_assoc
  nonempty := by
    have nonempty : parameter.text.toList ≠ [] := by
      intro empty
      exact anchored.text typed (String.toList_inj.mp empty)
    rw [edit, anchored.lastLexeme, Lexeme.trailing, String.toList_ofList]
    exact Lexeme.lastOf_ne_nil nonempty
  line := by
    rw [edit, anchored.lastLexeme, Lexeme.trailing]
  width := by
    simp only [edit, anchored.lastLexeme, Lexeme.trailing, String.toList_ofList]
    omega
  column := by
    simp only [edit, anchored.lastLexeme, Lexeme.trailing]
    exact anchored.column

end ModifierDefault

end SignatureLint

import SignatureLint.Proofs.Related
import SignatureLint.Proofs.Syntax.Arguments
import SignatureLint.Proofs.Syntax.Segments

/-!
# Parameters in a source text

Every parameter of a program is a part of its text that ends in a character which is
no blank, and the parts of different parameters are apart, in source order.
-/

namespace SignatureLint

open Lexer Text

/-- A range that covers a part of a text of which line ends are line feeds, from one place between
its characters to another one. -/
structure Covers (text : List Char) (range : Range) (part : Nat × Nat) : Prop where
  order : part.1 ≤ part.2
  inside : part.2 ≤ text.length
  range : range = ⟨reach (text.take part.1), reach (text.take part.2)⟩
  solid : Solid ((text.take part.2).drop part.1)

theorem exists_cut_of_getElem? {text : List Char} {tokens : Array Token} {cuts : List (Nat × Nat)}
    (each : List.Forall₂ (Cut text) tokens.toList cuts) {index : Nat} {token : Token}
    (found : tokens[index]? = some token) :
    ∃ cut, cuts[index]? = some cut ∧ Cut text token cut := by
  obtain ⟨size, get⟩ := List.forall₂_iff_get.mp each
  rw [← Array.getElem?_toList] at found
  obtain ⟨inside, same⟩ := List.getElem?_eq_some_iff.mp found
  have inside' : index < cuts.length := size ▸ inside
  refine ⟨cuts[index], List.getElem?_eq_getElem inside', ?_⟩
  have cut := get index inside inside'
  rw [← same]
  exact cut

theorem le_of_getElem? {cuts : List (Nat × Nat)}
    (apart : cuts.Pairwise fun first second => first.2 ≤ second.1) {index index' : Nat}
    (earlier : index < index') {cut cut' : Nat × Nat} (here : cuts[index]? = some cut)
    (there : cuts[index']? = some cut') : cut.2 ≤ cut'.1 := by
  obtain ⟨inside, rfl⟩ := List.getElem?_eq_some_iff.mp here
  obtain ⟨inside', rfl⟩ := List.getElem?_eq_some_iff.mp there
  exact List.pairwise_iff_getElem.mp apart index index' inside inside' earlier

theorem Lexer.Solid.drop {chars : List Char} {first later : Nat} (solid : Solid (chars.drop later))
    (order : first ≤ later) : Solid (chars.drop first) := by
  have whole : chars.drop first =
      (chars.drop first).take (later - first) ++ chars.drop later := by
    conv => lhs; rw [← List.take_append_drop (later - first) (chars.drop first)]
    rw [List.drop_drop, Nat.add_sub_cancel' order]
  rw [whole]
  exact solid.append _

/-- Ranges of tokens cover parts of the text, one after the other. -/
theorem Spread.exists_parts {text : List Char} {tokens : Array Token} {cuts : List (Nat × Nat)}
    (each : List.Forall₂ (Cut text) tokens.toList cuts)
    (apart : cuts.Pairwise fun first second => first.2 ≤ second.1) {low high : Nat}
    {ranges : List Range} (spread : Spread tokens low ranges high) :
    ∃ parts, List.Forall₂ (Covers text) ranges parts ∧
      (parts.Pairwise fun first second => first.2 ≤ second.1) ∧
      ∀ part ∈ parts, ∃ index cut, low ≤ index ∧ cuts[index]? = some cut ∧ cut.1 = part.1 := by
  induction spread with
  | nil => exact ⟨[], .nil, .nil, fun _ found => absurd found List.not_mem_nil⟩
  | @cons low first last high range rest reached spans others ih =>
      -- the part goes from the start of the first token to the end of the last one, which lie in
      -- cuts of the text that are in order
      obtain ⟨parts, covers, order, begin⟩ := ih
      obtain ⟨token, found, visible, start⟩ := spans.begins
      obtain ⟨token', found', visible', stop⟩ := spans.ends
      obtain ⟨cut, here, stands⟩ := exists_cut_of_getElem? each found
      obtain ⟨cut', here', stands'⟩ := exists_cut_of_getElem? each found'
      have ordered : cut.1 ≤ cut'.1 := by
        rcases Nat.eq_or_lt_of_le spans.order with rfl | earlier
        · rw [here] at here'
          cases here'
          exact Nat.le_refl _
        · exact Nat.le_trans stands.forward (le_of_getElem? apart earlier here here')
      refine ⟨(cut.1, cut'.2) :: parts, .cons ?_ covers, .cons ?_ order, ?_⟩
      · exact
          { order := Nat.le_trans ordered stands'.forward
            inside := stands'.inside
            range := by
              have : range = ⟨range.start, range.stop⟩ := rfl
              rw [this, start, stop, stands.range, stands'.range]
            solid := by
              rcases stands'.solid with layout | solid
              · rw [visible'] at layout
                cases layout
              · exact solid.drop ordered }
      · intro part found
        obtain ⟨index, next, later, there, begins⟩ := begin part found
        have behind := le_of_getElem? apart later here' there
        rw [← begins]
        exact behind
      · intro part found
        rcases List.mem_cons.mp found with rfl | found
        · exact ⟨first, cut, reached, here, rfl⟩
        · obtain ⟨index, next, later, there, begins⟩ := begin part found
          refine ⟨index, next, ?_, there, begins⟩
          have := spans.order
          omega

/-- A part that ends in a character which is no blank is a part of the text without its last line
feed. -/
theorem Covers.of_append_feed {text : List Char} {range : Range} {part : Nat × Nat}
    (covers : Covers (text ++ ['\n']) range part) : Covers text range part := by
  have inside : part.2 ≤ text.length := by
    apply Nat.le_of_lt_succ
    apply Nat.lt_of_le_of_ne
    · have := covers.inside
      rwa [List.length_append, List.length_singleton] at this
    · intro whole
      -- else the part would end with the line feed, and a part ends with what can be seen
      obtain ⟨front, last, taken, visible⟩ := covers.solid
      have size : (text ++ ['\n']).length ≤ part.2 := by
        apply Nat.le_of_eq
        rw [List.length_append, List.length_singleton, whole]
      rw [List.take_of_length_le size] at taken
      have parts := List.take_append_drop part.1 (text ++ ['\n'])
      rw [taken, ← List.append_assoc] at parts
      obtain ⟨-, same⟩ := List.append_inj' parts rfl
      cases same
      exact absurd visible (by decide)
  have last : (text ++ ['\n']).take part.2 = text.take part.2 :=
    List.take_append_of_le_length inside
  have first : (text ++ ['\n']).take part.1 = text.take part.1 :=
    List.take_append_of_le_length (Nat.le_trans covers.order inside)
  exact
    { order := covers.order
      inside := inside
      range := by rw [← first, ← last]; exact covers.range
      solid := by rw [← last]; exact covers.solid }

/-- The parameters of a program cover parts of its text, with line ends turned into line feeds, one
after the other. -/
theorem Program.exists_parts {source : List Char} {statements : List Statement}
    (h : Program.read source = .ok statements) :
    ∃ parts, List.Forall₂ (Covers (normalizeNewlines source)) (rangesOfAll statements) parts ∧
      parts.Pairwise fun first second => first.2 ≤ second.1 := by
  unfold Program.read at h
  split at h
  · cases h
  · obtain ⟨tokens, cut, h⟩ := Outcome.exists_of_bind_eq_ok h
    obtain ⟨laid, closed⟩ := laid_tokens cut
    obtain ⟨last, spread⟩ := spread_runAll closed h
    obtain ⟨cuts, each, apart, -⟩ := laid.exists_cuts
    obtain ⟨parts, covers, order, -⟩ := spread.exists_parts each apart
    refine ⟨parts, covers.imp ?_, order⟩
    intro range part covers
    dsimp only [Program.complete] at covers
    split at covers
    · exact covers.of_append_feed
    · exact covers

/-- A range that covers a part of a source text, as it is written. -/
structure Stands (source : List Char) (range : Range) (part : Nat × Nat) : Prop where
  order : part.1 ≤ part.2
  inside : part.2 ≤ source.length
  clean : Clean (source.take part.1) (source.drop part.1)
  clean' : Clean (source.take part.2) (source.drop part.2)
  range : range = ⟨reach (normalizeNewlines (source.take part.1)),
    reach (normalizeNewlines (source.take part.2))⟩
  solid : Solid ((source.take part.2).drop part.1)

theorem solid_of_normalizeNewlines {text : List Char} (solid : Solid (normalizeNewlines text)) :
    Solid text := by
  obtain ⟨front, last, turned, visible⟩ := solid
  have nonempty : text ≠ [] := by
    rintro rfl
    rw [normalizeNewlines_nil] at turned
    cases front <;> cases turned
  have parts := List.dropLast_concat_getLast nonempty
  rcases normalizeNewlines_concat text.dropLast (text.getLast nonempty) with
    ⟨front', same, -⟩ | ⟨front', same⟩
  · rw [parts, turned] at same
    obtain ⟨-, ends⟩ := List.append_inj' same rfl
    refine ⟨text.dropLast, last, ?_, visible⟩
    rw [ends, parts]
  · rw [parts, turned] at same
    obtain ⟨-, ends⟩ := List.append_inj' same rfl
    cases ends
    exact absurd visible (by decide)

theorem clean_take {source : List Char} {first : Nat} (later : Nat)
    (clean : Clean (source.take first) (source.drop first)) :
    Clean (source.take first) ((source.take later).drop first) := by
  by_cases empty : (source.take later).drop first = []
  · rw [empty]
    exact fun _ other => by cases other
  · have inside : first ≤ (source.take later).length := by
      apply Nat.le_of_lt
      exact Nat.lt_of_not_le fun beyond => empty (List.drop_eq_nil_of_le beyond)
    have behind : source.drop first = (source.take later).drop first ++ source.drop later := by
      conv => lhs; rw [← List.take_append_drop later source]
      rw [List.drop_append_of_le_length inside]
    rw [behind] at clean
    exact clean.front empty

theorem le_of_length_normalizeNewlines_le {source : List Char} {first later : Nat}
    (clean : Clean (source.take later) (source.drop later)) (inside : first ≤ source.length)
    (h : (normalizeNewlines (source.take first)).length ≤
      (normalizeNewlines (source.take later)).length) : first ≤ later := by
  apply Nat.le_of_not_lt
  intro behind
  have whole : source.take first = source.take later ++ (source.take first).drop later := by
    conv => lhs; rw [← List.take_append_drop later (source.take first)]
    rw [List.take_take, Nat.min_eq_left (Nat.le_of_lt behind)]
  have nonempty : (source.take first).drop later ≠ [] := by
    apply List.ne_nil_of_length_pos
    rw [List.length_drop, List.length_take]
    omega
  have := length_normalizeNewlines_lt (clean_take first clean) nonempty
  rw [← whole] at this
  omega

/-- A cut of a text that comes to a place of the turned text. -/
structure Turned (source : List Char) (origin place : Nat) : Prop where
  inside : origin ≤ source.length
  clean : Clean (source.take origin) (source.drop origin)
  front : normalizeNewlines (source.take origin) = (normalizeNewlines source).take place

theorem exists_turned (source : List Char) {place : Nat}
    (inside : place ≤ (normalizeNewlines source).length) :
    ∃ origin, Turned source origin place := by
  obtain ⟨before, after, rfl, clean, front, back⟩ := exists_clean_cut source inside
  refine ⟨before.length, by simp, ?_, ?_⟩
  · rw [List.take_left, List.drop_left]
    exact clean
  · rw [List.take_left]
    exact front

theorem Turned.le {source : List Char} {origin origin' place place' : Nat}
    (turned : Turned source origin place) (turned' : Turned source origin' place')
    (earlier : place ≤ place') : origin ≤ origin' := by
  apply le_of_length_normalizeNewlines_le turned'.clean turned.inside
  rw [turned.front, turned'.front, List.length_take, List.length_take]
  omega

theorem Covers.stands {source : List Char} {range : Range} {part cut : Nat × Nat}
    (covers : Covers (normalizeNewlines source) range part)
    (turned : Turned source cut.1 part.1) (turned' : Turned source cut.2 part.2) :
    Stands source range cut where
  order := turned.le turned' covers.order
  inside := turned'.inside
  clean := turned.clean
  clean' := turned'.clean
  range := by
    rw [turned.front, turned'.front]
    exact covers.range
  solid := by
    have front := turned'.front
    have whole : source.take cut.2 = source.take cut.1 ++ (source.take cut.2).drop cut.1 := by
      conv => lhs; rw [← List.take_append_drop cut.1 (source.take cut.2)]
      rw [List.take_take, Nat.min_eq_left (turned.le turned' covers.order)]
    rw [whole, normalizeNewlines_append (clean_take _ turned.clean), turned.front] at front
    have solid := covers.solid
    rw [← front, List.drop_left'] at solid
    · exact solid_of_normalizeNewlines solid
    · rw [List.length_take]
      have := covers.order
      have := covers.inside
      omega

/-- The parameters of a program cover parts of its text, one after the other. -/
theorem Program.exists_parts_of_source {source : List Char} {statements : List Statement}
    (h : Program.read source = .ok statements) :
    ∃ parts, List.Forall₂ (Stands source) (rangesOfAll statements) parts ∧
      parts.Pairwise fun first second => first.2 ≤ second.1 := by
  obtain ⟨parts, covers, order⟩ := Program.exists_parts h
  have cut (place : Nat) : ∃ origin, place ≤ (normalizeNewlines source).length →
      Turned source origin place := by
    by_cases inside : place ≤ (normalizeNewlines source).length
    · obtain ⟨origin, turned⟩ := exists_turned source inside
      exact ⟨origin, fun _ => turned⟩
    · exact ⟨0, fun other => absurd other inside⟩
  obtain ⟨origin, turned⟩ := Classical.skolem.mp cut
  have inside : ∀ part ∈ parts, part.1 ≤ part.2 ∧ part.2 ≤ (normalizeNewlines source).length :=
    Related.forall_mem_of_forall₂ (fun _ _ covers => ⟨covers.order, covers.inside⟩) covers
  refine ⟨parts.map fun part => (origin part.1, origin part.2), ?_, ?_⟩
  · rw [List.forall₂_map_right_iff]
    apply covers.imp
    intro range part covers
    exact covers.stands (turned part.1 (Nat.le_trans covers.order covers.inside))
      (turned part.2 covers.inside)
  · rw [List.pairwise_map]
    apply order.imp_of_mem
    intro part part' found found' earlier
    have within := Nat.le_trans (inside part' found').1 (inside part' found').2
    exact (turned part.2 (inside part found).2).le (turned part'.1 within) earlier

end SignatureLint

import SignatureLint.Proofs.Edit.Lines
import SignatureLint.Proofs.Outline.Defaults

/-!
# Programs with more defaults

Several parameters of a program may be given the usual default one after the other, the
last one first, as long as each of them takes one.  Reading the text with one more
default is taken to give the program with that default; reading the text with all of
them gives the program with all of them then.
-/

namespace SignatureLint

open Insertion Lexer Outline Text

/-- What is put behind a parameter to give it the usual default. -/
def usualDefault : List Char :=
  " = Modifier".toList

namespace Program

/-- The slots of a program, in source order. -/
def slots (statements : List Statement) : List Slot :=
  (functionsOfAll {} statements).flatMap (·.2.signature.slots)

/-- The texts that come of a text by giving the usual default to parameters that take one. -/
inductive Defaulted (source : List Char) : List Char → Prop where
  | refl : Defaulted source source
  | step {text : List Char} {statements : List Statement} {slot : Slot} {part : Nat × Nat}
      (before : Defaulted source text) (read : Program.read text = .ok statements)
      (found : slot ∈ slots statements) (opened : slot.isOpen = true)
      (stands : Stands text slot.argument.range part) :
      Defaulted source (insertOne usualDefault text part.2)

/-- Giving the usual default to a parameter that takes one gives the same program with that
default, and with everything behind the parameter moved. -/
def KeepsTree (source : List Char) : Prop :=
  ∀ (text : List Char) (statements : List Statement) (slot : Slot) (part : Nat × Nat),
    Defaulted source text → Program.read text = .ok statements → slot ∈ slots statements →
    slot.isOpen = true → Stands text slot.argument.range part →
      Program.read (insertOne usualDefault text part.2) =
        .ok (giveDefault slot.argument.range (Utf8.width usualDefault) statements)

/-- A program keeps its tree if it is one of some texts among which giving defaults stays, and each
of these keeps its tree once. -/
theorem keepsTree_of_closed {source : List Char} (reachable : List Char → Prop)
    (start : reachable source)
    (closed : ∀ (text : List Char) (statements : List Statement) (slot : Slot) (part : Nat × Nat),
      reachable text → Program.read text = .ok statements → slot ∈ slots statements →
      slot.isOpen = true → Stands text slot.argument.range part →
        reachable (insertOne usualDefault text part.2) ∧
        Program.read (insertOne usualDefault text part.2) =
          .ok (giveDefault slot.argument.range (Utf8.width usualDefault) statements)) :
    KeepsTree source := by
  have each : ∀ text, Defaulted source text → reachable text := by
    intro text defaulted
    induction defaulted with
    | refl => exact start
    | step _ read found opened stands ih => exact (closed _ _ _ _ ih read found opened stands).1
  intro text statements slot part defaulted read found opened stands
  exact (closed text statements slot part (each text defaulted) read found opened stands).2

end Program

/-- A slot once the parameters in some ranges were given defaults. -/
structure Slot.Filled (chosen : List Range) (slot slot' : Slot) : Prop where
  written : slot'.argument.written.map Located.value = slot.argument.written.map Located.value
  hasDefault : slot'.hasDefault = (slot.hasDefault || slot.argument.range ∈ chosen)

theorem Slot.Given.filled {range : Range} {width : Nat} {chosen : List Range}
    {slot slot' slot'' : Slot} (given : Slot.Given range width slot slot')
    (filled : Slot.Filled chosen slot' slot'')
    (before : ∀ other ∈ chosen, other.start.Before range.stop ∧ other.stop.Before range.stop) :
    Slot.Filled (range :: chosen) slot slot'' where
  written := by
    rw [filled.written, given.argument, Argument.pushed, Option.map_map]
    rfl
  hasDefault := by
    have same : slot'.argument.range ∈ chosen ↔ slot.argument.range ∈ chosen := by
      rw [given.argument, Argument.pushed]
      dsimp only
      constructor
      · intro found
        rwa [Range.eq_of_pushed rfl (before _ found).1 (before _ found).2]
      · intro found
        rwa [Range.pushed_of_before (before _ found).1 (before _ found).2]
    rw [filled.hasDefault, given.hasDefault, Bool.or_assoc]
    simp only [same, List.mem_cons, Bool.decide_or]

namespace Program

variable {source text : List Char} {statements : List Statement}

theorem returnsFeed_insertOne {range : Range} {part : Nat × Nat} (returns : ReturnsFeed text)
    (stands : Stands text range part) : ReturnsFeed (insertOne usualDefault text part.2) := by
  rw [← List.take_append_drop part.2 text] at returns
  have plain : ReturnsFeed usualDefault := by decide
  exact ((returns.front stands.clean').append plain).append returns.back

/-- Parameters that take a default, each with the part of the text where it stands, the last one
first. -/
structure Chosen (text : List Char) (statements : List Statement)
    (chosen : List (Range × Nat × Nat)) : Prop where
  stands : ∀ one ∈ chosen, Stands text one.1 one.2
  descending : chosen.Pairwise fun later earlier => earlier.2.2 ≤ later.2.1
  there : ∀ one ∈ chosen, ∃ slot ∈ slots statements, slot.argument.range = one.1
  opened : ∀ slot ∈ slots statements, slot.argument.range ∈ chosen.map (·.1) → slot.isOpen = true

namespace Chosen

variable {last : Range × Nat × Nat} {rest : List (Range × Nat × Nat)}

theorem before (chosen : Chosen text statements (last :: rest)) :
    ∀ other ∈ rest.map (·.1),
      other.start.Before last.1.stop ∧ other.stop.Before last.1.stop := by
  intro other member
  obtain ⟨one, found, rfl⟩ := List.mem_map.mp member
  have here := chosen.stands last List.mem_cons_self
  have stands := chosen.stands one (List.mem_cons_of_mem _ found)
  have apart := (List.pairwise_cons.mp chosen.descending).1 one found
  have shorter := here.lt
  have shorter' := stands.lt
  exact ⟨stands.start_before_stop here (by omega), stands.stop_before here (by omega)⟩

/-- Giving the default to the last parameter gives it to one slot of each function at most, and
moves what is behind it. -/
theorem alike (chosen : Chosen text statements (last :: rest)) (width : Nat) :
    List.Forall₂ (Alike (Slot.Given last.1 width)) (functionsOfAll {} statements)
      (functionsOfAll {} (giveDefault last.1 width statements)) := by
  apply alike_giveDefault
  intro function within slot found same
  apply chosen.opened slot (List.mem_flatMap.mpr ⟨function, within, List.mem_append_left _ found⟩)
  rw [same]
  exact List.mem_cons_self

/-- Once the last parameter is given the default, the others can still be given it. -/
theorem step (chosen : Chosen text statements (last :: rest)) :
    Chosen (Insertion.insertOne usualDefault text last.2.2)
      (giveDefault last.1 (Utf8.width usualDefault) statements) rest := by
  obtain ⟨behind, descending⟩ := List.pairwise_cons.mp chosen.descending
  obtain ⟨here, stands⟩ := List.forall_mem_cons.mp chosen.stands
  have given : List.Forall₂ (Slot.Given last.1 (Utf8.width usualDefault)) (slots statements)
      (slots (giveDefault last.1 (Utf8.width usualDefault) statements)) :=
    List.rel_flatMap (chosen.alike _) fun _ _ alike => alike.slots
  refine ⟨?_, descending, ?_, ?_⟩
  · intro one member
    exact (stands one member).insertOne (Nat.le_trans (behind one member) here.order)
      here.inside (by decide) (by decide)
  · intro one member
    obtain ⟨slot, found, same⟩ := chosen.there one (List.mem_cons_of_mem _ member)
    obtain ⟨slot', found', given⟩ := Related.exists_of_mem given found
    obtain ⟨start, stop⟩ := chosen.before one.1 (List.mem_map_of_mem member)
    refine ⟨slot', found', ?_⟩
    rw [given.argument, Argument.pushed]
    dsimp only
    rw [same, Range.pushed_of_before start stop]
  · -- a parameter that is still to be mended lies in front of the mended one and is as it was
    intro slot' found' member
    obtain ⟨slot, found, given⟩ := Related.exists_of_mem given.flip found'
    obtain ⟨start, stop⟩ := chosen.before _ member
    have kept : slot.argument.range = slot'.argument.range :=
      Range.eq_of_pushed (by rw [given.argument]; rfl) start stop
    have opened := chosen.opened slot found (by rw [kept]; exact List.mem_cons_of_mem _ member)
    have other : slot.argument.range ≠ last.1 := by
      rw [kept]
      intro same
      exact stop.ne (by rw [same])
    rw [Slot.isOpen, Bool.and_eq_true] at opened ⊢
    refine ⟨given.accepts opened.1, ?_⟩
    rw [given.hasDefault, decide_eq_false other, Bool.or_false]
    exact opened.2

end Chosen

/-- Several parameters that take a default are given the usual one, the last one first. -/
theorem exists_of_chosen (keeps : KeepsTree source) (defaulted : Defaulted source text)
    (returns : ReturnsFeed text) (read : Program.read text = .ok statements)
    {list : List (Range × Nat × Nat)} (chosen : Chosen text statements list) :
    Defaulted source ((list.map (·.2.2)).foldl (insertOne usualDefault) text) ∧
      ReturnsFeed ((list.map (·.2.2)).foldl (insertOne usualDefault) text) ∧
      ∃ statements',
        Program.read ((list.map (·.2.2)).foldl (insertOne usualDefault) text) =
          .ok statements' ∧
        List.Forall₂ (Alike (Slot.Filled (list.map (·.1)))) (functionsOfAll {} statements)
          (functionsOfAll {} statements') := by
  induction list generalizing text statements with
  | nil =>
      refine ⟨defaulted, returns, statements, read, ?_⟩
      rw [List.forall₂_same]
      intro function _
      have same (slots : List Slot) : List.Forall₂ (Slot.Filled []) slots slots :=
        List.forall₂_same.mpr fun slot _ => ⟨rfl, by simp⟩
      exact ⟨rfl, rfl, same _, same _⟩
  | cons last rest ih =>
      have here := chosen.stands last List.mem_cons_self
      obtain ⟨slot, found, same⟩ := chosen.there last List.mem_cons_self
      have opened := chosen.opened slot found (by rw [same]; exact List.mem_cons_self)
      rw [← same] at here
      -- the last place first, so that the places that are left lie in front of what was added
      have next : Defaulted source (insertOne usualDefault text last.2.2) :=
        defaulted.step read found opened here
      have reads := keeps text statements slot last.2 defaulted read found opened here
      rw [same] at reads
      obtain ⟨defaulted', returns', statements', reads', alike'⟩ :=
        ih next (returnsFeed_insertOne returns here) reads chosen.step
      refine ⟨defaulted', returns', statements', reads', ?_⟩
      exact Related.forall₂_trans (fun _ _ _ first second =>
        first.trans second fun _ _ _ given filled => given.filled filled chosen.before)
        (chosen.alike _) alike'

end Program

end SignatureLint

import SignatureLint.Proofs.Outline.Functions
import SignatureLint.Proofs.Syntax.Places

/-!
# Giving defaults to parameters

A program in which one more parameter has a default is the same program with that
default, and with everything behind the parameter moved.  The other parameters of the
program keep their defaults, and those that take a default still do.
-/

namespace SignatureLint

open Outline

/-! ## Moving ranges -/

/-- Where a range is once something of a width was put at a place.  A range that begins at the place
is moved, and one that ends there is not. -/
def Range.pushed (range : Range) (place : Position) (width : Nat) : Range where
  start :=
    if range.start.line = place.line ∧ place.column ≤ range.start.column then
      ⟨range.start.line, range.start.column + width⟩
    else range.start
  stop :=
    if range.stop.line = place.line ∧ place.column < range.stop.column then
      ⟨range.stop.line, range.stop.column + width⟩
    else range.stop

namespace Range

variable {range target : Range} {place : Position} {width : Nat}

theorem pushed_of_before (start : range.start.Before place) (stop : range.stop.Before place) :
    range.pushed place width = range := by
  unfold Position.Before at start stop
  unfold pushed
  rw [if_neg (by omega), if_neg (by omega)]

theorem eq_of_pushed (h : range.pushed place width = target) (start : target.start.Before place)
    (stop : target.stop.Before place) : range = target := by
  subst h
  unfold Position.Before at start stop
  unfold pushed at start stop ⊢
  dsimp only at start stop
  have first : ¬(range.start.line = place.line ∧ place.column ≤ range.start.column) := by
    intro moved
    rw [if_pos moved] at start
    dsimp only at start
    omega
  have last : ¬(range.stop.line = place.line ∧ place.column < range.stop.column) := by
    intro moved
    rw [if_pos moved] at stop
    dsimp only at stop
    omega
  rw [if_neg first, if_neg last]

end Range

/-- A parameter once something was put at a place. -/
def Argument.pushed (argument : Argument) (place : Position) (width : Nat) : Argument :=
  { argument with
    written := argument.written.map fun written =>
      { written with range := written.range.pushed place width }
    range := argument.range.pushed place width }

/-! ## Giving a default -/

namespace Signature

/-- The parameters of a signature once something was put at a place. -/
def pushed (signature : Signature) (place : Position) (width : Nat) : Signature :=
  { signature with
    positional := signature.positional.map (·.pushed place width)
    regular := signature.regular.map (·.pushed place width)
    keywordOnly := signature.keywordOnly.map fun (argument, hasDefault) =>
      (argument.pushed place width, hasDefault) }

def giveDefault (signature : Signature) (range : Range) : Signature :=
  { signature with
    defaults :=
      if (signature.positional ++ signature.regular).any (·.range = range) then
        signature.defaults + 1
      else signature.defaults
    keywordOnly := signature.keywordOnly.map fun (argument, hasDefault) =>
      (argument, hasDefault || argument.range = range) }

end Signature

def FunctionHeader.giveDefault (header : FunctionHeader) (range : Range) (width : Nat) :
    FunctionHeader :=
  { header with
    signature := (header.signature.giveDefault range).pushed range.stop width
    range := header.range.pushed range.stop width }

namespace Program

mutual

def mapHeaders (change : FunctionHeader → FunctionHeader) : Statement → Statement
  | .function header body => .function (change header) (mapHeadersOfAll change body)
  | .classDef name bases body => .classDef name bases (mapHeadersOfAll change body)
  | .compound kind blocks => .compound kind (mapHeadersOfBlocks change blocks)
  | .simple => .simple

def mapHeadersOfAll (change : FunctionHeader → FunctionHeader) : List Statement → List Statement
  | [] => []
  | first :: rest => mapHeaders change first :: mapHeadersOfAll change rest

def mapHeadersOfBlocks (change : FunctionHeader → FunctionHeader) :
    List (List Statement) → List (List Statement)
  | [] => []
  | first :: rest => mapHeadersOfAll change first :: mapHeadersOfBlocks change rest

end

/-- A program in which the parameter in a range has a default of a width. -/
def giveDefault (range : Range) (width : Nat) (statements : List Statement) : List Statement :=
  mapHeadersOfAll (·.giveDefault range width) statements

end Program

namespace Outline

mutual

theorem functionsOf_mapHeaders {change : FunctionHeader → FunctionHeader}
    (kept : ∀ header, (change header).name = header.name) (scope : Scope) :
    ∀ statement : Statement, functionsOf scope (Program.mapHeaders change statement) =
      (functionsOf scope statement).map fun function => (function.1, change function.2)
  | .function header body => by
      rw [Program.mapHeaders, functionsOf, functionsOf, functionsOfAll_mapHeaders kept, kept,
        List.map_cons]
  | .classDef name bases body => by
      rw [Program.mapHeaders, functionsOf, functionsOf, functionsOfAll_mapHeaders kept]
  | .compound kind blocks => by
      rw [Program.mapHeaders, functionsOf, functionsOf, functionsOfBlocks_mapHeaders kept]
  | .simple => by
      rw [Program.mapHeaders, functionsOf, List.map_nil]

theorem functionsOfAll_mapHeaders {change : FunctionHeader → FunctionHeader}
    (kept : ∀ header, (change header).name = header.name) (scope : Scope) :
    ∀ statements : List Statement,
      functionsOfAll scope (Program.mapHeadersOfAll change statements) =
        (functionsOfAll scope statements).map fun function => (function.1, change function.2)
  | [] => by
      rw [Program.mapHeadersOfAll, functionsOfAll, List.map_nil]
  | first :: rest => by
      rw [Program.mapHeadersOfAll, functionsOfAll, functionsOfAll, List.map_append,
        functionsOf_mapHeaders kept, functionsOfAll_mapHeaders kept]

theorem functionsOfBlocks_mapHeaders {change : FunctionHeader → FunctionHeader}
    (kept : ∀ header, (change header).name = header.name) (scope : Scope) :
    ∀ blocks : List (List Statement),
      functionsOfBlocks scope (Program.mapHeadersOfBlocks change blocks) =
        (functionsOfBlocks scope blocks).map fun function => (function.1, change function.2)
  | [] => by
      rw [Program.mapHeadersOfBlocks, functionsOfBlocks, List.map_nil]
  | first :: rest => by
      rw [Program.mapHeadersOfBlocks, functionsOfBlocks, functionsOfBlocks, List.map_append,
        functionsOfAll_mapHeaders kept, functionsOfBlocks_mapHeaders kept]

end

/-- Two functions with the same decorators in the same place, of which the slots are related one by
one. -/
structure Alike (R : Slot → Slot → Prop) (function function' : Scope × FunctionHeader) : Prop where
  scope : function'.1 = function.1
  decorators : function'.2.decorators = function.2.decorators
  placeSlots : List.Forall₂ R function.2.signature.placeSlots function'.2.signature.placeSlots
  nameSlots : List.Forall₂ R function.2.signature.nameSlots function'.2.signature.nameSlots

namespace Alike

variable {R S T : Slot → Slot → Prop} {function function' function'' : Scope × FunctionHeader}

theorem slots (alike : Alike R function function') :
    List.Forall₂ R function.2.signature.slots function'.2.signature.slots :=
  List.rel_append alike.placeSlots alike.nameSlots

theorem imp (alike : Alike R function function')
    (h : ∀ slot ∈ function.2.signature.slots, ∀ slot', R slot slot' → S slot slot') :
    Alike S function function' where
  scope := alike.scope
  decorators := alike.decorators
  placeSlots := by
    refine ((List.forall₂_and_left _ _).mpr ⟨?_, alike.placeSlots⟩).imp
      fun slot slot' ⟨found, related⟩ => h slot found slot' related
    exact fun slot found => List.mem_append_left _ found
  nameSlots := by
    refine ((List.forall₂_and_left _ _).mpr ⟨?_, alike.nameSlots⟩).imp
      fun slot slot' ⟨found, related⟩ => h slot found slot' related
    exact fun slot found => List.mem_append_right _ found

theorem trans (alike : Alike R function function') (alike' : Alike S function' function'')
    (h : ∀ slot slot' slot'', R slot slot' → S slot' slot'' → T slot slot'') :
    Alike T function function'' where
  scope := alike'.scope.trans alike.scope
  decorators := alike'.decorators.trans alike.decorators
  placeSlots := Related.forall₂_trans h alike.placeSlots alike'.placeSlots
  nameSlots := Related.forall₂_trans h alike.nameSlots alike'.nameSlots

end Alike

end Outline

/-! ## Slots -/

namespace Slot

def isOpen (slot : Slot) : Bool :=
  slot.acceptsDefault && !slot.hasDefault

/-- A slot once the parameter in a range was given a default. -/
structure Given (range : Range) (width : Nat) (slot slot' : Slot) : Prop where
  argument : slot'.argument = slot.argument.pushed range.stop width
  hasDefault : slot'.hasDefault = (slot.hasDefault || slot.argument.range = range)
  /-- A slot that takes a default still takes one. -/
  accepts : slot.acceptsDefault = true → slot'.acceptsDefault = true

end Slot

namespace Signature

variable {signature : Signature} {range : Range}

theorem index_of_isOpen {argument : Argument} {i : Nat} {slot : Slot}
    (same : slot = ⟨argument, signature.placeArguments.length - signature.defaults ≤ i,
      signature.placeArguments.length - signature.defaults - 1 ≤ i⟩)
    (opened : slot.isOpen = true) :
    i + 1 = signature.placeArguments.length - signature.defaults := by
  subst same
  simp only [Slot.isOpen, Bool.and_eq_true, Bool.not_eq_true', decide_eq_true_eq,
    decide_eq_false_iff_not] at opened
  omega

/-- The parameter in a range is the last one without a default, if no other parameter than one that
takes a default stands there. -/
theorem index_of_range
    (opens : ∀ slot ∈ signature.placeSlots, slot.argument.range = range → slot.isOpen = true)
    {argument : Argument} {i : Nat} (found : signature.placeArguments[i]? = some argument)
    (same : argument.range = range) :
    i + 1 = signature.placeArguments.length - signature.defaults := by
  apply index_of_isOpen rfl
  apply opens _ _ same
  rw [placeSlots]
  exact List.mem_map.mpr ⟨(argument, i), List.mem_zipIdx_iff_getElem?.mpr found, rfl⟩

/-- The slots that are filled by place once a parameter was given a default, if no other parameter
than one that takes a default was. -/
theorem given_placeSlots (width : Nat)
    (opens : ∀ slot ∈ signature.placeSlots, slot.argument.range = range → slot.isOpen = true) :
    List.Forall₂ (Slot.Given range width) signature.placeSlots
      ((signature.giveDefault range).pushed range.stop width).placeSlots := by
  have arguments : ((signature.giveDefault range).pushed range.stop width).placeArguments =
      signature.placeArguments.map (·.pushed range.stop width) := by
    rw [placeArguments, placeArguments, List.map_append]
    rfl
  have defaults : ((signature.giveDefault range).pushed range.stop width).defaults =
      if signature.placeArguments.any (·.range = range) then signature.defaults + 1
      else signature.defaults := rfl
  rw [placeSlots, placeSlots, arguments, List.length_map, defaults, List.zipIdx_map, List.map_map,
    List.forall₂_map_left_iff, List.forall₂_map_right_iff, List.forall₂_same]
  rintro ⟨argument, i⟩ member
  have found := List.mem_zipIdx_iff_getElem?.mp member
  dsimp only at found
  by_cases given : signature.placeArguments.any (·.range = range) = true
  · obtain ⟨other, there, same⟩ := List.any_eq_true.mp given
    obtain ⟨j, found'⟩ := List.getElem?_of_mem there
    -- the argument that is given a default stands at the last place without one, and at no other,
    -- so one more default is its own
    have index := index_of_range opens found' (of_decide_eq_true same)
    have here : argument.range = range ↔ i = j := by
      constructor
      · intro same
        have := index_of_range opens found same
        omega
      · rintro rfl
        rw [found] at found'
        rw [Option.some.inj found']
        exact of_decide_eq_true same
    rw [if_pos given]
    refine ⟨rfl, ?_, ?_⟩
    · simp only [Function.comp_apply, Prod.map_apply, id_eq, here, ← Bool.decide_or]
      exact decide_eq_decide.mpr (by omega)
    · simp only [Function.comp_apply, Prod.map_apply, id_eq, decide_eq_true_eq]
      omega
  · have other : argument.range ≠ range := fun same =>
      given (List.any_eq_true.mpr
        ⟨argument, List.mem_of_getElem? found, decide_eq_true same⟩)
    rw [if_neg given]
    refine ⟨rfl, ?_, ?_⟩
    · simp only [Function.comp_apply, Prod.map_apply, id_eq, other, decide_false, Bool.or_false]
    · simp only [Function.comp_apply, Prod.map_apply, id_eq]
      exact id

theorem given_nameSlots (width : Nat) :
    List.Forall₂ (Slot.Given range width) signature.nameSlots
      ((signature.giveDefault range).pushed range.stop width).nameSlots := by
  have names : ((signature.giveDefault range).pushed range.stop width).nameSlots =
      signature.keywordOnly.map fun (argument, hasDefault) =>
        ⟨argument.pushed range.stop width, hasDefault || argument.range = range, true⟩ := by
    rw [nameSlots, pushed, giveDefault, List.map_map, List.map_map]
    rfl
  rw [names, nameSlots, List.forall₂_map_left_iff, List.forall₂_map_right_iff, List.forall₂_same]
  exact fun _ _ => ⟨rfl, rfl, id⟩

end Signature

theorem Program.alike_giveDefault {statements : List Statement} {range : Range} (width : Nat)
    (opens : ∀ function ∈ functionsOfAll {} statements,
      ∀ slot ∈ function.2.signature.placeSlots,
        slot.argument.range = range → slot.isOpen = true) :
    List.Forall₂ (Alike (Slot.Given range width)) (functionsOfAll {} statements)
      (functionsOfAll {} (giveDefault range width statements)) := by
  have kept (header : FunctionHeader) : (header.giveDefault range width).name = header.name := rfl
  rw [giveDefault, functionsOfAll_mapHeaders kept, List.forall₂_map_right_iff, List.forall₂_same]
  intro function found
  exact ⟨rfl, rfl, function.2.signature.given_placeSlots width (opens function found),
    function.2.signature.given_nameSlots width⟩

end SignatureLint

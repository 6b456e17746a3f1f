import Mathlib.Data.Finset.Basic
import SignatureLint.Proofs.Outline.Parameters

/-!
# The order of defaults

Of the parameters that are filled by place the ones with defaults come last.  A default may be added
where this stays so.  That is never the case at two places at once, and parameters that are filled
by name are free, so that any number of defaults may be added together where each may be added.
-/

namespace SignatureLint

open Outline

/-! ## Places with defaults -/

/-- No place without a default comes behind one that has a default. -/
def DefaultsLast (defaults : List Bool) : Prop :=
  defaults.Pairwise fun earlier later => earlier = true → later = true

/-- The places with defaults once some more were given one. -/
def givenDefaults (chosen : Finset ℕ) (defaults : List Bool) : List Bool :=
  defaults.mapIdx fun i has => has || decide (i ∈ chosen)

theorem defaultsLast_map_range_iff {count : ℕ} {has : ℕ → Bool} :
    DefaultsLast ((List.range count).map has) ↔
      ∀ i j, i < j → j < count → has i = true → has j = true := by
  rw [DefaultsLast, List.pairwise_iff_getElem]
  simp only [List.length_map, List.length_range, List.getElem_map, List.getElem_range]
  exact ⟨fun h i j before inside => h i j (Nat.lt_trans before inside) inside before,
    fun h i j _ inside before => h i j before inside⟩

/-- The last few of several places have defaults. -/
def lastFew (count defaults : ℕ) : List Bool :=
  List.replicate (count - defaults) false ++ List.replicate defaults true

section

variable {count defaults : ℕ} (few : defaults ≤ count)

include few

theorem length_lastFew : (lastFew count defaults).length = count := by
  simp only [lastFew, List.length_append, List.length_replicate]
  omega

theorem lastFew_eq_map :
    lastFew count defaults = (List.range count).map fun i => decide (count - defaults ≤ i) := by
  apply List.ext_getElem
  · simp [length_lastFew few]
  · intro i here _
    simp only [lastFew, List.getElem_append, List.getElem_replicate, List.length_replicate,
      List.getElem_map, List.getElem_range]
    split
    · exact (decide_eq_false (by omega)).symm
    · exact (decide_eq_true (by omega)).symm

theorem take_givenDefaults (chosen : Finset ℕ) (behind : List Bool) :
    (givenDefaults chosen (lastFew count defaults ++ behind)).take count =
      (List.range count).map fun i => decide (count - defaults ≤ i) || decide (i ∈ chosen) := by
  have front : (givenDefaults chosen (lastFew count defaults ++ behind)).take count =
      givenDefaults chosen (lastFew count defaults) := by
    rw [givenDefaults, List.mapIdx_append, List.take_append_of_le_length (by
      rw [List.length_mapIdx, length_lastFew few]), List.take_of_length_le (by
      rw [List.length_mapIdx, length_lastFew few]), givenDefaults]
  rw [front, givenDefaults, lastFew_eq_map few]
  apply List.ext_getElem
  · simp
  · intro i _ _
    simp

theorem defaultsLast_singleton_iff (behind : List Bool) {i : ℕ} (bare : i < count - defaults) :
    DefaultsLast ((givenDefaults {i} (lastFew count defaults ++ behind)).take count) ↔
      count - defaults - 1 ≤ i := by
  rw [take_givenDefaults few, defaultsLast_map_range_iff]
  simp only [Bool.or_eq_true, decide_eq_true_eq, Finset.mem_singleton]
  constructor
  · intro h
    by_contra early
    have next := h i (i + 1) (Nat.lt_succ_self i) (by omega) (.inr rfl)
    omega
  · intro last j k before inside given
    omega

theorem defaultsLast_of_chosen (behind : List Bool) {chosen : Finset ℕ}
    (last : ∀ i ∈ chosen, count - defaults - 1 ≤ i) :
    DefaultsLast ((givenDefaults chosen (lastFew count defaults ++ behind)).take count) := by
  rw [take_givenDefaults few, defaultsLast_map_range_iff]
  simp only [Bool.or_eq_true, decide_eq_true_eq]
  rintro i j before inside (has | given)
  · omega
  · have := last i given
    omega

end

/-! ## What is known of the slots -/

namespace Signature

variable (signature : Signature)

def known (slot : Slot) : Bool × Bool :=
  (slot.hasDefault, slot.acceptsDefault)

theorem map_known_placeSlots :
    signature.placeSlots.map known =
      (List.range signature.placeArguments.length).map fun i =>
        (decide (signature.placeArguments.length - signature.defaults ≤ i),
          decide (signature.placeArguments.length - signature.defaults - 1 ≤ i)) := by
  apply List.ext_getElem
  · simp [placeSlots]
  · intro i _ _
    simp [placeSlots, known]

theorem map_known_nameSlots :
    signature.nameSlots.map known = signature.keywordOnly.map fun pair => (pair.2, true) := by
  simp [nameSlots, known, Function.comp_def]

variable {signature}

theorem acceptsDefault_iff {i : ℕ} {slot : Slot} (here : signature.slots[i]? = some slot) :
    slot.acceptsDefault = true ↔
      signature.placeArguments.length - signature.defaults - 1 ≤ i := by
  have found : (signature.slots.map known)[i]? = some (known slot) := by
    rw [List.getElem?_map, here, Option.map_some]
  rw [slots, List.map_append, map_known_placeSlots, map_known_nameSlots, List.getElem?_append,
    List.length_map, List.length_range] at found
  split at found
  · rename_i inside
    rw [List.getElem?_map, List.getElem?_range inside, Option.map_some, Option.some.injEq] at found
    have same : _ = slot.acceptsDefault := congrArg Prod.snd found
    rw [← same]
    exact decide_eq_true_iff
  · rename_i behind
    rw [List.getElem?_map, Option.map_eq_some_iff] at found
    obtain ⟨pair, -, found⟩ := found
    have same : true = slot.acceptsDefault := congrArg Prod.snd found
    exact iff_of_true same.symm (by omega)

/-- The last few slots that are filled by place have defaults, and those slots that are filled by
name have one that were given one. -/
theorem map_hasDefault_slots (few : signature.defaults ≤ signature.placeArguments.length) :
    signature.slots.map Slot.hasDefault =
      lastFew signature.placeArguments.length signature.defaults ++
        signature.keywordOnly.map (·.2) := by
  have first : Slot.hasDefault = Prod.fst ∘ known := rfl
  rw [slots, List.map_append, first, ← List.map_map, ← List.map_map, map_known_placeSlots,
    map_known_nameSlots, lastFew_eq_map few, List.map_map, List.map_map]
  rfl

end Signature

theorem DefaultsLast.eq_lastFew {defaults : List Bool} (last : DefaultsLast defaults) :
    defaults = lastFew defaults.length (defaults.filter id).length := by
  induction defaults with
  | nil => rfl
  | cons first rest ih =>
      obtain ⟨behind, later⟩ := List.pairwise_cons.mp last
      cases first with
      | false =>
          have few := List.length_filter_le id rest
          rw [List.filter_cons_of_neg (by simp), List.length_cons, lastFew, Nat.succ_sub few,
            List.replicate_succ, List.cons_append]
          exact congrArg (false :: ·) (ih later)
      | true =>
          have all : ∀ has ∈ rest, has = true := fun has found => behind has found rfl
          have whole : ∀ has ∈ true :: rest, has = true := List.forall_mem_cons.mpr ⟨rfl, all⟩
          have same : (true :: rest).filter id = true :: rest := List.filter_eq_self.mpr whole
          rw [same, lastFew, Nat.sub_self, List.replicate_zero, List.nil_append]
          exact List.eq_replicate_iff.mpr ⟨rfl, whole⟩

namespace Formals

variable {tokens : Array Token} {place next : ℕ} {rules : Rules} {formal : Bool → Parser Formal}
  {close : String} {found found' formals : Formals}

/-- Whether each of the parameters that are filled by place has a default. -/
def placeDefaults (formals : Formals) : List Bool :=
  (formals.positional ++ formals.regular).map (·.default.isSome)

theorem defaultsLast_of_item (last : DefaultsLast found.placeDefaults)
    (h : (item rules formal close found).Reads tokens place found' next) :
    DefaultsLast found'.placeDefaults := by
  rcases item_cases h with ⟨none, rfl⟩ | ⟨rest, bareStar, keywords, rfl, -⟩ |
    ⟨parameter, default, first, middle, -, -, -, ⟨-, rfl⟩ | ⟨-, allowed, rfl⟩⟩
  · simpa [placeDefaults, none] using last
  · exact last
  · exact last
  · have longer : placeDefaults { found with
        regular := found.regular ++ [{ parameter with default := default }] } =
          found.placeDefaults ++ [default.isSome] := by
      simp [placeDefaults]
    rw [longer, DefaultsLast, List.pairwise_append]
    refine ⟨last, List.pairwise_singleton _ _, ?_⟩
    intro earlier before later behind given
    rw [List.mem_singleton.mp behind]
    obtain ⟨other, here, has⟩ := List.mem_map.mp before
    have some : (found.regular ++ found.positional).any (·.default.isSome) = true :=
      List.any_eq_true.mpr ⟨other, by simpa [or_comm] using here, has.trans given⟩
    rw [some, Bool.and_true] at allowed
    simpa using allowed

theorem defaultsLast_of_read (h : (read rules formal close).Reads tokens place formals next) :
    DefaultsLast formals.placeDefaults :=
  invariant_of_read (fun _ formals => DefaultsLast formals.placeDefaults) (fun last _ => last)
    (fun last read => defaultsLast_of_item last read) List.Pairwise.nil h

end Formals

namespace Program

variable {formals : Formals}

theorem defaults_signature_le (formals : Formals) :
    (signature formals).defaults ≤ (signature formals).placeArguments.length := by
  simpa [signature, Signature.placeArguments] using
    Nat.add_le_add (List.length_filter_le _ formals.positional)
      (List.length_filter_le _ formals.regular)

theorem map_hasDefault_slots_signature
    (last : DefaultsLast formals.placeDefaults) :
    (signature formals).slots.map Slot.hasDefault =
      (formals.positional ++ formals.regular ++ formals.keywordOnly).map (·.default.isSome) := by
  have count : (signature formals).placeArguments.length = formals.placeDefaults.length := by
    simp [signature, Signature.placeArguments, Formals.placeDefaults]
  have few : (signature formals).defaults = (formals.placeDefaults.filter id).length := by
    rw [Formals.placeDefaults, List.filter_map, List.length_map]
    rfl
  rw [Signature.map_hasDefault_slots (defaults_signature_le formals), count, few,
    ← last.eq_lastFew, List.map_append]
  simp [signature, Formals.placeDefaults, Function.comp_def]

end Program

namespace Outline.File

/-- The parameters that a file takes out of a signature.  They are those that are filled by place,
in order, and then those that are filled by name only. -/
structure TakesOut (file : File) (signature : Signature) (parameters : List DeclaredParameter) :
    Prop where
  /-- One parameter for each one that is written, in source order. -/
  each : List.Forall₂
    (fun argument parameter =>
      parameter.name = argument.name ∧ file.typeOf argument = .ok parameter.type ∧
        parameter.span = Span.ofRange file.path argument.range)
    (signature.positional ++ signature.regular ++ signature.keywordOnly.map (·.1)) parameters
  /-- Of those that are filled by place the last few have the defaults. -/
  hasDefault : parameters.map (·.hasDefault) =
    lastFew (signature.positional ++ signature.regular).length signature.defaults ++
      signature.keywordOnly.map (·.2)
  /-- A default may be added to one of them alone where it leaves those by place in order. -/
  alone : ∀ i parameter, parameters[i]? = some parameter → parameter.hasDefault = false →
    (parameter.acceptsDefault = true ↔
      DefaultsLast ((givenDefaults {i} (parameters.map (·.hasDefault))).take
        (signature.positional ++ signature.regular).length))
  /-- Defaults may be added to all of them together that accept one. -/
  together : ∀ chosen : Finset ℕ,
    (∀ i ∈ chosen, ∃ parameter, parameters[i]? = some parameter ∧ parameter.hasDefault = false ∧
      parameter.acceptsDefault = true) →
    DefaultsLast ((givenDefaults chosen (parameters.map (·.hasDefault))).take
      (signature.positional ++ signature.regular).length)

variable {file : File} {signature : Signature} {parameters : List DeclaredParameter}

/-- A parameter that describes a slot has its name, its type, its span and what is known of its
default. -/
theorem Describes.fields {slot : Slot} {parameter : DeclaredParameter}
    (describes : file.Describes slot parameter) :
    parameter.name = slot.argument.name ∧ file.typeOf slot.argument = .ok parameter.type ∧
      parameter.span = Span.ofRange file.path slot.argument.range ∧
      parameter.hasDefault = slot.hasDefault ∧ parameter.acceptsDefault = slot.acceptsDefault := by
  obtain ⟨type, understood, rfl⟩ := describes_iff.mp describes
  exact ⟨rfl, understood, rfl, rfl, rfl⟩

/-- What is taken out of a signature whose slots are described. -/
theorem takesOut_of_describes (few : signature.defaults ≤ signature.placeArguments.length)
    (described : List.Forall₂ file.Describes signature.slots parameters) :
    file.TakesOut signature parameters := by
  have flags : parameters.map (·.hasDefault) =
      lastFew signature.placeArguments.length signature.defaults ++
        signature.keywordOnly.map (·.2) := by
    rw [← signature.map_hasDefault_slots few]
    exact (Related.map_eq (fun _ _ describes => describes.fields.2.2.2.1.symm) described).symm
  -- a parameter accepts a default from the last place without one on
  have accepts {i : ℕ} {parameter : DeclaredParameter} (here : parameters[i]? = some parameter) :
      parameter.acceptsDefault = true ↔
        signature.placeArguments.length - signature.defaults - 1 ≤ i := by
    obtain ⟨slot, there, describes⟩ := Related.exists_of_getElem? described here
    rw [describes.fields.2.2.2.2]
    exact Signature.acceptsDefault_iff there
  constructor
  · have arguments := signature.map_argument_slots
    rw [Signature.arguments] at arguments
    rw [← arguments, List.forall₂_map_left_iff]
    refine described.imp ?_
    intro slot parameter describes
    obtain ⟨name, type, span, -⟩ := describes.fields
    exact ⟨name, type, span⟩
  · exact flags
  · intro i parameter here bare
    rw [accepts here, flags]
    by_cases place : i < signature.placeArguments.length - signature.defaults
    · exact (defaultsLast_singleton_iff few _ place).symm
    · have behind : signature.placeArguments.length - signature.defaults - 1 ≤ i := by omega
      refine iff_of_true behind (defaultsLast_of_chosen few _ ?_)
      intro j chosen
      rwa [Finset.mem_singleton.mp chosen]
  · intro chosen free
    rw [flags]
    apply defaultsLast_of_chosen few
    intro i found
    obtain ⟨parameter, here, -, accepting⟩ := free i found
    exact (accepts here).mp accepting

/-- Where written defaults come last, the parameters are those that are written, each with the
default that it has there. -/
theorem map_default_of_describes {formals : Formals} (last : DefaultsLast formals.placeDefaults)
    (described : List.Forall₂ file.Describes (Program.signature formals).slots parameters) :
    parameters.map (fun parameter => (parameter.name, parameter.hasDefault)) =
      (formals.positional ++ formals.regular ++ formals.keywordOnly).map fun formal =>
        (formal.name, formal.default.isSome) := by
  have written : (Program.signature formals).arguments.map Argument.name =
      (formals.positional ++ formals.regular ++ formals.keywordOnly).map Formal.name := by
    simp [Program.signature, Signature.arguments, Program.argument, Function.comp_def]
  have names : (Program.signature formals).slots.map (·.argument.name) =
      (formals.positional ++ formals.regular ++ formals.keywordOnly).map Formal.name := by
    rw [← written, ← Signature.map_argument_slots, List.map_map]
    rfl
  rw [← List.zip_map', ← List.zip_map',
    ← Related.map_eq (fun _ _ describes => describes.fields.1.symm) described,
    ← Related.map_eq (fun _ _ describes => describes.fields.2.2.2.1.symm) described,
    Program.map_hasDefault_slots_signature last, names]

/-- The parameters of a signature are taken out of it whenever each annotation can be understood.
Those of written parameters, of which the ones with defaults come last, have the defaults that are
written; what takes all the rest is left out.  In parameters that are read they do come last. -/
theorem parameters_of_signature (file : File) {signature : Signature}
    (few : signature.defaults ≤ (signature.positional ++ signature.regular).length) :
    ((∃ parameters, file.parameters signature = .ok parameters) ↔
      ∀ argument ∈ signature.arguments, ∃ type, file.typeOf argument = .ok type) ∧
    (∀ parameters, file.parameters signature = .ok parameters →
      file.TakesOut signature parameters ∧
      ∀ formals, Program.signature formals = signature → DefaultsLast formals.placeDefaults →
        parameters.map (fun parameter => (parameter.name, parameter.hasDefault)) =
          (formals.positional ++ formals.regular ++ formals.keywordOnly).map fun formal =>
            (formal.name, formal.default.isSome)) ∧
    ∀ rules formal close tokens place formals next,
      (Formals.read rules formal close).Reads tokens place formals next →
        DefaultsLast formals.placeDefaults := by
  rw [parameters_eq_mapM]
  refine ⟨?_, ?_, fun _ _ _ _ _ _ _ => Formals.defaultsLast_of_read⟩
  · rw [Outcome.exists_mapM_ok_iff, ← signature.map_argument_slots, List.forall_mem_map]
    exact forall₂_congr fun slot _ => exists_describes_iff_typeOf
  · intro parameters h
    have described : List.Forall₂ file.Describes signature.slots parameters :=
      Outcome.forall₂_of_mapM_eq_ok h
    refine ⟨takesOut_of_describes few described, ?_⟩
    rintro formals rfl last
    exact map_default_of_describes last described

/-- The signature of `def f(a, /, b, c=0, *, d, e=0)`. -/
def mixedSignature : Signature where
  positional := [⟨"a", none, default⟩]
  regular := [⟨"b", none, default⟩, ⟨"c", none, default⟩]
  defaults := 1
  keywordOnly := [(⟨"d", none, default⟩, false), (⟨"e", none, default⟩, true)]

/-- There a default may be added at `b` and at `d`, and not at `a`. -/
theorem parameters_of_mixedSignature :
    mixedSignature.defaults ≤ (mixedSignature.positional ++ mixedSignature.regular).length ∧
    ∃ parameters,
      File.parameters ⟨"f.py", Source.ofText [], {}⟩ mixedSignature = .ok parameters ∧
      File.TakesOut ⟨"f.py", Source.ofText [], {}⟩ mixedSignature parameters ∧
      parameters.map (fun parameter =>
        (parameter.name, parameter.hasDefault, parameter.acceptsDefault)) =
        [("a", false, false), ("b", false, true), ("c", true, true), ("d", false, true),
          ("e", true, true)] := by
  have few : mixedSignature.defaults ≤
      (mixedSignature.positional ++ mixedSignature.regular).length := by decide
  obtain ⟨found, taken, -⟩ := parameters_of_signature ⟨"f.py", Source.ofText [], {}⟩ few
  have bare : ∀ argument ∈ mixedSignature.arguments, argument.written = none := by
    simp [mixedSignature, Signature.arguments]
  obtain ⟨parameters, h⟩ := found.mpr fun argument inside =>
    ⟨none, by rw [typeOf, bare argument inside]⟩
  refine ⟨few, parameters, h, (taken parameters h).1, ?_⟩
  rw [parameters_eq_mapM] at h
  have known (slot : Slot) (parameter : DeclaredParameter)
      (describes : File.Describes ⟨"f.py", Source.ofText [], {}⟩ slot parameter) :
      (slot.argument.name, slot.hasDefault, slot.acceptsDefault) =
        (parameter.name, parameter.hasDefault, parameter.acceptsDefault) := by
    obtain ⟨name, -, -, hasDefault, acceptsDefault⟩ := describes.fields
    rw [name, hasDefault, acceptsDefault]
  exact (Related.map_eq known (Outcome.forall₂_of_mapM_eq_ok h)).symm

end Outline.File

end SignatureLint

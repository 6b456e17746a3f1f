import SignatureLint.Proofs.Analysis.Slots
import SignatureLint.Proofs.Fixing.Defaults

/-!
# What a round of mending changes

Of the slots that are filled by place those without a default come first, and only the
last of them takes one.  So a round gives a default to the last one if that is a
modifier, and to every modifier that is filled by name.  What is left is blocked by a
later slot without a default that is no modifier.
-/

namespace SignatureLint

open Outline

namespace Slot

/-- Slots of which those without a default come first, and of these only the last takes one. -/
inductive Aligned : List Slot → Prop where
  | defaults {slots : List Slot} (given : ∀ slot ∈ slots, slot.hasDefault = true) : Aligned slots
  | last {slot : Slot} {rest : List Slot} (missing : slot.hasDefault = false)
      (accepts : slot.acceptsDefault = true) (given : ∀ slot ∈ rest, slot.hasDefault = true) :
      Aligned (slot :: rest)
  | before {slot : Slot} {rest : List Slot} (missing : slot.hasDefault = false)
      (refuses : slot.acceptsDefault = false) (aligned : Aligned rest)
      (more : ∃ slot ∈ rest, slot.hasDefault = false) : Aligned (slot :: rest)

/-- Whether each slot without a default is a modifier. -/
def required (config : Config) (slots : List Slot) : List Bool :=
  (slots.filter (!·.hasDefault)).map (·.isModifier config)

/-- The modifiers without a default that have, behind them, a slot without a default that is no
modifier. -/
def blocked (config : Config) : List Slot → List Slot
  | [] => []
  | slot :: rest =>
      if slot.isMissing config &&
          rest.any (fun later => !later.hasDefault && !later.isModifier config)
      then slot :: blocked config rest
      else blocked config rest

/-- A slot after a round of mending, in a function that is eligible or not. -/
structure Mended (config : Config) (eligible : Bool) (slot slot' : Slot) : Prop where
  written : slot'.argument.written.map Located.value = slot.argument.written.map Located.value
  hasDefault : slot'.hasDefault = (slot.hasDefault || (eligible && slot.isFixable config))

variable {config : Config} {slot slot' : Slot} {slots slots' : List Slot}

theorem Mended.isModifier_eq {eligible : Bool} (mended : Mended config eligible slot slot') :
    slot'.isModifier config = slot.isModifier config :=
  Argument.belongs_congr mended.written config.registry .modifier

theorem Mended.isCollection_eq {eligible : Bool} (mended : Mended config eligible slot slot') :
    slot'.isCollection config = slot.isCollection config :=
  Argument.belongs_congr mended.written config.registry .unstableCollection

theorem Mended.isMissing_eq (mended : Mended config true slot slot') :
    slot'.isMissing config = (slot.isMissing config && !slot.isFixable config) := by
  rw [isMissing, mended.hasDefault, mended.isModifier_eq, isFixable, isMissing]
  cases slot.hasDefault <;> cases slot.isModifier config <;> cases slot.acceptsDefault <;> rfl

theorem length_filter_isMissing (mended : List.Forall₂ (Mended config true) slots slots') :
    (slots'.filter (isMissing config)).length + (slots.filter (isFixable config)).length =
      (slots.filter (isMissing config)).length := by
  induction mended with
  | nil => rfl
  | @cons slot slot' rest rest' first _ ih =>
      rw [List.filter_cons, List.filter_cons, List.filter_cons, first.isMissing_eq, isFixable]
      cases slot.isMissing config <;> cases slot.acceptsDefault <;>
        simp only [Bool.and_true, Bool.and_false, Bool.not_true, Bool.not_false, if_true,
          Bool.false_eq_true, if_false, List.length_cons] <;>
        omega

/-! ## Slots without a default -/

theorem required_of_given (given : ∀ slot ∈ slots, slot.hasDefault = true) :
    required config slots = [] := by
  rw [required, List.filter_eq_nil_iff.mpr, List.map_nil]
  intro slot found
  rw [given slot found]
  decide

theorem required_cons_of_missing (missing : slot.hasDefault = false) (rest : List Slot) :
    required config (slot :: rest) = slot.isModifier config :: required config rest := by
  rw [required, List.filter_cons_of_pos (by rw [missing]; rfl), List.map_cons, required]

theorem required_ne_nil (config : Config) (more : ∃ slot ∈ slots, slot.hasDefault = false) :
    required config slots ≠ [] := by
  obtain ⟨slot, found, missing⟩ := more
  intro empty
  rw [required, List.map_eq_nil_iff, List.filter_eq_nil_iff] at empty
  exact empty slot found (by rw [missing]; rfl)

theorem isFixable_of_hasDefault (given : slot.hasDefault = true) :
    slot.isFixable config = false := by
  rw [isFixable, isMissing, given]
  rfl

theorem given_of_mended (given : ∀ slot ∈ slots, slot.hasDefault = true) {eligible : Bool}
    (mended : List.Forall₂ (Mended config eligible) slots slots') :
    ∀ slot ∈ slots', slot.hasDefault = true := by
  intro slot' found
  obtain ⟨slot, found', mended⟩ := Related.exists_of_mem mended.flip found
  rw [mended.hasDefault, given slot found']
  rfl

/-- A round gives a default to the last slot without one if that is a modifier. -/
theorem Aligned.required_mended (aligned : Aligned slots)
    (mended : List.Forall₂ (Mended config true) slots slots') :
    required config slots' =
      if (required config slots).getLast? = some true then (required config slots).dropLast
      else required config slots := by
  induction aligned generalizing slots' with
  | defaults given =>
      rw [required_of_given given, required_of_given (given_of_mended given mended)]
      rfl
  | @last slot rest missing accepts given =>
      cases mended with
      | @cons _ slot' _ rest' first others =>
          have given' := given_of_mended given others
          rw [required_cons_of_missing missing, required_of_given given]
          -- the last one without a default is mended exactly if it is a modifier
          have hasDefault : slot'.hasDefault = slot.isModifier config := by
            rw [first.hasDefault, isFixable, isMissing, missing, accepts]
            cases slot.isModifier config <;> rfl
          cases modifier : slot.isModifier config with
          | true =>
              rw [modifier] at hasDefault
              exact required_of_given (List.forall_mem_cons.mpr ⟨hasDefault, given'⟩)
          | false =>
              rw [modifier] at hasDefault
              rw [required_cons_of_missing hasDefault, required_of_given given',
                first.isModifier_eq, modifier]
              rfl
  | @before slot rest missing refuses aligned more ih =>
      cases mended with
      | @cons _ slot' _ rest' first others =>
          have hasDefault : slot'.hasDefault = false := by
            rw [first.hasDefault, isFixable, missing, refuses, Bool.and_false]
            rfl
          obtain ⟨head, tail, here⟩ := List.exists_cons_of_ne_nil (required_ne_nil config more)
          rw [required_cons_of_missing missing, required_cons_of_missing hasDefault,
            first.isModifier_eq, ih others, here, List.getLast?_cons_cons, List.dropLast_cons_cons]
          split <;> rfl

/-- A slot is mended if the last one without a default is a modifier. -/
theorem Aligned.filter_isFixable_eq_nil_iff (aligned : Aligned slots) :
    slots.filter (isFixable config) = [] ↔ (required config slots).getLast? ≠ some true := by
  induction aligned with
  | @defaults slots given =>
      rw [required_of_given given]
      constructor
      · intro _ other
        cases other
      · intro _
        rw [List.filter_eq_nil_iff]
        intro slot found
        rw [isFixable_of_hasDefault (given slot found)]
        decide
  | @last slot rest missing accepts given =>
      -- behind the last one without a default nothing is missing, so only this one can be mended
      have others : rest.filter (isFixable config) = [] := by
        rw [List.filter_eq_nil_iff]
        intro slot found
        rw [isFixable_of_hasDefault (given slot found)]
        decide
      have here : slot.isFixable config = slot.isModifier config := by
        rw [isFixable, isMissing, missing, accepts]
        cases slot.isModifier config <;> rfl
      rw [required_cons_of_missing missing, required_of_given given, List.filter_cons, here, others]
      cases slot.isModifier config <;> simp
  | @before slot rest missing refuses aligned more ih =>
      have here : slot.isFixable config = false := by
        rw [isFixable, refuses, Bool.and_false]
      obtain ⟨head, tail, same⟩ := List.exists_cons_of_ne_nil (required_ne_nil config more)
      rw [required_cons_of_missing missing, same, List.getLast?_cons_cons, ← same,
        List.filter_cons_of_neg (by rw [here]; decide), ih]

theorem blocked_eq_nil (given : ∀ slot ∈ slots, slot.isMissing config = false) :
    blocked config slots = [] := by
  induction slots with
  | nil => rfl
  | cons slot rest ih =>
      obtain ⟨here, others⟩ := List.forall_mem_cons.mp given
      rw [blocked, here, Bool.false_and, if_neg Bool.false_ne_true, ih others]

theorem isMissing_of_hasDefault (given : slot.hasDefault = true) :
    slot.isMissing config = false := by
  rw [isMissing, given]
  rfl

/-- If no slot is mended, every modifier without a default is blocked. -/
theorem Aligned.filter_isMissing_eq_blocked (aligned : Aligned slots)
    (stuck : slots.filter (isFixable config) = []) :
    slots.filter (isMissing config) = blocked config slots := by
  -- where nothing is missing there is nothing to show
  have none {slots : List Slot} (given : ∀ slot ∈ slots, slot.isMissing config = false) :
      slots.filter (isMissing config) = blocked config slots := by
    rw [blocked_eq_nil given, List.filter_eq_nil_iff]
    intro slot found
    rw [given slot found]
    decide
  induction aligned with
  | defaults given => exact none fun slot found => isMissing_of_hasDefault (given slot found)
  | @last slot rest missing accepts given =>
      have here : slot.isMissing config = false := by
        have := List.filter_eq_nil_iff.mp stuck slot List.mem_cons_self
        rwa [isFixable, accepts, Bool.and_true, Bool.not_eq_true] at this
      exact none (List.forall_mem_cons.mpr
        ⟨here, fun slot found => isMissing_of_hasDefault (given slot found)⟩)
  | @before slot rest missing refuses aligned more ih =>
      have others : rest.filter (isFixable config) = [] := by
        rw [List.filter_eq_nil_iff] at stuck ⊢
        exact fun slot found => stuck slot (List.mem_cons_of_mem _ found)
      have nonempty := required_ne_nil config more
      have last := aligned.filter_isFixable_eq_nil_iff.mp others
      rw [List.getLast?_eq_some_getLast nonempty, ne_eq, Option.some_inj, Bool.not_eq_true] at last
      have found := List.getLast_mem nonempty
      rw [last, required] at found
      obtain ⟨later, member, other⟩ := List.mem_map.mp found
      obtain ⟨member, undefaulted⟩ := List.mem_filter.mp member
      have behind :
          (rest.any fun later => !later.hasDefault && !later.isModifier config) = true := by
        rw [List.any_eq_true]
        refine ⟨later, member, ?_⟩
        rw [undefaulted, other]
        rfl
      rw [List.filter_cons, blocked, behind, Bool.and_true, ih others]

end Slot

/-- Slots of which those from an index on have defaults, and the one before them takes one, are
aligned. -/
theorem Slot.aligned_map_zipIdx (arguments : List Argument) (firstDefault index : Nat)
    (inside : firstDefault ≤ index + arguments.length) :
    Slot.Aligned ((arguments.zipIdx index).map fun pair =>
      ⟨pair.1, firstDefault ≤ pair.2, firstDefault - 1 ≤ pair.2⟩) := by
  induction arguments generalizing index with
  | nil => exact .defaults fun _ found => absurd found List.not_mem_nil
  | cons argument rest ih =>
      rw [List.length_cons] at inside
      rw [List.zipIdx_cons, List.map_cons]
      -- the slots from the first default on have defaults
      have given (next : Nat) (reached : firstDefault ≤ next) :
          ∀ slot ∈ ((rest.zipIdx next).map fun pair =>
            (⟨pair.1, firstDefault ≤ pair.2, firstDefault - 1 ≤ pair.2⟩ : Slot)),
            slot.hasDefault = true := by
        intro slot found
        obtain ⟨pair, member, rfl⟩ := List.mem_map.mp found
        have := List.le_snd_of_mem_zipIdx member
        exact decide_eq_true (by omega)
      rcases Nat.lt_trichotomy firstDefault (index + 1) with passed | here | ahead
      · refine .defaults (List.forall_mem_cons.mpr ⟨decide_eq_true (by omega), ?_⟩)
        exact given (index + 1) (by omega)
      · refine .last (decide_eq_false (by omega)) (decide_eq_true (by omega)) ?_
        exact given (index + 1) (by omega)
      · refine .before (decide_eq_false (by omega)) (decide_eq_false (by omega))
          (ih (index + 1) (by omega)) ?_
        cases rest with
        | nil =>
            rw [List.length_nil] at inside
            omega
        | cons other more =>
            rw [List.zipIdx_cons, List.map_cons]
            exact ⟨_, List.mem_cons_self, decide_eq_false (by omega)⟩

theorem Signature.aligned_placeSlots (signature : Signature) :
    Slot.Aligned signature.placeSlots :=
  Slot.aligned_map_zipIdx signature.placeArguments _ 0 (by omega)

theorem Signature.accepts_of_mem_nameSlots {signature : Signature} {slot : Slot}
    (found : slot ∈ signature.nameSlots) : slot.acceptsDefault = true := by
  obtain ⟨⟨argument, hasDefault⟩, -, rfl⟩ := List.mem_map.mp found
  rfl

/-! ## Rounds that are left -/

/-- How many of some flags at the end are set. -/
def trailing (flags : List Bool) : Nat :=
  (flags.reverse.takeWhile id).length

theorem trailing_le (flags : List Bool) : trailing flags ≤ flags.length := by
  exact Nat.le_trans (List.takeWhile_prefix id).length_le (Nat.le_of_eq List.length_reverse)

theorem trailing_concat_true (flags : List Bool) :
    trailing (flags ++ [true]) = trailing flags + 1 := by
  rw [trailing, List.reverse_append, List.reverse_singleton, List.singleton_append,
    List.takeWhile_cons_of_pos rfl, List.length_cons, trailing]

theorem trailing_concat_false (flags : List Bool) : trailing (flags ++ [false]) = 0 := by
  rw [trailing, List.reverse_append, List.reverse_singleton, List.singleton_append,
    List.takeWhile_cons_of_neg (by decide), List.length_nil]

theorem trailing_eq_zero_iff (flags : List Bool) :
    trailing flags = 0 ↔ flags.getLast? ≠ some true := by
  rcases List.eq_nil_or_concat flags with rfl | ⟨front, last, rfl⟩
  · decide
  · rw [List.concat_eq_append, List.getLast?_concat]
    cases last with
    | true => simp [trailing_concat_true]
    | false => simp [trailing_concat_false]

theorem trailing_dropLast (flags : List Bool) :
    trailing (if flags.getLast? = some true then flags.dropLast else flags) =
      trailing flags - 1 := by
  split
  · rename_i last
    rcases List.eq_nil_or_concat flags with rfl | ⟨front, b, rfl⟩
    · cases last
    · rw [List.concat_eq_append, List.getLast?_concat] at last
      rw [List.concat_eq_append, List.dropLast_concat, Option.some.inj last, trailing_concat_true,
        Nat.add_sub_cancel]
  · rename_i last
    rw [(trailing_eq_zero_iff flags).mpr last]

namespace Outline.File

/-- How many rounds of mending are left for a function. -/
def roundsLeft (file : File) (function : Scope × FunctionHeader) : Nat :=
  if file.isEligible function then
    max (trailing (Slot.required file.config function.2.signature.placeSlots))
      (if function.2.signature.nameSlots.filter (Slot.isFixable file.config) = [] then 0 else 1)
  else 0

variable {file file' : File} {function function' : Scope × FunctionHeader}

/-- A function after a round of mending. -/
def Mends (file : File) (function function' : Scope × FunctionHeader) : Prop :=
  Alike (Slot.Mended file.config (file.isEligible function)) function function'

theorem Mends.isEligible_eq (mends : file.Mends function function')
    (same : file'.config = file.config) :
    file'.isEligible function' = file.isEligible function := by
  rw [isEligible, isEligible, bindings, bindings, mends.scope, mends.decorators, same]

theorem roundsLeft_eq_zero_iff :
    file.roundsLeft function = 0 ↔ file.chosenSlots (Slot.isFixable file.config) function = [] := by
  rw [roundsLeft, chosenSlots]
  split
  · rw [Signature.slots, List.filter_append, List.append_eq_nil_iff,
      function.2.signature.aligned_placeSlots.filter_isFixable_eq_nil_iff, ← trailing_eq_zero_iff]
    split
    · rename_i none
      simp [none]
    · rename_i some
      simp [some]
  · simp

theorem Mends.roundsLeft_eq (mends : file.Mends function function')
    (same : file'.config = file.config) :
    file'.roundsLeft function' = file.roundsLeft function - 1 := by
  rw [roundsLeft, roundsLeft, mends.isEligible_eq same, same]
  cases eligible : file.isEligible function with
  | false => rfl
  | true =>
      unfold Mends at mends
      rw [eligible] at mends
      have names : function'.2.signature.nameSlots.filter (Slot.isFixable file.config) = [] := by
        rw [List.filter_eq_nil_iff]
        intro slot' found
        obtain ⟨slot, found', mended⟩ := Related.exists_of_mem mends.nameSlots.flip found
        have accepts := Signature.accepts_of_mem_nameSlots found'
        rw [Slot.isFixable, mended.isMissing_eq, Slot.isFixable, accepts, Bool.and_true,
          Bool.and_not_self, Bool.false_and]
        decide
      rw [if_pos rfl, if_pos rfl, if_pos names,
        function.2.signature.aligned_placeSlots.required_mended mends.placeSlots,
        trailing_dropLast]
      split <;> omega

/-- A function does not need more rounds than one, or than it has parameters without a default that
are filled by place. -/
theorem roundsLeft_le (file : File) (function : Scope × FunctionHeader) :
    file.roundsLeft function ≤
      max 1 (function.2.signature.placeSlots.filter (!·.hasDefault)).length := by
  have := trailing_le (Slot.required file.config function.2.signature.placeSlots)
  rw [Slot.required, List.length_map] at this
  unfold roundsLeft
  rw [Slot.required]
  split
  · split <;> omega
  · omega

/-! ## Counts -/

theorem Mends.length_missing (mends : file.Mends function function')
    (same : file'.config = file.config) :
    (file'.chosenSlots (Slot.isMissing file.config) function').length +
        (file.chosenSlots (Slot.isFixable file.config) function).length =
      (file.chosenSlots (Slot.isMissing file.config) function).length := by
  rw [chosenSlots, chosenSlots, chosenSlots, mends.isEligible_eq same]
  cases eligible : file.isEligible function with
  | false => rfl
  | true =>
      unfold Mends at mends
      rw [eligible] at mends
      simp only [if_true]
      exact Slot.length_filter_isMissing mends.slots

theorem length_flatMap_missing {functions functions' : List (Scope × FunctionHeader)}
    (mends : List.Forall₂ file.Mends functions functions') (same : file'.config = file.config) :
    (functions'.flatMap (file'.chosenSlots (Slot.isMissing file.config))).length +
        (functions.flatMap (file.chosenSlots (Slot.isFixable file.config))).length =
      (functions.flatMap (file.chosenSlots (Slot.isMissing file.config))).length := by
  induction mends with
  | nil => rfl
  | cons first _ ih =>
      have here := first.length_missing same
      simp only [List.flatMap_cons, List.length_append]
      omega

theorem Mends.map_collections {δ : Type} (mends : file.Mends function function')
    (same : file'.config = file.config) (d : δ) :
    (file'.chosenSlots (Slot.isCollection file.config) function').map (fun _ => d) =
      (file.chosenSlots (Slot.isCollection file.config) function).map fun _ => d := by
  rw [chosenSlots, chosenSlots, mends.isEligible_eq same]
  split
  · exact (Related.map_filter_eq (fun _ _ mended => ⟨mended.isCollection_eq.symm, rfl⟩)
      mends.slots).symm
  · rfl

theorem chosenSlots_isMissing_of_stuck
    (stuck : file.chosenSlots (Slot.isFixable file.config) function = []) :
    file.chosenSlots (Slot.isMissing file.config) function =
      if file.isEligible function then
        Slot.blocked file.config function.2.signature.placeSlots
      else [] := by
  unfold chosenSlots at stuck ⊢
  split
  · rename_i eligible
    rw [if_pos eligible, Signature.slots, List.filter_append, List.append_eq_nil_iff] at stuck
    have names : function.2.signature.nameSlots.filter (Slot.isMissing file.config) = [] := by
      rw [List.filter_eq_nil_iff]
      intro slot found
      have := List.filter_eq_nil_iff.mp stuck.2 slot found
      rwa [Slot.isFixable, Signature.accepts_of_mem_nameSlots found, Bool.and_true] at this
    rw [Signature.slots, List.filter_append, names, List.append_nil,
      function.2.signature.aligned_placeSlots.filter_isMissing_eq_blocked stuck.1]
  · rfl

end Outline.File

end SignatureLint

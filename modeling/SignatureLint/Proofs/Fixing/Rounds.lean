import Mathlib
import SignatureLint.Proofs.Fixing.OwnSource
import SignatureLint.Proofs.Fixing.Progress

/-!
# Mending again and again

A program is examined, its edits are applied, and the same is done with what comes of
it.  Every round gives a default to each modifier that takes one, and takes as many
findings away; the rounds end with the modifiers that are blocked.
-/

namespace SignatureLint

open Edit Insertion Lexer Outline Text

theorem Span.ofRange_injective {path : String} {range range' : Range}
    (same : Span.ofRange path range = Span.ofRange path range') : range = range' := by
  obtain ⟨⟨line, column⟩, ⟨line', column'⟩⟩ := range
  obtain ⟨⟨line₂, column₂⟩, ⟨line₂', column₂'⟩⟩ := range'
  simp only [Span.ofRange, Span.mk.injEq, Int.natCast_inj, true_and] at same
  obtain ⟨rfl, rfl, rfl, rfl⟩ := same
  rfl

namespace Program

variable {text : List Char} {statements : List Statement}

theorem map_range_slots (statements : List Statement) :
    (slots statements).map (·.argument.range) = rangesOfAll statements := by
  rw [← map_range_argumentsOfAll, ← File.map_argument_flatMap_slots {}, List.map_map]
  rfl

theorem nodup_map_range_slots (read : Program.read text = .ok statements) :
    ((slots statements).map (·.argument.range)).Nodup := by
  obtain ⟨parts, stands, apart⟩ := exists_parts_of_source read
  rw [map_range_slots]
  exact Stands.nodup stands apart

/-- The largest number of parameters without a default that are filled by place in one function. -/
def mostRequired (statements : List Statement) : Nat :=
  ((functionsOfAll {} statements).map fun function =>
    (function.2.signature.placeSlots.filter (!·.hasDefault)).length).foldr max 0

theorem le_mostRequired {function : Scope × FunctionHeader}
    (found : function ∈ functionsOfAll {} statements) :
    (function.2.signature.placeSlots.filter (!·.hasDefault)).length ≤ mostRequired statements := by
  unfold mostRequired
  generalize functionsOfAll {} statements = functions at found
  induction functions with
  | nil => cases found
  | cons first rest ih =>
      rw [List.map_cons, List.foldr_cons]
      rcases List.mem_cons.mp found with rfl | found
      · exact Nat.le_max_left _ _
      · exact Nat.le_trans (ih found) (Nat.le_max_right _ _)

end Program

/-! ## Chosen slots -/

theorem eq_of_mem_of_nodup_flatMap {α β : Type} {f : α → List β} {list : List α}
    (distinct : (list.flatMap f).Nodup) {a a' : α} (here : a ∈ list) (here' : a' ∈ list) {b : β}
    (found : b ∈ f a) (found' : b ∈ f a') : a = a' := by
  by_contra other
  have : Std.Symm (Function.onFun List.Disjoint f) := ⟨fun _ _ apart => List.disjoint_symm apart⟩
  exact (List.nodup_flatMap.mp distinct).2.forall here here' other found found'

namespace Outline.File

variable {file : File} {functions : List (Scope × FunctionHeader)} {choose : Slot → Bool}

/-- A slot is in the range of a chosen one if it is chosen itself. -/
theorem mem_map_range_chosenSlots_iff
    (distinct : ((functions.flatMap (·.2.signature.slots)).map (·.argument.range)).Nodup)
    {function : Scope × FunctionHeader} (found : function ∈ functions) {slot : Slot}
    (found' : slot ∈ function.2.signature.slots) :
    slot.argument.range ∈ (functions.flatMap (file.chosenSlots choose)).map (·.argument.range) ↔
      (file.isEligible function && choose slot) = true := by
  rw [List.map_flatMap] at distinct
  rw [Bool.and_eq_true]
  constructor
  · intro member
    obtain ⟨other, member, same⟩ := List.mem_map.mp member
    obtain ⟨function', within, member⟩ := List.mem_flatMap.mp member
    unfold chosenSlots at member
    split at member
    · rename_i eligible
      obtain ⟨within', chosen⟩ := List.mem_filter.mp member
      have shared : other.argument.range ∈
          function.2.signature.slots.map (·.argument.range) := by
        rw [same]
        exact List.mem_map_of_mem found'
      cases eq_of_mem_of_nodup_flatMap distinct within found (List.mem_map_of_mem within') shared
      have each := (List.nodup_flatMap.mp distinct).1 function found
      rw [List.inj_on_of_nodup_map each found' within' same.symm]
      exact ⟨eligible, chosen⟩
    · cases member
  · rintro ⟨eligible, chosen⟩
    refine List.mem_map_of_mem (List.mem_flatMap.mpr ⟨function, found, ?_⟩)
    rw [chosenSlots, if_pos eligible]
    exact List.mem_filter.mpr ⟨found', chosen⟩

theorem mem_slots_of_mem_chosenSlots {slot : Slot}
    (found : slot ∈ functions.flatMap (file.chosenSlots choose)) :
    slot ∈ functions.flatMap (·.2.signature.slots) ∧ choose slot = true := by
  obtain ⟨function, within, member⟩ := List.mem_flatMap.mp found
  unfold chosenSlots at member
  split at member
  · obtain ⟨member, chosen⟩ := List.mem_filter.mp member
    exact ⟨List.mem_flatMap.mpr ⟨function, within, member⟩, chosen⟩
  · cases member

end Outline.File

theorem Slot.isOpen_of_isFixable {config : Config} {slot : Slot}
    (fixable : slot.isFixable config = true) : slot.isOpen = true := by
  simp only [isFixable, isMissing, Bool.and_eq_true] at fixable
  rw [isOpen, fixable.2, fixable.1.1]
  rfl

/-! ## Rounds -/

namespace FileOutline

/-- One round of mending: what is found in a program, and the text after the edits that are applied
without asking. -/
structure Round [Wordings] (path : String) (text : List Char) (found : List Diagnostic)
    (next : List Char) : Prop where
  examined : ∃ outline, FileOutline.ofSource path text {} = .ok outline ∧ outline.error = none ∧
    found = ((Analyzer.start {}).examine outline).1
  applied : applyAll (String.ofList text) (Diagnostic.fixableEdits found) =
    .ok (String.ofList next)

/-- A text that came of a program by giving defaults to parameters. -/
structure Reached [Wordings] (path : String) (source text : List Char) : Prop where
  returns : ReturnsFeed text
  defaulted : Program.Defaulted source text
  outlined : ∃ outline, FileOutline.ofSource path text {} = .ok outline ∧ outline.error = none

variable {path : String} {source text : List Char} {outline : FileOutline}

theorem stands_chosenSlots {statements : List Statement} {parts : List (Nat × Nat)}
    (declares : List.Forall₂ (File.Declares ⟨path, Source.ofText text, {}⟩)
      (functionsOfAll {} statements) outline.declarations)
    (located : List.Forall₂ (File.Locates ⟨path, Source.ofText text, {}⟩ text statements)
      (outline.fixable {}) parts) :
    List.Forall₂ (fun slot part => Stands text slot.argument.range part)
      ((functionsOfAll {} statements).flatMap
        (File.chosenSlots ⟨path, Source.ofText text, {}⟩ (Slot.isFixable {}))) parts := by
  have spans : List.Forall₂
      (fun span part => ∃ range, span = Span.ofRange path range ∧ Stands text range part)
      ((outline.fixable {}).map (·.span)) parts := by
    rw [List.forall₂_map_left_iff]
    apply located.imp
    rintro parameter part ⟨slot, -, describes, stands⟩
    exact ⟨_, describes.span_eq, stands⟩
  have same := map_span_fixable rfl declares
  rw [← List.map_flatMap] at same
  rw [same, List.forall₂_map_left_iff] at spans
  apply spans.imp
  rintro slot part ⟨range, equal, stands⟩
  rwa [Span.ofRange_injective equal]

theorem exists_descending {slots : List Slot} {parts : List (Nat × Nat)}
    (stands : List.Forall₂ (fun slot part => Stands text slot.argument.range part) slots parts)
    (order : parts.Pairwise fun first second => first.2 ≤ second.1) :
    ∃ chosen : List (Range × Nat × Nat),
      chosen.map (·.1) = (slots.map (·.argument.range)).reverse ∧
      chosen.map (·.2.2) = (parts.map (·.2)).reverse ∧
      (∀ one ∈ chosen, Stands text one.1 one.2) ∧
      chosen.Pairwise fun later earlier => earlier.2.2 ≤ later.2.1 := by
  obtain ⟨pairs, rfl, rfl, each⟩ := Related.exists_pairs stands
  refine ⟨pairs.reverse.map fun pair => (pair.1.argument.range, pair.2), ?_, ?_, ?_, ?_⟩
  · rw [List.map_map, List.map_reverse, List.map_map]
    rfl
  · rw [List.map_map, List.map_reverse, List.map_map]
    rfl
  · intro one member
    obtain ⟨pair, within, rfl⟩ := List.mem_map.mp member
    exact each pair (List.mem_reverse.mp within)
  · rw [List.pairwise_map] at order
    rw [List.pairwise_map, List.pairwise_reverse]
    exact order

theorem applyAll_eq_foldl {statements : List Statement} {parts : List (Nat × Nat)}
    (returns : ReturnsFeed text)
    (located : List.Forall₂ (File.Locates ⟨path, Source.ofText text, {}⟩ text statements)
      (outline.fixable {}) parts)
    (order : parts.Pairwise fun first second => first.2 ≤ second.1) :
    applyAll (String.ofList text) (Diagnostic.fixableEdits (outline.findings {})) =
      .ok (String.ofList ((parts.map (·.2)).reverse.foldl (insertOne usualDefault) text)) := by
  rw [foldl_insertOne usualDefault text,
    insertAll_perm usualDefault (List.reverse_perm (parts.map (·.2)))]
  · exact applyAll_of_locates returns located order
  · rw [List.pairwise_reverse]
    exact pairwise_lt_of_locates located order
  · intro place member
    obtain ⟨part, within, rfl⟩ := List.mem_map.mp (List.mem_reverse.mp member)
    obtain ⟨parameter, -, slot, -, -, stands⟩ := Related.exists_of_mem located.flip within
    exact stands.inside

/-- A program with more defaults than one that has an outline without an error has such an outline
too. -/
theorem exists_ofSource_of_filled [Wordings] {next : List Char}
    {statements statements' : List Statement}
    {chosen : List Range} (reads : Program.read next = .ok statements')
    (declares : List.Forall₂ (File.Declares ⟨path, Source.ofText text, {}⟩)
      (functionsOfAll {} statements) outline.declarations)
    (alike : List.Forall₂ (Alike (Slot.Filled chosen)) (functionsOfAll {} statements)
      (functionsOfAll {} statements')) :
    ∃ outline, FileOutline.ofSource path next {} = .ok outline ∧ outline.error = none := by
  apply exists_ofSource reads
  intro function' within' slot' found'
  obtain ⟨function, within, alike⟩ := Related.exists_of_mem alike.flip within'
  obtain ⟨slot, found, filled⟩ := Related.exists_of_mem alike.slots.flip found'
  obtain ⟨declaration, -, declares⟩ := Related.exists_of_mem declares within
  obtain ⟨parameter, -, describes⟩ := Related.exists_of_mem declares.parameters found
  exact describes.exists_describes filled.written

/-- Every program that is reached can be mended once more.  Each modifier to which a default is
added without asking has one then, and the rest of the program is the same. -/
theorem exists_round [Wordings] (keeps : Program.KeepsTree source)
    (reached : Reached path source text) :
    ∃ (found : List Diagnostic) (next : List Char) (statements statements' : List Statement),
      Program.read text = .ok statements ∧ Round path text found next ∧
      Reached path source next ∧ Program.read next = .ok statements' ∧
      List.Forall₂ (File.Mends ⟨path, Source.ofText text, {}⟩) (functionsOfAll {} statements)
        (functionsOfAll {} statements') := by
  obtain ⟨returns, defaulted, outline, read, whole⟩ := reached
  obtain ⟨statements, parts, reads, located, order⟩ := exists_parts_fixable read whole
  have declares := declares_of_read read whole reads
  obtain ⟨chosen, ranges, places, stands, descending⟩ :=
    exists_descending (stands_chosenSlots declares located) order
  have mended : ∀ function ∈ functionsOfAll {} statements,
      ∀ slot ∈ function.2.signature.slots, slot.argument.range ∈ chosen.map (·.1) ↔
        (File.isEligible ⟨path, Source.ofText text, {}⟩ function && slot.isFixable {}) = true := by
    intro function found slot found'
    rw [ranges, List.mem_reverse]
    exact File.mem_map_range_chosenSlots_iff (Program.nodup_map_range_slots reads) found found'
  have there : ∀ one ∈ chosen, ∃ slot ∈ Program.slots statements,
      slot.argument.range = one.1 := by
    intro one member
    have member : one.1 ∈ chosen.map (·.1) := List.mem_map_of_mem member
    rw [ranges, List.mem_reverse] at member
    obtain ⟨slot, found, same⟩ := List.mem_map.mp member
    exact ⟨slot, (File.mem_slots_of_mem_chosenSlots found).1, same⟩
  have opens : ∀ slot ∈ Program.slots statements, slot.argument.range ∈ chosen.map (·.1) →
      slot.isOpen = true := by
    intro slot found member
    obtain ⟨function, within, found⟩ := List.mem_flatMap.mp found
    have both := (mended function within slot found).mp member
    rw [Bool.and_eq_true] at both
    exact Slot.isOpen_of_isFixable both.2
  obtain ⟨defaulted', returns', statements', reads', alike⟩ :=
    Program.exists_of_chosen keeps defaulted returns reads ⟨stands, descending, there, opens⟩
  rw [places] at defaulted' returns' reads'
  refine ⟨outline.findings {}, _, statements, statements', reads,
    ⟨⟨outline, read, whole, (Analyzer.examine_start {} outline).symm⟩,
      applyAll_eq_foldl returns located order⟩,
    ⟨returns', defaulted', exists_ofSource_of_filled reads' declares alike⟩, reads', ?_⟩
  -- the slots that are given defaults are those that are fixable in eligible functions
  refine ((List.forall₂_and_left _ _).mpr ⟨fun _ => id, alike⟩).imp ?_
  rintro function function' ⟨within, alike⟩
  apply alike.imp
  intro slot found slot' filled
  refine ⟨filled.written, ?_⟩
  rw [filled.hasDefault, Bool.eq_iff_iff, Bool.or_eq_true, Bool.or_eq_true, decide_eq_true_iff,
    mended function within slot found]

namespace Round

variable {found : List Diagnostic} {next : List Char} {statements : List Statement}

theorem map_location_modifiers [Wordings] (round : Round path text found next)
    (reads : Program.read text = .ok statements) :
    (found.filter (·.issue = .modifierWithoutDefault)).map (·.location) =
      (functionsOfAll {} statements).flatMap fun function =>
        (File.chosenSlots ⟨path, Source.ofText text, {}⟩ (Slot.isMissing {}) function).map
          fun slot => Span.ofRange path slot.argument.range := by
  obtain ⟨outline, read, whole, rfl⟩ := round.examined
  rw [Analyzer.examine_start]
  exact map_location_filter_modifiers rfl (declares_of_read read whole reads)

theorem map_issue_collections [Wordings] (round : Round path text found next)
    (reads : Program.read text = .ok statements) :
    (found.filter (·.issue = .unstableCollections)).map (·.issue) =
      (functionsOfAll {} statements).flatMap fun function =>
        (File.chosenSlots ⟨path, Source.ofText text, {}⟩ (Slot.isCollection {}) function).map
          fun _ => .unstableCollections := by
  obtain ⟨outline, read, whole, rfl⟩ := round.examined
  rw [Analyzer.examine_start]
  exact map_issue_filter_collections rfl (declares_of_read read whole reads)

theorem length_fixableEdits [Wordings] (round : Round path text found next)
    (reads : Program.read text = .ok statements) :
    (Diagnostic.fixableEdits found).length =
      ((functionsOfAll {} statements).flatMap
        (File.chosenSlots ⟨path, Source.ofText text, {}⟩ (Slot.isFixable {}))).length := by
  obtain ⟨outline, read, whole, rfl⟩ := round.examined
  have spans := congrArg List.length (map_span_fixable rfl (declares_of_read read whole reads))
  rw [← List.map_flatMap, List.length_map, List.length_map] at spans
  rw [Analyzer.examine_start, fixableEdits_findings, List.length_map]
  exact spans

theorem fixableEdits_eq_nil_iff [Wordings] (round : Round path text found next)
    (reads : Program.read text = .ok statements) :
    Diagnostic.fixableEdits found = [] ↔ ∀ function ∈ functionsOfAll {} statements,
      File.chosenSlots ⟨path, Source.ofText text, {}⟩ (Slot.isFixable {}) function = [] := by
  rw [← List.length_eq_zero_iff, round.length_fixableEdits reads, List.length_eq_zero_iff,
    List.flatMap_eq_nil_iff]

theorem next_eq [Wordings] (round : Round path text found next)
    (none : Diagnostic.fixableEdits found = []) : next = text := by
  have applied := round.applied
  rw [none, applyAll_nil] at applied
  exact (String.ofList_injective (Except.ok.inj applied)).symm

variable {found' : List Diagnostic} {next' : List Char} {statements' : List Statement}

theorem length_modifiers [Wordings] (round : Round path text found next)
    (reads : Program.read text = .ok statements) (round' : Round path next found' next')
    (reads' : Program.read next = .ok statements')
    (mends : List.Forall₂ (File.Mends ⟨path, Source.ofText text, {}⟩)
      (functionsOfAll {} statements) (functionsOfAll {} statements')) :
    (found'.filter (·.issue = .modifierWithoutDefault)).length +
        (Diagnostic.fixableEdits found).length =
      (found.filter (·.issue = .modifierWithoutDefault)).length := by
  have before := congrArg List.length (round.map_location_modifiers reads)
  have after := congrArg List.length (round'.map_location_modifiers reads')
  rw [← List.map_flatMap, List.length_map, List.length_map] at before after
  have same : File.config ⟨path, Source.ofText next, {}⟩ = {} := rfl
  have counts := File.length_flatMap_missing mends same
  rw [before, after, round.length_fixableEdits reads]
  exact counts

theorem length_collections [Wordings] (round : Round path text found next)
    (reads : Program.read text = .ok statements) (round' : Round path next found' next')
    (reads' : Program.read next = .ok statements')
    (mends : List.Forall₂ (File.Mends ⟨path, Source.ofText text, {}⟩)
      (functionsOfAll {} statements) (functionsOfAll {} statements')) :
    (found'.filter (·.issue = .unstableCollections)).length =
      (found.filter (·.issue = .unstableCollections)).length := by
  have before := congrArg List.length (round.map_issue_collections reads)
  have after := congrArg List.length (round'.map_issue_collections reads')
  rw [List.length_map] at before after
  rw [before, after]
  refine congrArg List.length (Related.flatMap_eq ?_ mends).symm
  intro function function' mends
  exact (mends.map_collections rfl _).symm

theorem map_location_blocked [Wordings] (round : Round path text found next)
    (reads : Program.read text = .ok statements) (none : Diagnostic.fixableEdits found = []) :
    (found.filter (·.issue = .modifierWithoutDefault)).map (·.location) =
      (functionsOfAll {} statements).flatMap fun function =>
        if File.isEligible ⟨path, Source.ofText text, {}⟩ function then
          (Slot.blocked {} function.2.signature.placeSlots).map fun slot =>
            Span.ofRange path slot.argument.range
        else [] := by
  have stuck := (round.fixableEdits_eq_nil_iff reads).mp none
  rw [round.map_location_modifiers reads]
  apply List.flatMap_congr
  intro function found
  rw [File.chosenSlots_isMissing_of_stuck (stuck function found)]
  split <;> rfl

end Round

/-- The rounds of mending a program, one after the other. -/
structure Rounds [Wordings] (path : String) (texts : Nat → List Char)
    (programs : Nat → List Statement) (found : Nat → List Diagnostic) : Prop where
  reads : ∀ n, Program.read (texts n) = .ok (programs n)
  round : ∀ n, Round path (texts n) (found n) (texts (n + 1))
  mends : ∀ n, List.Forall₂ (File.Mends ⟨path, Source.ofText (texts n), {}⟩)
    (functionsOfAll {} (programs n)) (functionsOfAll {} (programs (n + 1)))

/-- A program that is reached can be mended again and again. -/
theorem exists_sequence [Wordings] (keeps : Program.KeepsTree source)
    (reached : Reached path source text) :
    ∃ (texts : Nat → List Char) (programs : Nat → List Statement)
      (found : Nat → List Diagnostic), texts 0 = text ∧ Rounds path texts programs found := by
  -- the step is chosen for all texts at once, so it has to exist for those that no round reaches
  -- too
  have total : ∀ text', ∃ result : List Diagnostic × List Char × List Statement × List Statement,
      Reached path source text' →
        Program.read text' = .ok result.2.2.1 ∧ Round path text' result.1 result.2.1 ∧
        Reached path source result.2.1 ∧ Program.read result.2.1 = .ok result.2.2.2 ∧
        List.Forall₂ (File.Mends ⟨path, Source.ofText text', {}⟩)
          (functionsOfAll {} result.2.2.1) (functionsOfAll {} result.2.2.2) := by
    intro text'
    by_cases reached : Reached path source text'
    · obtain ⟨found, next, statements, statements', all⟩ := exists_round keeps reached
      exact ⟨(found, next, statements, statements'), fun _ => all⟩
    · exact ⟨([], [], [], []), fun other => absurd other reached⟩
  obtain ⟨step, spec⟩ := Classical.skolem.mp total
  obtain ⟨texts, start, next⟩ : ∃ texts : Nat → List Char, texts 0 = text ∧
      ∀ n, texts (n + 1) = (step (texts n)).2.1 :=
    ⟨fun n => Nat.rec text (fun _ text' => (step text').2.1) n, rfl, fun _ => rfl⟩
  have always (n : Nat) : Reached path source (texts n) := by
    induction n with
    | zero =>
        rw [start]
        exact reached
    | succ n ih =>
        rw [next]
        exact (spec _ ih).2.2.1
  have reads (n : Nat) : Program.read (texts n) = .ok (step (texts n)).2.2.1 :=
    (spec _ (always n)).1
  refine ⟨texts, fun n => (step (texts n)).2.2.1, fun n => (step (texts n)).1, start, reads, ?_, ?_⟩
  · intro n
    rw [next]
    exact (spec _ (always n)).2.1
  · intro n
    obtain ⟨-, -, -, after, mends⟩ := spec _ (always n)
    rw [← next] at after
    rwa [← Except.ok.inj ((reads (n + 1)).symm.trans after)] at mends

namespace Rounds

variable {texts : Nat → List Char} {programs : Nat → List Statement}
  {found : Nat → List Diagnostic}

theorem roundsLeft_le [Wordings] (rounds : Rounds path texts programs found) (n : Nat) :
    ∀ function ∈ functionsOfAll {} (programs n),
      File.roundsLeft ⟨path, Source.ofText (texts n), {}⟩ function ≤
        max 1 (Program.mostRequired (programs 0)) - n := by
  induction n with
  | zero =>
      intro function within
      have := File.roundsLeft_le ⟨path, Source.ofText (texts 0), {}⟩ function
      have := Program.le_mostRequired within
      omega
  | succ n ih =>
      intro function' within'
      obtain ⟨function, within, mends⟩ := Related.exists_of_mem (rounds.mends n).flip within'
      have before := ih function within
      have less : File.roundsLeft ⟨path, Source.ofText (texts (n + 1)), {}⟩ function' =
          File.roundsLeft ⟨path, Source.ofText (texts n), {}⟩ function - 1 :=
        File.Mends.roundsLeft_eq mends rfl
      rw [less]
      omega

theorem fixableEdits_eq_nil [Wordings] (rounds : Rounds path texts programs found) {n : Nat}
    (late : max 1 (Program.mostRequired (programs 0)) ≤ n) :
    Diagnostic.fixableEdits (found n) = [] := by
  apply ((rounds.round n).fixableEdits_eq_nil_iff (rounds.reads n)).mpr
  intro function within
  have none := rounds.roundsLeft_le n function within
  rw [Nat.sub_eq_zero_of_le late, Nat.le_zero] at none
  exact File.roundsLeft_eq_zero_iff.mp none

end Rounds

/-- The rounds of mending a program go on for ever.  Each of them takes as many findings about
modifiers away as it applies edits, and keeps the findings about collections.  A round without edits
comes after as many rounds as a function has parameters without a default that are filled by place,
or after one.  Such a round leaves the text as it is, and what it finds are the modifiers that are
blocked. -/
theorem exists_rounds [Wordings] (returns : ReturnsFeed text)
    (read : FileOutline.ofSource path text {} = .ok outline) (whole : outline.error = none)
    (keeps : Program.KeepsTree text) :
    ∃ (texts : Nat → List Char) (programs : Nat → List Statement)
      (found : Nat → List Diagnostic),
      texts 0 = text ∧
      (∀ n, Program.read (texts n) = .ok (programs n)) ∧
      (∀ n, Round path (texts n) (found n) (texts (n + 1))) ∧
      (∀ n, ((found (n + 1)).filter (·.issue = .modifierWithoutDefault)).length +
          (Diagnostic.fixableEdits (found n)).length =
        ((found n).filter (·.issue = .modifierWithoutDefault)).length) ∧
      (∀ n, ((found (n + 1)).filter (·.issue = .unstableCollections)).length =
        ((found n).filter (·.issue = .unstableCollections)).length) ∧
      (∃ n ≤ max 1 (Program.mostRequired (programs 0)),
        Diagnostic.fixableEdits (found n) = []) ∧
      ∀ n, Diagnostic.fixableEdits (found n) = [] →
        texts (n + 1) = texts n ∧
        ((found n).filter (·.issue = .modifierWithoutDefault)).map (·.location) =
          (functionsOfAll {} (programs n)).flatMap fun function =>
            if File.isEligible ⟨path, Source.ofText (texts n), {}⟩ function then
              (Slot.blocked {} function.2.signature.placeSlots).map fun slot =>
                Span.ofRange path slot.argument.range
            else [] := by
  obtain ⟨texts, programs, found, start, rounds⟩ :=
    exists_sequence keeps ⟨returns, .refl, outline, read, whole⟩
  refine ⟨texts, programs, found, start, rounds.reads, rounds.round, ?_, ?_, ?_, ?_⟩
  · intro n
    exact (rounds.round n).length_modifiers (rounds.reads n) (rounds.round (n + 1))
      (rounds.reads (n + 1)) (rounds.mends n)
  · intro n
    exact (rounds.round n).length_collections (rounds.reads n) (rounds.round (n + 1))
      (rounds.reads (n + 1)) (rounds.mends n)
  · exact ⟨_, Nat.le_refl _, rounds.fixableEdits_eq_nil (Nat.le_refl _)⟩
  · intro n none
    exact ⟨(rounds.round n).next_eq none,
      (rounds.round n).map_location_blocked (rounds.reads n) none⟩

set_option maxRecDepth 10000 in
theorem read_insertOne_sampleModifier :
    Program.read (insertOne usualDefault sampleModifier.toList 29) =
      .ok (Program.giveDefault ⟨⟨2, 6⟩, ⟨2, 17⟩⟩ (Utf8.width usualDefault) sampleStatements) := by
  cbv

theorem stands_sampleModifier :
    Stands sampleModifier.toList ⟨⟨2, 6⟩, ⟨2, 17⟩⟩ (18, 29) where
  order := by decide
  inside := by decide
  clean := by rw [Clean]; decide
  clean' := by rw [Clean]; decide
  range := by decide
  solid := ⟨"m: Modifie".toList, 'r', by decide, by decide⟩

theorem keepsTree_sampleModifier : Program.KeepsTree sampleModifier.toList := by
  apply Program.keepsTree_of_closed (fun text => text = sampleModifier.toList ∨
    text = insertOne usualDefault sampleModifier.toList 29) (.inl rfl)
  rintro text statements slot part (rfl | rfl) read found opened stands
  · rw [read_sampleModifier] at read
    cases read
    cases List.mem_singleton.mp found
    cases stands.unique stands_sampleModifier
    exact ⟨.inr rfl, read_insertOne_sampleModifier⟩
  · rw [read_insertOne_sampleModifier] at read
    cases read
    cases List.mem_singleton.mp found
    cases opened

attribute [local instance] Wordings.short

/-- The rounds of mending the program. -/
theorem exists_rounds_sampleModifier :
    ReturnsFeed sampleModifier.toList ∧ Program.KeepsTree sampleModifier.toList ∧
    ∃ outline, FileOutline.ofSource "a.py" sampleModifier.toList {} = .ok outline ∧
      outline.error = none ∧
      ∃ (texts : Nat → List Char) (programs : Nat → List Statement)
        (found : Nat → List Diagnostic),
        texts 0 = sampleModifier.toList ∧
        (∀ n, Program.read (texts n) = .ok (programs n)) ∧
        (∀ n, Round "a.py" (texts n) (found n) (texts (n + 1))) ∧
        (∀ n, ((found (n + 1)).filter (·.issue = .modifierWithoutDefault)).length +
            (Diagnostic.fixableEdits (found n)).length =
          ((found n).filter (·.issue = .modifierWithoutDefault)).length) ∧
        (∀ n, ((found (n + 1)).filter (·.issue = .unstableCollections)).length =
          ((found n).filter (·.issue = .unstableCollections)).length) ∧
        (∃ n ≤ max 1 (Program.mostRequired (programs 0)),
          Diagnostic.fixableEdits (found n) = []) ∧
        ∀ n, Diagnostic.fixableEdits (found n) = [] →
          texts (n + 1) = texts n ∧
          ((found n).filter (·.issue = .modifierWithoutDefault)).map (·.location) =
            (functionsOfAll {} (programs n)).flatMap fun function =>
              if File.isEligible ⟨"a.py", Source.ofText (texts n), {}⟩ function then
                (Slot.blocked {} function.2.signature.placeSlots).map fun slot =>
                  Span.ofRange "a.py" slot.argument.range
              else [] := by
  have returns : ReturnsFeed sampleModifier.toList := by decide
  have plain : ∀ argument ∈ Program.argumentsOfAll sampleStatements,
      File.isPlain argument = true := by decide +kernel
  obtain ⟨outline, read, whole⟩ := exists_of_isPlain read_sampleModifier plain
  exact ⟨returns, keepsTree_sampleModifier, outline, read, whole,
    exists_rounds returns read whole keepsTree_sampleModifier⟩

end FileOutline

end SignatureLint

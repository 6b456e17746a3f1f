import Mathlib.Data.List.Perm.Basic
import SignatureLint.Proofs.Edit.Placement
import SignatureLint.Proofs.Outcome

/-!
# Conflicts and the order of edits

Edits are sorted by where they begin, and those that begin at the same place stay in the order in
which they are given.  An edit that inserts where another one begins to replace is therefore
refused if it is given before the other one, and applied if it is given after it.  Apart from that
the order of edits says nothing about conflicts.
-/

namespace SignatureLint

namespace Edit

/-! ## Two edits -/

namespace Placed

/-- Each edit begins before the other one ends. -/
def Overlaps (placed other : Placed) : Prop :=
  placed.start < other.stop ∧ other.start < placed.stop

/-- An edit that replaces nothing stands where another one begins that replaces something. -/
def InsertsAt (placed other : Placed) : Prop :=
  placed.start = placed.stop ∧ placed.start = other.start ∧ other.start < other.stop

/-- Two edits pass the check if they are given in this order: the second one ends before the first
one begins, or the other way round, and then they begin at different places. -/
def Clear (first second : Placed) : Prop :=
  second.stop ≤ first.start ∨ first.start < second.start ∧ first.stop ≤ second.start

instance (placed other : Placed) : Decidable (placed.Overlaps other) :=
  inferInstanceAs (Decidable (_ ∧ _))

instance (placed other : Placed) : Decidable (placed.InsertsAt other) :=
  inferInstanceAs (Decidable (_ ∧ _))

theorem Overlaps.symm {placed other : Placed} (overlaps : placed.Overlaps other) :
    other.Overlaps placed :=
  ⟨overlaps.2, overlaps.1⟩

/-- Edits in some order pass the check unless they overlap or the first one inserts where the
second one begins. -/
theorem clear_iff {first second : Placed} (forward : first.start ≤ first.stop)
    (forward' : second.start ≤ second.stop) :
    first.Clear second ↔ ¬first.Overlaps second ∧ ¬first.InsertsAt second := by
  unfold Clear Overlaps InsertsAt
  omega

end Placed

/-! ## Sorted edits -/

variable {list : List Placed}

theorem exists_descending_cons (first : Placed) (rest : List Placed) :
    ∃ later earlier, descending (first :: rest) = later ++ first :: earlier ∧
      descending rest = later ++ earlier ∧ (∀ placed ∈ later, first.start < placed.start) ∧
      ∀ placed ∈ earlier, placed.start ≤ first.start := by
  have cut : ∃ later earlier, descending (first :: rest) = later ++ first :: earlier ∧
      descending rest = later ++ earlier ∧
      ∀ placed ∈ later, (!decide (placed.start ≤ first.start)) = true := by
    apply List.mergeSort_cons
    · intro a b c first second
      rw [decide_eq_true_eq] at first second ⊢
      omega
    · intro a b
      rw [Bool.or_eq_true, decide_eq_true_eq, decide_eq_true_eq]
      omega
  obtain ⟨later, earlier, whole, tail, behind⟩ := cut
  have ordered := pairwise_descending (first :: rest)
  rw [whole, List.pairwise_append, List.pairwise_cons] at ordered
  refine ⟨later, earlier, whole, tail, fun placed found => ?_, ordered.2.1.1⟩
  have notBefore := behind placed found
  rw [Bool.not_eq_true', decide_eq_false_iff_not] at notBefore
  omega

/-- Edits in some order pass the check if any two of them do in this order. -/
theorem pairwise_descending_iff (forward : ∀ placed ∈ list, placed.start ≤ placed.stop) :
    (descending list).Pairwise (fun later earlier => earlier.stop ≤ later.start) ↔
      list.Pairwise Placed.Clear := by
  induction list with
  | nil =>
      rw [descending, List.mergeSort_nil]
      exact iff_of_true .nil .nil
  | cons first rest ih =>
      obtain ⟨forward, forward'⟩ := List.forall_mem_cons.mp forward
      obtain ⟨later, earlier, whole, tail, behind, before⟩ := exists_descending_cons first rest
      have members (placed : Placed) : placed ∈ rest ↔ placed ∈ later ∨ placed ∈ earlier := by
        rw [← (descending_perm rest).mem_iff, tail, List.mem_append]
      -- the first one of the list is put between the later and the earlier ones; it is clear of all
      -- of them if it is clear of its neighbours
      have away : (∀ placed ∈ rest, first.Clear placed) ↔
          (∀ placed ∈ later, first.stop ≤ placed.start) ∧
            ∀ placed ∈ earlier, placed.stop ≤ first.start := by
        unfold Placed.Clear
        constructor
        · refine fun clear => ⟨fun placed found => ?_, fun placed found => ?_⟩
          · have := behind placed found
            have := forward' placed ((members placed).mpr (.inl found))
            have := clear placed ((members placed).mpr (.inl found))
            omega
          · have := before placed found
            have := clear placed ((members placed).mpr (.inr found))
            omega
        · rintro ⟨above, below⟩ placed found
          rcases (members placed).mp found with found | found
          · exact .inr ⟨behind placed found, above placed found⟩
          · exact .inl (below placed found)
      rw [List.pairwise_cons, ← ih forward', away, whole, tail]
      simp only [List.pairwise_append, List.pairwise_cons, List.mem_cons]
      constructor
      · rintro ⟨above, ⟨below, under⟩, across⟩
        exact ⟨⟨fun placed found => across placed found first (.inl rfl), below⟩, above, under,
          fun placed found other found' => across placed found other (.inr found')⟩
      · rintro ⟨⟨aside, below⟩, above, under, across⟩
        refine ⟨above, ⟨below, under⟩, ?_⟩
        rintro placed found other (rfl | found')
        · exact aside placed found
        · exact across placed found other found'

variable {others : List Placed}

/-- Edits in some order pass the check if none of them overlaps a later one or inserts where a
later one begins. -/
theorem pairwise_clear_iff (forward : ∀ placed ∈ list, placed.start ≤ placed.stop) :
    list.Pairwise Placed.Clear ↔
      list.Pairwise fun first second => ¬first.Overlaps second ∧ ¬first.InsertsAt second :=
  List.Pairwise.iff_of_mem fun {first second} found found' =>
    Placed.clear_iff (forward first found) (forward second found')

theorem pairwise_apart_perm (perm : others.Perm list) :
    (others.Pairwise fun first second => ¬first.Overlaps second) ↔
      list.Pairwise fun first second => ¬first.Overlaps second :=
  perm.pairwise_iff fun separate overlaps => separate overlaps.symm

theorem exists_perm_clear (forward : ∀ placed ∈ list, placed.start ≤ placed.stop)
    (separate : list.Pairwise fun first second => ¬first.Overlaps second) :
    ∃ others : List Placed, others.Perm list ∧ others.Pairwise Placed.Clear := by
  let fills (placed : Placed) : Bool := placed.start < placed.stop
  have perm : (list.filter fills ++ list.filter (!fills ·)).Perm list :=
    List.filter_append_perm fills list
  have replaces {placed : Placed} (found : placed ∈ list.filter fills) :
      placed.start < placed.stop := of_decide_eq_true (List.mem_filter.mp found).2
  have empty {placed : Placed} (found : placed ∈ list.filter (!fills ·)) :
      ¬placed.start < placed.stop := by
    have rest := (List.mem_filter.mp found).2
    simpa [fills] using rest
  refine ⟨_, perm, ?_⟩
  rw [pairwise_clear_iff fun placed found => forward placed (perm.mem_iff.mp found)]
  refine ((pairwise_apart_perm perm).mpr separate).and (List.pairwise_append.mpr ⟨?_, ?_, ?_⟩)
  · exact List.pairwise_of_forall_mem_list fun first found _ _ inserts =>
      Int.ne_of_lt (replaces found) inserts.1
  · exact List.pairwise_of_forall_mem_list fun _ _ second found inserts =>
      empty found inserts.2.2
  · exact fun first found _ _ inserts => Int.ne_of_lt (replaces found) inserts.1

/-- Edits do not pass the check if one comes first that inserts where another one begins to
replace. -/
theorem exists_perm_not_clear (forward : ∀ placed ∈ list, placed.start ≤ placed.stop)
    {insertion replaced : Placed} (found : insertion ∈ list) (found' : replaced ∈ list)
    (inserts : insertion.InsertsAt replaced) :
    ∃ others : List Placed, others.Perm list ∧ ¬others.Pairwise Placed.Clear := by
  obtain ⟨front, rest, rfl⟩ := List.append_of_mem found
  have perm : (insertion :: (front ++ rest)).Perm (front ++ insertion :: rest) :=
    List.perm_middle.symm
  have behind : replaced ∈ front ++ rest := by
    refine (List.mem_cons.mp (perm.mem_iff.mpr found')).resolve_left ?_
    rintro rfl
    exact Int.ne_of_lt inserts.2.2 inserts.1
  refine ⟨_, perm, fun passes => ?_⟩
  have order := (List.pairwise_cons.mp passes).1 replaced behind
  exact ((Placed.clear_iff (forward _ found) (forward _ found')).mp order).2 inserts

/-- Whether edits pass the check in every order or in none. -/
theorem perm_clear_iff (forward : ∀ placed ∈ list, placed.start ≤ placed.stop) :
    (∀ others : List Placed, others.Perm list →
      (others.Pairwise Placed.Clear ↔ list.Pairwise Placed.Clear)) ↔
      (∀ placed ∈ list, ∀ other ∈ list, ¬placed.InsertsAt other) ∨
        ¬list.Pairwise fun first second => ¬first.Overlaps second := by
  have clear {others : List Placed} (perm : others.Perm list) : others.Pairwise Placed.Clear ↔
      others.Pairwise fun first second => ¬first.Overlaps second ∧ ¬first.InsertsAt second :=
    pairwise_clear_iff fun placed found => forward placed (perm.mem_iff.mp found)
  constructor
  · intro same
    -- apart, with an insertion where another one begins: some order passes and some order fails
    by_contra mixed
    obtain ⟨mixed, separate⟩ := not_or.mp mixed
    push Not at mixed separate
    obtain ⟨insertion, found, replaced, found', inserts⟩ := mixed
    obtain ⟨accepted, perm, passes⟩ := exists_perm_clear forward separate
    obtain ⟨refused, perm', fails⟩ := exists_perm_not_clear forward found found' inserts
    exact fails ((same refused perm').mpr ((same accepted perm).mp passes))
  · rintro (none | overlaps) others perm
    · have plain {others : List Placed} (perm : others.Perm list) : others.Pairwise Placed.Clear ↔
          others.Pairwise fun first second => ¬first.Overlaps second := by
        rw [clear perm]
        refine List.Pairwise.iff_of_mem fun {first second} found found' => ?_
        exact and_iff_left (none first (perm.mem_iff.mp found) second (perm.mem_iff.mp found'))
      rw [plain perm, plain (.refl _), pairwise_apart_perm perm]
    · have fails {others : List Placed} (perm : others.Perm list) :
          ¬others.Pairwise Placed.Clear := by
        intro passes
        refine overlaps ((pairwise_apart_perm perm).mp ?_)
        exact ((clear perm).mp passes).imp And.left
      exact iff_of_false (fails perm) (fails (.refl _))

/-! ## Edits of a text -/

/-- An edit of a text finds what it expects in the octets that it is to replace. -/
def Places (source : String) (edit : Edit) (placed : Placed) : Prop :=
  place (Utf8.encode source.toList) (lineStarts (Utf8.encode source.toList)).toArray edit =
    .ok placed

/-- Edits of a text are refused because of a conflict. -/
def Refused (source : String) (edits : List Edit) : Prop :=
  ∃ conflict, applyAll source edits = .error (.conflict conflict)

/-- One edit inserts where another one begins to replace. -/
def Mixed (source : String) (edits : List Edit) : Prop :=
  ∃ insertion ∈ edits, ∃ edit ∈ edits, ∃ placed other,
    Places source insertion placed ∧ Places source edit other ∧ placed.InsertsAt other

/-- An edit does not find what it expects, or two edits overlap. -/
def Clashing (source : String) (edits : List Edit) : Prop :=
  (∃ edit ∈ edits, ∀ placed, ¬Places source edit placed) ∨
    ¬edits.Pairwise fun first second => ∀ placed other,
      Places source first placed → Places source second other → ¬placed.Overlaps other

variable {source : String} {edits : List Edit}

theorem Places.unique {edit : Edit} {placed other : Placed} (here : Places source edit placed)
    (there : Places source edit other) : placed = other :=
  Except.ok.inj (here.symm.trans there)

theorem refused_iff : Refused source edits ↔
    ∃ conflict, applyOctets (Utf8.encode source.toList) edits = .error conflict := by
  unfold Refused applyAll
  cases applyOctets (Utf8.encode source.toList) edits with
  | error conflict => exact iff_of_true ⟨conflict, rfl⟩ ⟨conflict, rfl⟩
  | ok data =>
      refine iff_of_false ?_ nofun
      rintro ⟨conflict, fails⟩
      dsimp only at fails
      split at fails <;> cases fails

theorem refused_of_unplaced (unplaced : ∃ edit ∈ edits, ∀ placed, ¬Places source edit placed) :
    Refused source edits := by
  obtain ⟨edit, found, unplaced⟩ := unplaced
  cases all : edits.mapM (place (Utf8.encode source.toList)
      (lineStarts (Utf8.encode source.toList)).toArray) with
  | error conflict =>
      refine refused_iff.mpr ⟨conflict, ?_⟩
      simp only [applyOctets, all, bind, Except.bind]
  | ok list =>
      obtain ⟨placed, here⟩ := Outcome.exists_mapM_ok_iff.mp ⟨list, all⟩ edit found
      exact absurd here (unplaced placed)

theorem applyOctets_of_placed {data : List UInt8}
    (all : edits.mapM (place data (lineStarts data).toArray) = .ok list) :
    applyOctets data edits =
      (checkOverlap (descending list)).map fun _ => (descending list).foldl replaceOctets data := by
  simp only [applyOctets, all, bind, Except.bind, pure, Except.pure]
  cases checkOverlap (descending list) <;> rfl

/-- Edits that are given from the last one to the first one are checked and applied in this
order. -/
theorem applyOctets_of_sorted {data : List UInt8}
    (all : edits.mapM (place data (lineStarts data).toArray) = .ok list)
    (sorted : list.Pairwise fun later earlier => earlier.start ≤ later.start) :
    applyOctets data edits = (checkOverlap list).map fun _ => list.foldl replaceOctets data := by
  have stays : descending list = list :=
    List.mergeSort_of_pairwise (sorted.imp fun order => decide_eq_true order)
  rw [applyOctets_of_placed all, stays]

theorem refused_iff_of_placed (each : ∀ placed ∈ list, Places source placed.edit placed)
    (forward : ∀ placed ∈ list, placed.start ≤ placed.stop) :
    Refused source (list.map (·.edit)) ↔ ¬list.Pairwise Placed.Clear := by
  rw [refused_iff, applyOctets_of_placed (mapM_place_eq_ok_iff.mpr ⟨rfl, each⟩),
    ← pairwise_descending_iff forward]
  cases check : checkOverlap (descending list) with
  | error conflict =>
      refine iff_of_true ⟨conflict, rfl⟩ fun apart => ?_
      rw [checkOverlap_of_pairwise apart] at check
      cases check
  | ok =>
      have apart := pairwise_of_checkOverlap
        (fun placed found => forward placed ((descending_perm list).mem_iff.mp found)) check
      exact iff_of_false nofun fun refused => refused apart

theorem unplaced_or_placed (source : String) (edits : List Edit) :
    (∃ edit ∈ edits, ∀ placed, ¬Places source edit placed) ∨
      ∃ list : List Placed, edits = list.map (·.edit) ∧
        ∀ placed ∈ list, Places source placed.edit placed := by
  by_cases each : ∀ edit ∈ edits, ∃ placed, Places source edit placed
  · obtain ⟨list, all⟩ := Outcome.exists_of_forall_ok each
    exact .inr ⟨list, mapM_place_eq_ok_iff.mp all⟩
  · push Not at each
    exact .inl each

section Placed

variable (each : ∀ placed ∈ list, Places source placed.edit placed)
include each

theorem eq_of_places {placed other : Placed} (found : placed ∈ list)
    (there : Places source placed.edit other) : other = placed :=
  there.unique (each placed found)

theorem mixed_iff_of_placed : Mixed source (list.map (·.edit)) ↔
    ¬∀ placed ∈ list, ∀ other ∈ list, ¬placed.InsertsAt other := by
  push Not
  constructor
  · rintro ⟨_, insertion, _, edit, placed, other, here, there, inserts⟩
    obtain ⟨first, found, rfl⟩ := List.mem_map.mp insertion
    obtain ⟨second, found', rfl⟩ := List.mem_map.mp edit
    rw [eq_of_places each found here, eq_of_places each found' there] at inserts
    exact ⟨first, found, second, found', inserts⟩
  · rintro ⟨first, found, second, found', inserts⟩
    exact ⟨_, List.mem_map_of_mem found, _, List.mem_map_of_mem found', first, second,
      each first found, each second found', inserts⟩

theorem clashing_iff_of_placed : Clashing source (list.map (·.edit)) ↔
    ¬list.Pairwise fun first second => ¬first.Overlaps second := by
  have placedAll : ¬∃ edit ∈ list.map (·.edit), ∀ placed, ¬Places source edit placed := by
    rintro ⟨_, edit, none⟩
    obtain ⟨placed, found, rfl⟩ := List.mem_map.mp edit
    exact none placed (each placed found)
  rw [Clashing, or_iff_right placedAll, List.pairwise_map, not_iff_not]
  refine List.Pairwise.iff_of_mem fun {first second} found found' => ⟨fun apart => ?_, ?_⟩
  · exact apart first second (each first found) (each second found')
  · rintro apart placed other here there
    rwa [eq_of_places each found here, eq_of_places each found' there]

end Placed

/--
Edits that do not end before they begin are refused in every order or in none, unless one of them
inserts where another one begins to replace.  Then there are orders of both kinds, unless an edit
does not find what it expects or two edits overlap, so that all orders are refused.
-/
theorem refused_perm_iff
    (forward : ∀ edit ∈ edits, ∀ placed, Places source edit placed → placed.start ≤ placed.stop) :
    (∀ others : List Edit, others.Perm edits → (Refused source others ↔ Refused source edits)) ↔
      ¬Mixed source edits ∨ Clashing source edits := by
  -- an edit without a place is refused in any order; else all is said of the places
  rcases unplaced_or_placed source edits with unplaced | ⟨list, rfl, each⟩
  · refine iff_of_true (fun others perm => ?_) (.inr (.inl unplaced))
    obtain ⟨edit, found, none⟩ := unplaced
    exact iff_of_true (refused_of_unplaced ⟨edit, perm.mem_iff.mpr found, none⟩)
      (refused_of_unplaced ⟨edit, found, none⟩)
  · have proper : ∀ placed ∈ list, placed.start ≤ placed.stop :=
      fun placed found => forward _ (List.mem_map_of_mem found) placed (each placed found)
    rw [mixed_iff_of_placed each, not_not, clashing_iff_of_placed each, ← perm_clear_iff proper]
    have verdict {others : List Placed} (perm : others.Perm list) :
        Refused source (others.map (·.edit)) ↔ ¬others.Pairwise Placed.Clear :=
      refused_iff_of_placed (fun placed found => each placed (perm.mem_iff.mp found))
        fun placed found => proper placed (perm.mem_iff.mp found)
    constructor
    · intro agree others perm
      have agrees := agree _ (perm.map _)
      rwa [verdict perm, verdict (.refl _), not_iff_not] at agrees
    · intro agree others perm
      -- an order of the places has to be the order of some edits
      have rearranged : Relation.Comp (· = List.map Placed.edit ·) List.Perm others list := by
        rw [List.eq_map_comp_perm]
        exact perm
      obtain ⟨ordered, rfl, perm'⟩ := rearranged
      rw [verdict perm', verdict (.refl _), not_iff_not]
      exact agree ordered perm'

def frontInsertion : Edit :=
  ⟨⟨"a.py", 1, 0, 1, 0⟩, "", "x", "edit", true⟩

/-- An edit that replaces the first letter of a text. -/
def frontReplacement : Edit :=
  ⟨⟨"a.py", 1, 0, 1, 1⟩, "a", "y", "edit", true⟩

theorem places_front : Places "ab" frontInsertion ⟨0, 0, frontInsertion⟩ ∧
    Places "ab" frontReplacement ⟨0, 1, frontReplacement⟩ := by
  unfold Places
  decide +kernel

theorem forall_places_front {P : Placed → Prop} (insertion : P ⟨0, 0, frontInsertion⟩)
    (replacement : P ⟨0, 1, frontReplacement⟩) :
    ∀ edit ∈ [frontReplacement, frontInsertion], ∀ placed, Places "ab" edit placed → P placed := by
  simp only [List.forall_mem_cons, List.not_mem_nil, false_imp_iff, implies_true, and_true]
  exact ⟨fun placed here => here.unique places_front.2 ▸ replacement,
    fun placed here => here.unique places_front.1 ▸ insertion⟩

/-- An insertion and a replacement at the same place are refused in some orders only. -/
theorem refused_perm_iff_front :
    (∀ edit ∈ [frontReplacement, frontInsertion], ∀ placed, Places "ab" edit placed →
      placed.start ≤ placed.stop) ∧
    ¬∀ others : List Edit, others.Perm [frontReplacement, frontInsertion] →
      (Refused "ab" others ↔ Refused "ab" [frontReplacement, frontInsertion]) := by
  obtain ⟨insertion, replacement⟩ := places_front
  have forward : ∀ edit ∈ [frontReplacement, frontInsertion], ∀ placed, Places "ab" edit placed →
      placed.start ≤ placed.stop := forall_places_front (by decide) (by decide)
  refine ⟨forward, (refused_perm_iff forward).not.mpr (not_or.mpr ⟨not_not.mpr ?_, ?_⟩)⟩
  · exact ⟨_, List.mem_cons_of_mem _ List.mem_cons_self, _, List.mem_cons_self, _, _, insertion,
      replacement, by decide⟩
  · rintro (⟨edit, found, unplaced⟩ | overlap)
    · rcases List.mem_cons.mp found with rfl | found
      · exact unplaced _ replacement
      · rw [List.mem_singleton.mp found] at unplaced
        exact unplaced _ insertion
    · refine overlap (List.pairwise_pair.mpr fun placed other here there => ?_)
      rw [here.unique replacement, there.unique insertion]
      decide

/-- An insertion and a replacement at the same place are refused in one order and applied in the
other. -/
theorem applyAll_front :
    applyAll "ab" [frontInsertion, frontReplacement] = .error (.conflict (.overlap 0)) ∧
      applyAll "ab" [frontReplacement, frontInsertion] = .ok "xyb" := by
  have refused := @applyOctets_of_sorted [⟨0, 0, frontInsertion⟩, ⟨0, 1, frontReplacement⟩]
    [frontInsertion, frontReplacement] (Utf8.encode "ab".toList) (by decide +kernel) (by decide)
  have applied := @applyOctets_of_sorted [⟨0, 1, frontReplacement⟩, ⟨0, 0, frontInsertion⟩]
    [frontReplacement, frontInsertion] (Utf8.encode "ab".toList) (by decide +kernel) (by decide)
  rw [applyAll, applyAll, refused, applied]
  decide +kernel

end Edit

end SignatureLint

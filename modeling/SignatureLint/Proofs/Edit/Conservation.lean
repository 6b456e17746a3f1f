import SignatureLint.Proofs.Edit.Order
import SignatureLint.Proofs.Edit.Patches

/-!
# What edits leave of a text

Edits of whole characters are refused or leave a text that is as much longer as what they put in is
longer than what they expect.  But what an edit expects is compared to a lenient reading, and the
ends of its span are neither compared to each other nor to the characters of the text.  An edit can
therefore cut a character in two, so that no text is left, or end before it begins, so that a part
of the text is left twice.
-/

namespace SignatureLint

theorem Octets.bound_le (length : Nat) (index : Int) : Octets.bound length index ≤ length := by
  unfold Octets.bound
  split <;> omega

namespace Edit

/-- Edits are refused because of a conflict, or they leave a text from which what they expect is
missing and in which there is what they put in, by the number of the octets. -/
def Conserves (source : String) (edits : List Edit) : Prop :=
  Refused source edits ∨
    ∃ result, applyAll source edits = .ok result ∧
      Utf8.width result.toList + (edits.map fun edit => Utf8.width edit.expected.toList).sum =
        Utf8.width source.toList + (edits.map fun edit => Utf8.width edit.replacement.toList).sum

namespace Placed

/-- What an edit puts in the place of which octets.  Its bounds may be counted from the end. -/
def patch (text : List Char) (placed : Placed) : Patch :=
  ⟨Octets.bound (Utf8.width text) placed.start, Octets.bound (Utf8.width text) placed.stop,
    placed.edit.replacement.toList⟩

/-- An edit replaces whole characters, or it puts nothing in the place of nothing. -/
def Sound (text : List Char) (placed : Placed) : Prop :=
  (placed.patch text).Whole text ∨ (placed.patch text).Idle

/-- An edit does not end before it begins, and both ends are in the text. -/
structure Inside (text : List Char) (placed : Placed) : Prop where
  least : 0 ≤ placed.start
  forward : placed.start ≤ placed.stop
  most : placed.stop ≤ Utf8.width text

variable {text : List Char} {placed : Placed}

theorem Inside.patch_eq (inside : placed.Inside text) :
    ((placed.patch text).first : Int) = placed.start ∧
      ((placed.patch text).last : Int) = placed.stop := by
  obtain ⟨least, forward, most⟩ := inside
  constructor
  · rw [patch, Octets.bound_eq least (by omega), Int.toNat_of_nonneg least]
  · rw [patch, Octets.bound_eq (by omega) most, Int.toNat_of_nonneg (by omega)]

theorem reading_patch {source : String} {edit : Edit} (here : Places source edit placed) :
    (placed.patch source.toList).reading source.toList = edit.expected.toList := by
  have found := (place_eq_ok_iff.mp here).2.2.1
  rw [← found, String.toList_ofList, Octets.slice, Octets.before, Utf8.length_encode]
  rfl

end Placed

/-! ## Patches -/

variable {text : List Char} {list ordered : List Placed}

theorem ascending_of_pairwise {count : Nat} (inside : ∀ placed ∈ list, placed.Inside text)
    (behind : ∀ placed ∈ list, (count : Int) ≤ placed.start) (reached : count ≤ Utf8.width text)
    (apart : list.Pairwise fun earlier later => earlier.stop ≤ later.start) :
    Patch.Ascending text count (list.map (Placed.patch text)) := by
  induction list generalizing count with
  | nil => exact .nil reached
  | cons first rest ih =>
      obtain ⟨here, inside⟩ := List.forall_mem_cons.mp inside
      obtain ⟨start, -⟩ := List.forall_mem_cons.mp behind
      obtain ⟨before, apart⟩ := List.pairwise_cons.mp apart
      obtain ⟨firstEq, lastEq⟩ := here.patch_eq
      have forward := here.forward
      have most := here.most
      refine .cons (by omega) (by omega) (ih inside (fun placed found => ?_) (by omega) apart)
      rw [lastEq]
      exact before placed found

/-- Replacing octets from the last edit to the first one puts in all patches. -/
theorem foldr_replaceOctets_patch {count : Nat} (inside : ∀ placed ∈ list, placed.Inside text)
    (ascending : Patch.Ascending text count (list.map (Placed.patch text))) :
    list.foldr (fun placed data => replaceOctets data placed) (Utf8.encode text) =
      (Utf8.encode text).take count ++
        Patch.spliced text count (list.map (Placed.patch text)) := by
  induction list generalizing count with
  | nil => rw [List.foldr_nil, List.map_nil, Patch.spliced, List.take_append_drop]
  | cons first rest ih =>
      obtain ⟨here, inside⟩ := List.forall_mem_cons.mp inside
      obtain ⟨firstEq, lastEq⟩ := here.patch_eq
      rw [List.map_cons] at ascending ⊢
      cases ascending with
      | cons behind forward more =>
          have size : ((Utf8.encode text).take (first.patch text).last).length =
              (first.patch text).last := by
            rw [List.length_take, Utf8.length_encode, Nat.min_eq_left more.inside]
          -- what stands behind the patch was replaced before, so its own octets are as in the text
          have before (rest : List UInt8) :
              Octets.before ((Utf8.encode text).take (first.patch text).last ++ rest) first.start =
                (Utf8.encode text).take (first.patch text).first := by
            rw [← firstEq, Octets.before, Octets.bound_eq (by omega)
              (by rw [List.length_append]; omega), Int.toNat_natCast,
              List.take_append_of_le_length (by omega), List.take_take, Nat.min_eq_left forward]
          have after (rest : List UInt8) :
              Octets.after ((Utf8.encode text).take (first.patch text).last ++ rest) first.stop =
                rest := by
            have joint := Octets.after_append ((Utf8.encode text).take (first.patch text).last) rest
            rwa [size, lastEq] at joint
          rw [List.foldr_cons, ih inside more, replaceOctets, before, after, Patch.spliced]
          conv_lhs => rw [← Patch.take_append_gap _ behind]
          simp only [List.append_assoc]
          rfl

variable {source : String} {edits : List Edit}

theorem applyAll_eq_ok_iff {data : List UInt8} {result : String}
    (applied : applyOctets (Utf8.encode source.toList) edits = .ok data) :
    applyAll source edits = .ok result ↔ Utf8.encode result.toList = data := by
  rw [applyAll, applied]
  dsimp only
  constructor
  · intro leaves
    split at leaves
    · cases leaves
    · rename_i text decoded
      obtain rfl := Except.ok.inj leaves
      rw [String.toList_ofList, Utf8.encode_of_decode decoded]
  · rintro rfl
    rw [Utf8.decode_encode]
    dsimp only
    rw [String.ofList_toList]

theorem not_refused_of_applyOctets {data : List UInt8}
    (applied : applyOctets (Utf8.encode source.toList) edits = .ok data) :
    ¬Refused source edits := by
  rw [refused_iff, applied]
  nofun

/-- Edits that put in patches leave a text of the length that they say exactly if each of them
replaces whole characters or puts nothing in the place of nothing. -/
theorem conserves_iff_of_spliced (each : ∀ placed ∈ list, Places source placed.edit placed)
    (perm : ordered.Perm list)
    (ascending : Patch.Ascending source.toList 0 (ordered.map (Placed.patch source.toList)))
    (applied : applyOctets (Utf8.encode source.toList) (list.map (·.edit)) =
      .ok (Patch.spliced source.toList 0 (ordered.map (Placed.patch source.toList)))) :
    Conserves source (list.map (·.edit)) ↔ ∀ placed ∈ list, placed.Sound source.toList := by
  -- both sums do not depend on the order, so they may be taken over the edits as given
  have readings : ((ordered.map (Placed.patch source.toList)).map fun patch =>
      Utf8.width (patch.reading source.toList)).sum =
        ((list.map (·.edit)).map fun edit => Utf8.width edit.expected.toList).sum := by
    rw [List.map_map, List.map_map, (perm.map _).sum_eq]
    congr 1
    refine List.map_congr_left fun placed found => ?_
    exact congrArg Utf8.width (Placed.reading_patch (each placed found))
  have insertions : ((ordered.map (Placed.patch source.toList)).map fun patch =>
      Utf8.width patch.inserted).sum =
        ((list.map (·.edit)).map fun edit => Utf8.width edit.replacement.toList).sum := by
    rw [List.map_map, List.map_map, (perm.map _).sum_eq]
    rfl
  have sound : (∀ placed ∈ list, placed.Sound source.toList) ↔
      ∀ patch ∈ ordered.map (Placed.patch source.toList),
        patch.Whole source.toList ∨ patch.Idle := by
    rw [List.forall_mem_map]
    exact forall_congr' fun placed => imp_congr perm.mem_iff.symm Iff.rfl
  rw [sound, ← Patch.exists_conserved_iff ascending, readings, insertions]
  constructor
  · rintro (refused | ⟨result, leaves, size⟩)
    · exact absurd refused (not_refused_of_applyOctets applied)
    · exact ⟨result.toList, (applyAll_eq_ok_iff applied).mp leaves, size⟩
  · rintro ⟨result, same, size⟩
    refine .inr ⟨String.ofList result, (applyAll_eq_ok_iff applied).mpr ?_, ?_⟩
    · rw [String.toList_ofList, same]
    · rw [String.toList_ofList]
      exact size

/-! ## Edits -/

theorem exists_patches (inside : ∀ placed ∈ list, placed.Inside source.toList)
    (each : ∀ placed ∈ list, Places source placed.edit placed)
    (check : checkOverlap (descending list) = .ok ()) :
    ∃ ordered : List Placed, ordered.Perm list ∧
      Patch.Ascending source.toList 0 (ordered.map (Placed.patch source.toList)) ∧
      applyOctets (Utf8.encode source.toList) (list.map (·.edit)) =
        .ok (Patch.spliced source.toList 0 (ordered.map (Placed.patch source.toList))) := by
  have perm : (descending list).reverse.Perm list :=
    (List.reverse_perm _).trans (descending_perm list)
  have inside' : ∀ placed ∈ (descending list).reverse, placed.Inside source.toList :=
    fun placed found => inside placed (perm.mem_iff.mp found)
  have apart : (descending list).reverse.Pairwise
      fun earlier later => earlier.stop ≤ later.start := by
    rw [List.pairwise_reverse]
    refine pairwise_of_checkOverlap (fun placed found => ?_) check
    exact (inside placed ((descending_perm list).mem_iff.mp found)).forward
  have ascending := ascending_of_pairwise inside' (fun placed found => (inside' placed found).least)
    (Nat.zero_le _) apart
  have applied := foldr_replaceOctets_patch inside' ascending
  rw [List.foldr_reverse, List.take_zero, List.nil_append] at applied
  refine ⟨(descending list).reverse, perm, ascending, ?_⟩
  rw [applyOctets_of_placed (mapM_place_eq_ok_iff.mpr ⟨rfl, each⟩), check, ← applied]
  rfl

/-- Edits inside a text are refused or leave a text of the length that they say exactly if they are
refused or each of them replaces whole characters or puts nothing in the place of nothing. -/
theorem conserves_iff_of_inside
    (inside : ∀ edit ∈ edits, ∀ placed, Places source edit placed → placed.Inside source.toList) :
    Conserves source edits ↔ Refused source edits ∨
      ∀ edit ∈ edits, ∀ placed, Places source edit placed → placed.Sound source.toList := by
  rcases unplaced_or_placed source edits with unplaced | ⟨list, rfl, each⟩
  · have refused := refused_of_unplaced unplaced
    exact iff_of_true (.inl refused) (.inl refused)
  have sound : (∀ edit ∈ list.map (·.edit), ∀ placed, Places source edit placed →
      placed.Sound source.toList) ↔ ∀ placed ∈ list, placed.Sound source.toList := by
    rw [List.forall_mem_map]
    refine forall₂_congr fun placed found => ⟨fun all => all placed (each placed found), ?_⟩
    intro sound other here
    rwa [here.unique (each placed found)]
  have inside' : ∀ placed ∈ list, placed.Inside source.toList :=
    fun placed found => inside _ (List.mem_map_of_mem found) placed (each placed found)
  rw [sound]
  cases check : checkOverlap (descending list) with
  | error conflict =>
      have refused : Refused source (list.map (·.edit)) := by
        rw [refused_iff, applyOctets_of_placed (mapM_place_eq_ok_iff.mpr ⟨rfl, each⟩), check]
        exact ⟨conflict, rfl⟩
      exact iff_of_true (.inl refused) (.inl refused)
  | ok =>
      obtain ⟨ordered, perm, ascending, applied⟩ := exists_patches inside' each check
      rw [conserves_iff_of_spliced each perm ascending applied,
        or_iff_right (not_refused_of_applyOctets applied)]

theorem applyOctets_singleton {edit : Edit} {placed : Placed} (here : Places source edit placed) :
    applyOctets (Utf8.encode source.toList) [edit] =
      .ok (replaceOctets (Utf8.encode source.toList) placed) := by
  have owner : placed.edit = edit := (place_eq_ok_iff.mp here).2.2.2
  have all : [edit].mapM (place (Utf8.encode source.toList)
      (lineStarts (Utf8.encode source.toList)).toArray) = .ok [placed] := by
    refine mapM_place_eq_ok_iff.mpr ⟨by rw [List.map_singleton, owner], ?_⟩
    rw [List.forall_mem_singleton, owner]
    exact here
  rw [applyOctets_of_sorted all (List.pairwise_singleton _ _)]
  rfl

theorem replaceOctets_eq_spliced (text : List Char) (placed : Placed) :
    replaceOctets (Utf8.encode text) placed =
      Patch.spliced text 0 [placed.patch text] := by
  rw [replaceOctets, Octets.before, Octets.after, Utf8.length_encode]
  rfl

theorem Placed.Sound.forward {text : List Char} {placed : Placed} (sound : placed.Sound text) :
    (placed.patch text).first ≤ (placed.patch text).last := by
  rcases sound with ⟨front, part, -, first, last⟩ | ⟨empty, -⟩
  · rw [first, last, Utf8.width_append]
    omega
  · exact Nat.le_of_eq empty

/-- A single edit that ends before it begins expects nothing, and leaves what is between its ends
twice. -/
theorem not_conserves_of_backward {placed : Placed} (here : Places source placed.edit placed)
    (backward : (placed.patch source.toList).last < (placed.patch source.toList).first) :
    ¬Conserves source [placed.edit] := by
  have applied := applyOctets_singleton here
  have inside : (placed.patch source.toList).first ≤ Utf8.width source.toList :=
    Octets.bound_le _ _
  have empty : placed.edit.expected.toList = [] := by
    rw [← Placed.reading_patch here, Patch.reading, List.drop_eq_nil_of_le
      (Nat.le_trans (List.length_take_le _ _) (Nat.le_of_lt backward))]
    exact Utf8.decodeLenient_encode []
  have put : (placed.patch source.toList).inserted = placed.edit.replacement.toList := rfl
  rintro (refused | ⟨result, leaves, size⟩)
  · exact not_refused_of_applyOctets applied refused
  · have wide := congrArg List.length ((applyAll_eq_ok_iff applied).mp leaves)
    simp only [replaceOctets_eq_spliced, Patch.spliced, List.length_append, List.length_drop,
      List.length_take, Utf8.length_encode, put] at wide
    simp only [List.map_cons, List.map_nil, List.sum_cons, List.sum_nil, empty, Utf8.width] at size
    omega

/-- A single edit is refused or leaves a text of the length that it says exactly if it does not
find what it expects, or replaces whole characters, or puts nothing in the place of nothing. -/
theorem conserves_singleton_iff (source : String) (edit : Edit) :
    Conserves source [edit] ↔
      ∀ placed, Places source edit placed → placed.Sound source.toList := by
  by_cases unplaced : ∀ placed, ¬Places source edit placed
  · refine iff_of_true ?_ fun placed here => absurd here (unplaced placed)
    exact .inl (refused_of_unplaced ⟨edit, List.mem_singleton_self edit, unplaced⟩)
  push Not at unplaced
  obtain ⟨placed, here⟩ := unplaced
  obtain rfl : placed.edit = edit := (place_eq_ok_iff.mp here).2.2.2
  have only : (∀ other, Places source placed.edit other → other.Sound source.toList) ↔
      placed.Sound source.toList :=
    ⟨fun all => all placed here, fun sound other there => there.unique here ▸ sound⟩
  rw [only]
  rcases Nat.lt_or_ge (placed.patch source.toList).last (placed.patch source.toList).first with
    backward | forward
  · exact iff_of_false (not_conserves_of_backward here backward) fun sound =>
      Nat.not_le_of_lt backward sound.forward
  · have each : ∀ other ∈ [placed], Places source other.edit other :=
      List.forall_mem_singleton.mpr here
    have applied := applyOctets_singleton here
    rw [replaceOctets_eq_spliced] at applied
    have single := conserves_iff_of_spliced each (.refl [placed])
      (.cons (Nat.zero_le _) forward (.nil (Octets.bound_le _ _))) applied
    rwa [List.forall_mem_singleton] at single

/--
Edits whose ends are in a text, none before its beginning, are refused or leave a text that is
longer by what they put in than by what they expect, and nothing else comes of them, exactly if
they are refused or each of them replaces whole characters or puts nothing in the place of nothing.
For a single edit this holds wherever its ends are.
-/
theorem conserves_iff (source : String) :
    (∀ edits : List Edit,
      (∀ edit ∈ edits, ∀ placed, Places source edit placed → placed.Inside source.toList) →
        (Conserves source edits ↔ Refused source edits ∨
          ∀ edit ∈ edits, ∀ placed, Places source edit placed → placed.Sound source.toList)) ∧
    ∀ edit, Conserves source [edit] ↔
      ∀ placed, Places source edit placed → placed.Sound source.toList :=
  ⟨fun _ inside => conserves_iff_of_inside inside, conserves_singleton_iff source⟩

/-- A replacement and an insertion at the front of a text. -/
theorem conserves_iff_front :
    (∀ edit ∈ [frontReplacement, frontInsertion], ∀ placed, Places "ab" edit placed →
      placed.Inside "ab".toList) ∧
    Conserves "ab" [frontReplacement, frontInsertion] := by
  have inside : ∀ edit ∈ [frontReplacement, frontInsertion], ∀ placed, Places "ab" edit placed →
      placed.Inside "ab".toList :=
    forall_places_front ⟨by decide, by decide, by decide⟩ ⟨by decide, by decide, by decide⟩
  refine ⟨inside, ((conserves_iff "ab").1 _ inside).mpr (.inr (forall_places_front ?_ ?_))⟩
  · exact .inl ⟨[], [], by decide, by decide, by decide⟩
  · exact .inl ⟨[], ['a'], by decide, by decide, by decide⟩

/-- An edit that cuts a character of four octets in two. -/
def cuttingEdit : Edit :=
  ⟨⟨"a.py", 1, 0, 1, 3⟩, "\uFFFD", "\uFFFD = Modifier", "edit", true⟩

/-- An edit that ends before it begins. -/
def backwardEdit : Edit :=
  ⟨⟨"a.py", 1, 1, 1, 0⟩, "", "", "edit", true⟩

/-- A cut character leaves no text, and an edit that ends before it begins leaves a letter twice. -/
theorem not_conserves_cuttingEdit :
    applyAll "😀" [cuttingEdit] = .error (.malformed ⟨.invalidStart, 0x80, 14, 1⟩) ∧
      ¬Conserves "😀" [cuttingEdit] ∧
      applyAll "ab" [backwardEdit] = .ok "aab" ∧ ¬Conserves "ab" [backwardEdit] := by
  have cutting : Places "😀" cuttingEdit ⟨0, 3, cuttingEdit⟩ := by
    unfold Places
    decide +kernel
  have backward : Places "ab" backwardEdit ⟨1, 0, backwardEdit⟩ := by
    unfold Places
    decide +kernel
  have broken : applyAll "😀" [cuttingEdit] =
      .error (.malformed ⟨.invalidStart, 0x80, 14, 1⟩) := by
    rw [applyAll, applyOctets_singleton cutting]
    decide +kernel
  have doubled : applyAll "ab" [backwardEdit] = .ok "aab" := by
    rw [applyAll, applyOctets_singleton backward]
    decide +kernel
  refine ⟨broken, ?_, doubled, ?_⟩
  · rintro (⟨conflict, refused⟩ | ⟨result, leaves, -⟩)
    · rw [broken] at refused
      cases refused
    · rw [broken] at leaves
      cases leaves
  · rintro (⟨conflict, refused⟩ | ⟨result, leaves, size⟩)
    · rw [doubled] at refused
      cases refused
    · rw [doubled] at leaves
      obtain rfl := Except.ok.inj leaves
      exact absurd size (by decide)

end Edit

end SignatureLint

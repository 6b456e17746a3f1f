import Mathlib
import SignatureLint.Proofs.Edit.Substitution
import SignatureLint.Proofs.Text.Readings

/-!
# Patches of octets

Texts are put in the place of some octets of a text, from one place to another one behind it.  What
comes of that may be no text, and if it is one, the readings of the octets that were replaced may
be wider than these.  Neither happens exactly if whole characters are replaced, or if nothing is
put in the place of nothing.
-/

namespace SignatureLint

/-- A text in the place of some octets. -/
structure Patch where
  first : Nat
  last : Nat
  inserted : List Char

namespace Patch

/-- Patches from a place of a text on, one behind the other. -/
inductive Ascending (text : List Char) : Nat → List Patch → Prop
  | nil {count : Nat} (inside : count ≤ Utf8.width text) : Ascending text count []
  | cons {count : Nat} {patch : Patch} {rest : List Patch} (behind : count ≤ patch.first)
      (forward : patch.first ≤ patch.last) (more : Ascending text patch.last rest) :
      Ascending text count (patch :: rest)

/-- The octets of a text from a place on, with some patches. -/
def spliced (text : List Char) (count : Nat) : List Patch → List UInt8
  | [] => (Utf8.encode text).drop count
  | patch :: rest =>
      ((Utf8.encode text).take patch.first).drop count ++ Utf8.encode patch.inserted ++
        spliced text patch.last rest

/-- The lenient reading of the octets that are replaced. -/
def reading (text : List Char) (patch : Patch) : List Char :=
  Utf8.decodeLenient (((Utf8.encode text).take patch.last).drop patch.first)

/-- The octets that are replaced are those of some characters. -/
def Whole (text : List Char) (patch : Patch) : Prop :=
  ∃ front part, front ++ part <+: text ∧ patch.first = Utf8.width front ∧
    patch.last = Utf8.width (front ++ part)

/-- Nothing is put in the place of nothing. -/
def Idle (patch : Patch) : Prop :=
  patch.first = patch.last ∧ patch.inserted = []

/-- The octets that are replaced are read as a text that is as wide as they are. -/
def Exact (text : List Char) (patch : Patch) : Prop :=
  patch.first + Utf8.width (patch.reading text) = patch.last

variable {text : List Char} {count count' : Nat} {patch : Patch} {rest list : List Patch}

/-! ## Places -/

theorem Ascending.inside (ascending : Ascending text count list) : count ≤ Utf8.width text := by
  induction ascending with
  | nil inside => exact inside
  | cons behind forward more ih => omega

theorem Ascending.of_le (ascending : Ascending text count' list) (before : count ≤ count') :
    Ascending text count list := by
  cases ascending with
  | nil inside => exact .nil (Nat.le_trans before inside)
  | cons behind forward more => exact .cons (Nat.le_trans before behind) forward more

theorem gap_append (data : List UInt8) {last : Nat} (before : count ≤ count')
    (behind : count' ≤ last) :
    (data.take count').drop count ++ (data.take last).drop count' =
      (data.take last).drop count := by
  have later : data.drop count' = (data.drop count).drop (count' - count) := by
    rw [List.drop_drop, Nat.add_sub_cancel' before]
  have total : last - count = (count' - count) + (last - count') := by omega
  rw [List.drop_take, List.drop_take, List.drop_take, later, total, List.take_add]

theorem take_append_gap (data : List UInt8) {last : Nat} (behind : count ≤ last) :
    data.take count ++ (data.take last).drop count = data.take last := by
  have whole := gap_append data (Nat.zero_le count) behind
  rwa [List.drop_zero, List.drop_zero] at whole

theorem gap_append_spliced (ascending : Ascending text count' list) (before : count ≤ count') :
    ((Utf8.encode text).take count').drop count ++ spliced text count' list =
      spliced text count list := by
  cases ascending with
  | nil inside =>
      have later : (Utf8.encode text).drop count' =
          ((Utf8.encode text).drop count).drop (count' - count) := by
        rw [List.drop_drop, Nat.add_sub_cancel' before]
      rw [spliced, spliced, List.drop_take, later, List.take_append_drop]
  | cons behind forward more =>
      rw [spliced, spliced, ← List.append_assoc, ← List.append_assoc,
        gap_append _ before behind]

/-! ## Characters -/

theorem not_continues_of_encode {result : List Char} {b : UInt8} {octets : List UInt8}
    (begins : Utf8.encode result = b :: octets) : ¬Utf8.Continues b := by
  cases result with
  | nil => cases begins
  | cons c rest =>
      obtain ⟨first, tail, char, starts, -⟩ := Utf8.encodeChar_shape c
      rw [Utf8.encode_cons, char] at begins
      obtain ⟨rfl, -⟩ := List.cons.inj begins
      exact starts

/-- A patch of octets that are read as a text as wide as they are, and of which there are some,
begins between two characters. -/
theorem Exact.exists_front (exact : patch.Exact text) (filled : patch.first < patch.last)
    (inside : patch.last ≤ Utf8.width text) :
    ∃ front, front <+: text ∧ Utf8.width front = patch.first := by
  refine (Utf8.exists_front_or_continues text (by omega)).resolve_right ?_
  rintro ⟨b, octets, dropped, continues⟩
  have slice : ((Utf8.encode text).take patch.last).drop patch.first =
      b :: octets.take (patch.last - patch.first - 1) := by
    rw [List.drop_take, dropped, List.take_cons (by omega)]
  have size : (((Utf8.encode text).take patch.last).drop patch.first).length =
      patch.last - patch.first := by
    rw [List.length_drop, List.length_take, Utf8.length_encode]
    omega
  have wider := Utf8.length_lt_width_of_continues continues
    (octets.take (patch.last - patch.first - 1))
  rw [← slice, size, ← reading] at wider
  unfold Exact at exact
  omega

theorem not_continues_of_front {front : List Char} (inside : front <+: text) {b : UInt8}
    {octets : List UInt8} (begins : (Utf8.encode text).drop (Utf8.width front) = b :: octets) :
    ¬Utf8.Continues b := by
  obtain ⟨back, rfl⟩ := inside
  rw [Utf8.drop_width_append] at begins
  exact not_continues_of_encode begins

/-- Where a character was cut before, no text follows: whatever is put in before its rest, the rest
is still there. -/
theorem not_text_of_continues {b : UInt8} {octets : List UInt8} (continues : Utf8.Continues b)
    (begins : (Utf8.encode text).drop count = b :: octets)
    (ascending : Ascending text count list) (exact : ∀ patch ∈ list, patch.Exact text)
    (result : List Char) : Utf8.encode result ≠ spliced text count list := by
  induction list generalizing result with
  | nil =>
      intro same
      rw [spliced, begins] at same
      exact not_continues_of_encode same continues
  | cons patch rest ih =>
      obtain ⟨exact, exact'⟩ := List.forall_mem_cons.mp exact
      cases ascending with
      | cons behind forward more =>
          intro same
          rw [spliced] at same
          -- the octet is copied in front of the first patch, or the patch begins with it; then the
          -- patch replaces nothing, as what it replaces would begin within a character
          rcases Nat.lt_or_eq_of_le behind with later | rfl
          · rw [List.drop_take, begins, List.take_cons (by omega)] at same
            exact not_continues_of_encode same continues
          · have empty : patch.first = patch.last := by
              refine Nat.le_antisymm forward (Nat.le_of_not_lt fun filled => ?_)
              obtain ⟨front, inside, width⟩ := exact.exists_front filled more.inside
              rw [← width] at begins
              exact not_continues_of_front inside begins continues
            have nothing : ((Utf8.encode text).take patch.first).drop patch.first = [] :=
              List.drop_eq_nil_of_le (List.length_take_le _ _)
            rw [nothing, List.nil_append, ← empty] at same
            obtain ⟨later, -, left⟩ := Utf8.eq_append_of_encode_eq_append same
            exact ih (empty ▸ more) exact' later left

theorem exists_gap {front before : List Char} (inside : front <+: text) (inside' : before <+: text)
    (order : Utf8.width front ≤ Utf8.width before) :
    ∃ gap, before = front ++ gap ∧
      ((Utf8.encode text).take (Utf8.width before)).drop (Utf8.width front) =
        Utf8.encode gap := by
  obtain ⟨gap, rfl⟩ := Edit.Site.front_of_width_le inside inside' order
  obtain ⟨back, rfl⟩ := inside'
  exact ⟨gap, rfl, by rw [Utf8.take_width_append, Utf8.drop_width_append]⟩

variable {front : List Char}

theorem Whole.exists_text_iff (whole : patch.Whole text) (inside : front <+: text)
    (behind : Utf8.width front ≤ patch.first) :
    (∃ result, Utf8.encode result = spliced text (Utf8.width front) (patch :: rest)) ↔
      ∃ result, Utf8.encode result = spliced text patch.last rest := by
  obtain ⟨before, part, shape, first, last⟩ := whole
  obtain ⟨gap, -, octets⟩ := exists_gap inside ((List.prefix_append before part).trans shape)
    (first ▸ behind)
  rw [spliced, first, octets, ← Utf8.encode_append]
  constructor
  · rintro ⟨result, same⟩
    obtain ⟨more, -, left⟩ := Utf8.eq_append_of_encode_eq_append same
    exact ⟨more, left⟩
  · rintro ⟨more, left⟩
    exact ⟨gap ++ patch.inserted ++ more, by rw [Utf8.encode_append, left]⟩

/-- A patch with which a text is left is one of whole characters, or nothing is put in the place of
nothing. -/
theorem whole_or_idle_of_text {result : List Char}
    (same : Utf8.encode result = spliced text (Utf8.width front) (patch :: rest))
    (inside : front <+: text) (ascending : Ascending text (Utf8.width front) (patch :: rest))
    (exact : ∀ other ∈ patch :: rest, other.Exact text) : patch.Whole text ∨ patch.Idle := by
  obtain ⟨exact, exact'⟩ := List.forall_mem_cons.mp exact
  cases ascending with
  | cons behind forward more =>
      rw [spliced] at same
      -- with something to replace, the first octet begins a character, and so has the octet behind
      -- the last one to; with nothing to replace, what is inserted shows where it lies
      rcases Nat.lt_or_eq_of_le forward with filled | empty
      · obtain ⟨before, inside', first⟩ := exact.exists_front filled more.inside
        obtain ⟨gap, -, octets⟩ := exists_gap inside inside' (first ▸ behind)
        rw [← first, octets, ← Utf8.encode_append] at same
        obtain ⟨later, -, left⟩ := Utf8.eq_append_of_encode_eq_append same
        rcases Utf8.exists_front_or_continues text more.inside with
          ⟨whole, there, last⟩ | ⟨b, octets, begins, continues⟩
        · obtain ⟨part, shape, -⟩ := exists_gap inside' there (by omega)
          exact .inl ⟨before, part, shape ▸ there, first.symm, by rw [← shape, last]⟩
        · exact absurd left (not_text_of_continues continues begins more exact' later)
      · by_cases nothing : patch.inserted = []
        · exact .inr ⟨empty, nothing⟩
        · have start := take_append_gap (Utf8.encode text) behind
          have octets : Utf8.encode (front ++ result) = (Utf8.encode text).take patch.first ++
              Utf8.encode patch.inserted ++ spliced text patch.last rest := by
            obtain ⟨back, rfl⟩ := inside
            rw [← start, Utf8.take_width_append, Utf8.encode_append, same]
            simp only [List.append_assoc]
          obtain ⟨before, -, -, here, -⟩ :=
            Utf8.eq_append_of_encode_eq_append_append nothing octets
          obtain ⟨shape, first⟩ := Utf8.front_of_take (empty ▸ more.inside) here.symm
          exact .inl ⟨before, [], by rwa [List.append_nil], first.symm,
            by rw [List.append_nil, first, empty]⟩

/-- Patches of octets that are read as texts as wide as they are leave a text exactly if each of
them is one of whole characters, or puts nothing in the place of nothing. -/
theorem exists_text_iff (inside : front <+: text)
    (ascending : Ascending text (Utf8.width front) list)
    (exact : ∀ patch ∈ list, patch.Exact text) :
    (∃ result, Utf8.encode result = spliced text (Utf8.width front) list) ↔
      ∀ patch ∈ list, patch.Whole text ∨ patch.Idle := by
  induction list generalizing front with
  | nil =>
      obtain ⟨back, rfl⟩ := inside
      exact iff_of_true ⟨back, by rw [spliced, Utf8.drop_width_append]⟩ nofun
  | cons patch rest ih =>
      by_cases sound : patch.Whole text ∨ patch.Idle
      · obtain ⟨-, exact'⟩ := List.forall_mem_cons.mp exact
        rw [List.forall_mem_cons, and_iff_right sound]
        cases ascending with
        | cons behind forward more =>
            rcases sound with whole | ⟨empty, nothing⟩
            · rw [whole.exists_text_iff inside behind]
              obtain ⟨before, part, there, -, last⟩ := whole
              rw [last] at more ⊢
              exact ih there more exact'
            · have skipped : spliced text (Utf8.width front) (patch :: rest) =
                  spliced text (Utf8.width front) rest := by
                rw [spliced, nothing, Utf8.encode_nil, List.append_nil, ← empty,
                  gap_append_spliced (empty ▸ more) behind]
              rw [skipped]
              exact ih inside (more.of_le (empty ▸ behind)) exact'
      · refine iff_of_false ?_ fun all => sound (all patch List.mem_cons_self)
        rintro ⟨result, same⟩
        exact sound (whole_or_idle_of_text same inside ascending exact)

/-! ## Widths -/

theorem Ascending.bounds (ascending : Ascending text count list) :
    ∀ patch ∈ list, patch.first ≤ patch.last ∧ patch.last ≤ Utf8.width text := by
  induction ascending with
  | nil => nofun
  | cons behind forward more ih => exact List.forall_mem_cons.mpr ⟨⟨forward, more.inside⟩, ih⟩

theorem Ascending.length_spliced (ascending : Ascending text count list) :
    (spliced text count list).length + (list.map fun patch => patch.last - patch.first).sum +
        count =
      Utf8.width text + (list.map fun patch => Utf8.width patch.inserted).sum := by
  induction ascending with
  | nil inside =>
      simp only [spliced, List.length_drop, Utf8.length_encode, List.map_nil, List.sum_nil]
      omega
  | cons behind forward more ih =>
      have := more.inside
      simp only [spliced, List.length_append, List.length_drop, List.length_take,
        Utf8.length_encode, List.map_cons, List.sum_cons]
      omega

theorem sub_le_width_reading (inside : patch.last ≤ Utf8.width text) :
    patch.last - patch.first ≤ Utf8.width (patch.reading text) := by
  have wide := Utf8.length_le_width_decodeLenient
    (((Utf8.encode text).take patch.last).drop patch.first)
  rwa [List.length_drop, List.length_take, Utf8.length_encode, Nat.min_eq_left inside] at wide

theorem exact_of_sound (sound : patch.Whole text ∨ patch.Idle) : patch.Exact text := by
  unfold Exact reading
  rcases sound with ⟨front, part, ⟨back, rfl⟩, first, last⟩ | ⟨empty, -⟩
  · rw [first, last, Utf8.take_width_append, Utf8.drop_width_append, Utf8.decodeLenient_encode,
      Utf8.width_append]
  · have nothing : ((Utf8.encode text).take patch.last).drop patch.first = Utf8.encode [] :=
      List.drop_eq_nil_of_le (empty ▸ List.length_take_le _ _)
    rw [nothing, Utf8.decodeLenient_encode, empty]
    rfl

/--
Patches leave a text, and one that is as much longer as what is put in is wider than the reading of
what is replaced, exactly if each of them replaces whole characters or puts nothing in the place of
nothing.
-/
theorem exists_conserved_iff (ascending : Ascending text 0 list) :
    (∃ result, Utf8.encode result = spliced text 0 list ∧
      Utf8.width result + (list.map fun patch => Utf8.width (patch.reading text)).sum =
        Utf8.width text + (list.map fun patch => Utf8.width patch.inserted).sum) ↔
      ∀ patch ∈ list, patch.Whole text ∨ patch.Idle := by
  have length := ascending.length_spliced
  have least : ∀ patch ∈ list, patch.last - patch.first ≤ Utf8.width (patch.reading text) :=
    fun patch found => sub_le_width_reading (ascending.bounds patch found).2
  have text_iff : (∀ patch ∈ list, patch.Exact text) →
      ((∃ result, Utf8.encode result = spliced text 0 list) ↔
        ∀ patch ∈ list, patch.Whole text ∨ patch.Idle) :=
    exists_text_iff List.nil_prefix ascending
  constructor
  · rintro ⟨result, same, wide⟩
    rw [← same, Utf8.length_encode] at length
    refine (text_iff fun patch found => ?_).mp ⟨result, same⟩
    by_contra wider
    -- a reading that is wider than what is cut out makes the sum of widths too large
    have more : patch.last - patch.first < Utf8.width (patch.reading text) := by
      have := ascending.bounds patch found
      have := least patch found
      unfold Exact at wider
      omega
    have := List.sum_lt_sum _ _ least ⟨patch, found, more⟩
    omega
  · intro sound
    have exact : ∀ patch ∈ list, patch.Exact text :=
      fun patch found => exact_of_sound (sound patch found)
    obtain ⟨result, same⟩ := (text_iff exact).mpr sound
    have sums : (list.map fun patch => Utf8.width (patch.reading text)).sum =
        (list.map fun patch => patch.last - patch.first).sum := by
      congr 1
      refine List.map_congr_left fun patch found => ?_
      have := exact patch found
      unfold Exact at this
      omega
    refine ⟨result, same, ?_⟩
    rw [← same, Utf8.length_encode] at length
    omega

end Patch

end SignatureLint

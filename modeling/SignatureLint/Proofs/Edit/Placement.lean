import SignatureLint.Edit.Apply
import SignatureLint.Proofs.Edit.Insertion
import SignatureLint.Proofs.Text.Utf8
import SignatureLint.Source

/-!
# Edits that add text

An edit that expects a word and puts a longer text in its place, which begins with
the word, only adds text behind the word.  Such an edit is refused unless its word
stands before the end of its span, on character boundaries, and several of them are
refused unless they end at different places.
-/

namespace SignatureLint

open Insertion

/-! ## Texts by octets -/

namespace Source

theorem splitOctets_width_append (front back : List Char) :
    splitOctets (Utf8.width front) (front ++ back) = (front, back) := by
  induction front with
  | nil =>
      cases back with
      | nil => rfl
      | cons c rest =>
          have := Utf8.charWidth_pos c
          simp only [List.nil_append, Utf8.width, splitOctets]
          rw [if_neg (by omega)]
  | cons c rest ih =>
      simp only [List.cons_append, Utf8.width, splitOctets]
      rw [if_pos (Nat.le_add_right _ _), Nat.add_sub_cancel_left, ih]

end Source

namespace Octets

theorem bound_eq {length : Nat} {index : Int} (least : 0 ≤ index) (most : index ≤ length) :
    bound length index = index.toNat := by
  rw [bound, if_neg (by omega)]
  omega

theorem before_append (front back : List UInt8) : before (front ++ back) front.length = front := by
  have long : (front ++ back).length = front.length + back.length := List.length_append
  rw [before, bound_eq (by omega) (by omega), Int.toNat_natCast, List.take_left]

theorem after_append (front back : List UInt8) : after (front ++ back) front.length = back := by
  have long : (front ++ back).length = front.length + back.length := List.length_append
  rw [after, bound_eq (by omega) (by omega), Int.toNat_natCast, List.drop_left]

theorem slice_append (front part back : List UInt8) :
    slice (front ++ part ++ back) front.length (front ++ part).length = part := by
  rw [slice, before_append, List.append_assoc, bound_eq (by omega) (by simp; omega),
    Int.toNat_natCast, List.drop_left]

/-- A part that is as long as its bounds say, and that does not end before the sequence begins, is
in its place: no bound wraps around or was cut off. -/
theorem slice_of_length {data part : List UInt8} {start stop : Int} (nonempty : 0 < part.length)
    (long : start + part.length = stop) (inside : 0 ≤ stop) (h : slice data start stop = part) :
    ∃ front back, data = front ++ part ++ back ∧ start = front.length := by
  have size := congrArg List.length h
  simp only [slice, before, List.length_drop, List.length_take] at size
  have bounds : 0 ≤ start ∧ stop ≤ data.length := by
    unfold bound at size
    split at size <;> split at size <;> omega
  refine ⟨data.take start.toNat, data.drop stop.toNat, ?_, ?_⟩
  · rw [slice, before, bound_eq bounds.1 (by omega), bound_eq inside bounds.2] at h
    have front : data.take start.toNat = (data.take stop.toNat).take start.toNat := by
      rw [List.take_take, Nat.min_eq_left (by omega)]
    rw [← h, front, List.take_append_drop, List.take_append_drop]
  · rw [List.length_take]
    omega

end Octets

namespace Edit

/-! ## One edit -/

/-- An edit that adds a text behind a word, which ends where the span of the edit ends. -/
structure Extends (added : String) (edit : Edit) : Prop where
  grown : edit.replacement = edit.expected ++ added
  nonempty : edit.expected.toList ≠ []
  line : edit.span.startLine = edit.span.endLine
  width : edit.span.startColumn + Utf8.width edit.expected.toList = edit.span.endColumn
  column : 0 ≤ edit.span.endColumn

namespace Placed

/-- The number of the characters of a text before the end of an edit. -/
def place (text : List Char) (placed : Placed) : Nat :=
  (Source.splitOctets placed.stop.toNat text).1.length

/-- An edit whose word stands in a text, right before a place. -/
structure Fits (added : String) (text : List Char) (placed : Placed) : Prop where
  extend : placed.edit.Extends added
  inside : placed.place text ≤ text.length
  start : placed.start + Utf8.width placed.edit.expected.toList = placed.stop
  stop : placed.stop = Utf8.width (text.take (placed.place text))
  word : placed.edit.expected.toList <:+ text.take (placed.place text)

end Placed

/-- An offset is a column behind the start of a line that there is. -/
theorem offset_eq_ok_iff {starts : Array Nat} {line column found : Int} :
    offset starts line column = .ok found ↔
      1 ≤ line ∧ ∃ start, starts[(line - 1).toNat]? = some start ∧ found = start + column := by
  unfold offset
  by_cases low : line < 1
  · rw [if_pos low]
    constructor
    · intro h
      cases h
    · rintro ⟨h, -⟩
      omega
  · rw [if_neg low]
    cases starts[(line - 1).toNat]? with
    | none =>
        constructor
        · intro h
          cases h
        · rintro ⟨-, start, h, -⟩
          cases h
    | some start =>
        constructor
        · intro h
          cases h
          exact ⟨by omega, start, rfl, rfl⟩
        · rintro ⟨-, start, h, rfl⟩
          cases h
          rfl

/-- An edit is placed where its span says, if the octets there are what it expects. -/
theorem place_eq_ok_iff {data : List UInt8} {starts : Array Nat} {edit : Edit} {placed : Placed} :
    place data starts edit = .ok placed ↔
      offset starts edit.span.startLine edit.span.startColumn = .ok placed.start ∧
      offset starts edit.span.endLine edit.span.endColumn = .ok placed.stop ∧
      String.ofList (Utf8.decodeLenient (Octets.slice data placed.start placed.stop)) =
        edit.expected ∧
      placed.edit = edit := by
  unfold place
  cases offset starts edit.span.startLine edit.span.startColumn with
  | error conflict =>
      constructor
      · intro h
        cases h
      · rintro ⟨h, -⟩
        cases h
  | ok start =>
      cases offset starts edit.span.endLine edit.span.endColumn with
      | error conflict =>
          constructor
          · intro h
            cases h
          · rintro ⟨-, h, -⟩
            cases h
      | ok stop =>
          simp only [bind, Except.bind]
          constructor
          · intro h
            split at h
            · rename_i same
              cases h
              exact ⟨rfl, rfl, same, rfl⟩
            · cases h
          · rintro ⟨first, second, same, owner⟩
            obtain ⟨start', stop', edit'⟩ := placed
            cases first
            cases second
            cases owner
            rw [if_pos same]
            rfl

/-- An edit that is placed in a text adds behind a word of this text, unless its word holds a
character that stands for octets that are no text. -/
theorem Extends.fits {added : String} {edit : Edit} (extend : edit.Extends added)
    (legible : '\uFFFD' ∉ edit.expected.toList) {text : List Char} {starts : Array Nat}
    {placed : Placed}
    (h : place (Utf8.encode text) starts edit = .ok placed) : placed.Fits added text := by
  obtain ⟨first, second, same, rfl⟩ := place_eq_ok_iff.mp h
  obtain ⟨-, start, line, start_eq⟩ := offset_eq_ok_iff.mp first
  obtain ⟨-, start', line', stop_eq⟩ := offset_eq_ok_iff.mp second
  rw [extend.line, line'] at line
  cases line
  have word : Utf8.decodeLenient (Octets.slice (Utf8.encode text) placed.start placed.stop) =
      placed.edit.expected.toList := by
    rw [← same, String.toList_ofList]
  -- the comparison is of decoded octets; without a replaced one it is one of the octets themselves
  have octets : Octets.slice (Utf8.encode text) placed.start placed.stop =
      Utf8.encode placed.edit.expected.toList := by
    rw [← word, Utf8.encode_decodeLenient]
    rw [word]
    exact legible
  have long : placed.start + Utf8.width placed.edit.expected.toList = placed.stop := by
    rw [start_eq, stop_eq, ← extend.width]
    omega
  have column := extend.column
  obtain ⟨front, back, whole, length⟩ := Octets.slice_of_length
    (by simpa using Utf8.width_pos extend.nonempty) (by simpa using long) (by omega) octets
  obtain ⟨pre, post, rfl, rfl, -⟩ :=
    Utf8.eq_append_of_encode_eq_append_append extend.nonempty whole
  have stop : placed.stop = Utf8.width (pre ++ placed.edit.expected.toList) := by
    rw [Utf8.width_append, ← long, length, Utf8.length_encode]
    omega
  have front : placed.place (pre ++ placed.edit.expected.toList ++ post) =
      (pre ++ placed.edit.expected.toList).length := by
    rw [Placed.place, stop, Int.toNat_natCast, Source.splitOctets_width_append]
  have taken : (pre ++ placed.edit.expected.toList ++ post).take
      (placed.place (pre ++ placed.edit.expected.toList ++ post)) =
        pre ++ placed.edit.expected.toList := by
    rw [front, List.take_left]
  exact
    { extend
      inside := by
        rw [front]
        exact (List.prefix_append _ _).length_le
      start := long
      stop := by rw [taken, stop]
      word := by
        rw [taken]
        exact List.suffix_append _ _ }

namespace Placed

theorem Fits.replaceOctets {added : String} {text : List Char} {placed : Placed}
    (fits : placed.Fits added text) :
    replaceOctets (Utf8.encode text) placed =
      Utf8.encode (insertOne added.toList text (placed.place text)) := by
  obtain ⟨pre, taken⟩ := fits.word
  have whole : text = pre ++ placed.edit.expected.toList ++ text.drop (placed.place text) := by
    rw [taken, List.take_append_drop]
  have start : placed.start = (Utf8.encode pre).length := by
    have long := fits.start
    rw [fits.stop, ← taken, Utf8.width_append] at long
    rw [Utf8.length_encode]
    omega
  have stop : placed.stop = (Utf8.encode (pre ++ placed.edit.expected.toList)).length := by
    rw [fits.stop, ← taken, Utf8.length_encode]
  have front : Octets.before (Utf8.encode text) placed.start = Utf8.encode pre := by
    rw [start, whole, List.append_assoc, Utf8.encode_append, Octets.before_append]
  have back : Octets.after (Utf8.encode text) placed.stop =
      Utf8.encode (text.drop (placed.place text)) := by
    rw [stop]
    conv => lhs; rw [whole]
    rw [Utf8.encode_append, Octets.after_append]
  rw [Edit.replaceOctets, front, back, fits.extend.grown, String.toList_append, insertOne, ← taken]
  simp only [Utf8.encode_append, List.append_assoc]

theorem Fits.of_take_eq {added : String} {text text' : List Char} {placed : Placed}
    (fits : placed.Fits added text) (inside : placed.place text ≤ text'.length)
    (same : text'.take (placed.place text) = text.take (placed.place text)) :
    placed.place text' = placed.place text ∧ placed.Fits added text' := by
  have place : placed.place text' = placed.place text := by
    conv => lhs; rw [Placed.place, ← List.take_append_drop (placed.place text) text', same]
    rw [fits.stop, Int.toNat_natCast, Source.splitOctets_width_append, List.length_take,
      Nat.min_eq_left fits.inside]
  refine ⟨place, ?_⟩
  exact
    { extend := fits.extend
      inside := by rw [place]; exact inside
      start := fits.start
      stop := by rw [place, same]; exact fits.stop
      word := by rw [place, same]; exact fits.word }

theorem Fits.place_lt {added : String} {text : List Char} {earlier later : Placed}
    (fits : earlier.Fits added text) (fits' : later.Fits added text)
    (h : earlier.stop < later.stop) : earlier.place text < later.place text := by
  apply Nat.lt_of_not_le
  intro behind
  have front : text.take (later.place text) =
      (text.take (earlier.place text)).take (later.place text) := by
    rw [List.take_take, Nat.min_eq_left behind]
  have whole := List.take_append_drop (later.place text) (text.take (earlier.place text))
  have width := congrArg Utf8.width whole
  rw [Utf8.width_append, ← front] at width
  rw [fits.stop, fits'.stop] at h
  omega

theorem Fits.start_lt_stop {added : String} {text : List Char} {placed : Placed}
    (fits : placed.Fits added text) : placed.start < placed.stop := by
  have := Utf8.width_pos fits.extend.nonempty
  have := fits.start
  omega

end Placed

/-! ## Several edits -/

/-- Replacing the octets of one edit after the other inserts at one place after the other. -/
theorem foldl_replaceOctets {added : String} {text : List Char} {list : List Placed}
    (fits : ∀ placed ∈ list, placed.Fits added text)
    (descending : list.Pairwise fun later earlier => earlier.place text < later.place text) :
    list.foldl replaceOctets (Utf8.encode text) =
      Utf8.encode ((list.map (Placed.place text)).foldl (insertOne added.toList) text) := by
  induction list generalizing text with
  | nil => rfl
  | cons last rest ih =>
      obtain ⟨before, descending⟩ := List.pairwise_cons.mp descending
      have here := fits last List.mem_cons_self
      -- the other edits lie in front of this one, where replacing it changes nothing
      have kept : ∀ placed ∈ rest,
          placed.place (insertOne added.toList text (last.place text)) = placed.place text ∧
            placed.Fits added (insertOne added.toList text (last.place text)) := by
        intro placed found
        have fit := fits placed (List.mem_cons_of_mem last found)
        have order := before placed found
        apply fit.of_take_eq
        · simp only [insertOne, List.length_append, List.length_take]
          have := here.inside
          omega
        · rw [insertOne, List.append_assoc, List.take_append_of_le_length, List.take_take,
            Nat.min_eq_left (Nat.le_of_lt order)]
          rw [List.length_take]
          have := here.inside
          omega
      have places : rest.map (Placed.place (insertOne added.toList text (last.place text))) =
          rest.map (Placed.place text) :=
        List.map_congr_left fun placed found => (kept placed found).1
      rw [List.foldl_cons, here.replaceOctets, ih (fun placed found => (kept placed found).2),
        places, List.map_cons, List.foldl_cons]
      exact descending.imp_of_mem fun {later earlier} found found' order => by
        rw [(kept later found).1, (kept earlier found').1]
        exact order

theorem pairwise_of_checkOverlap {list : List Placed}
    (proper : ∀ placed ∈ list, placed.start ≤ placed.stop) (h : checkOverlap list = .ok ()) :
    list.Pairwise fun later earlier => earlier.stop ≤ later.start := by
  induction list with
  | nil => exact List.Pairwise.nil
  | cons later rest ih =>
      cases rest with
      | nil => exact List.pairwise_singleton _ _
      | cons earlier rest =>
          rw [checkOverlap] at h
          split at h
          · cases h
          · rename_i apart
            have tail := ih (fun placed found => proper placed (List.mem_cons_of_mem later found)) h
            refine List.pairwise_cons.mpr ⟨?_, tail⟩
            intro placed found
            rcases List.mem_cons.mp found with rfl | found
            · omega
            · have := (List.pairwise_cons.mp tail).1 placed found
              have := proper earlier (List.mem_cons_of_mem later List.mem_cons_self)
              omega

theorem checkOverlap_of_pairwise {list : List Placed}
    (apart : list.Pairwise fun later earlier => earlier.stop ≤ later.start) :
    checkOverlap list = .ok () := by
  induction list with
  | nil => rfl
  | cons later rest ih =>
      obtain ⟨before, apart⟩ := List.pairwise_cons.mp apart
      cases rest with
      | nil => rfl
      | cons earlier rest =>
          rw [checkOverlap, if_neg (Int.not_lt.mpr (before earlier List.mem_cons_self))]
          exact ih apart

/-- The edits are placed if each one is placed. -/
theorem mapM_place_eq_ok_iff {data : List UInt8} {starts : Array Nat} {edits : List Edit}
    {list : List Placed} :
    edits.mapM (place data starts) = .ok list ↔
      edits = list.map (·.edit) ∧ ∀ placed ∈ list, place data starts placed.edit = .ok placed := by
  induction edits generalizing list with
  | nil =>
      rw [List.mapM_nil]
      constructor
      · intro h
        cases h
        exact ⟨rfl, fun _ found => absurd found List.not_mem_nil⟩
      · rintro ⟨h, -⟩
        rw [List.map_eq_nil_iff.mp h.symm]
        rfl
  | cons edit rest ih =>
      rw [List.mapM_cons]
      constructor
      · intro h
        cases first : place data starts edit with
        | error conflict =>
            rw [first] at h
            cases h
        | ok placed =>
            cases others : rest.mapM (place data starts) with
            | error conflict =>
                rw [first, others] at h
                cases h
            | ok more =>
                rw [first, others] at h
                cases h
                obtain ⟨same, each⟩ := ih.mp others
                -- what is placed carries its edit, so the edits can be read off the places
                have owner : placed.edit = edit := (place_eq_ok_iff.mp first).2.2.2
                refine ⟨by rw [List.map_cons, owner, ← same], ?_⟩
                intro other found
                rcases List.mem_cons.mp found with rfl | found
                · rw [owner, first]
                · exact each other found
      · rintro ⟨same, each⟩
        cases list with
        | nil => cases same
        | cons placed more =>
            obtain ⟨rfl, rfl⟩ := List.cons.inj same
            rw [each placed List.mem_cons_self,
              ih.mpr ⟨rfl, fun other found => each other (List.mem_cons_of_mem placed found)⟩]
            rfl

theorem descending_perm (list : List Placed) : (descending list).Perm list :=
  List.mergeSort_perm list _

/-- Edits that add behind words and that pass the check insert, each behind its word. -/
theorem applyOctets_of_fits {added : String} {text : List Char} {edits : List Edit}
    {list : List Placed} (fits : ∀ placed ∈ list, placed.Fits added text)
    (found : edits.mapM (place (Utf8.encode text) (lineStarts (Utf8.encode text)).toArray) =
      .ok list)
    (apart : checkOverlap (descending list) = .ok ()) :
    (list.map (Placed.place text)).Nodup ∧
      applyOctets (Utf8.encode text) edits =
        .ok (Utf8.encode (insertAll added.toList (list.map (Placed.place text)) text)) := by
  have perm := descending_perm list
  have fits' : ∀ placed ∈ descending list, placed.Fits added text :=
    fun placed found => fits placed (perm.mem_iff.mp found)
  -- the edits are apart by their starts and stops, and so are the places behind their words
  have order : (descending list).Pairwise fun later earlier =>
      earlier.place text < later.place text := by
    have proper : ∀ placed ∈ descending list, placed.start ≤ placed.stop :=
      fun placed found => Int.le_of_lt (fits' placed found).start_lt_stop
    apply (pairwise_of_checkOverlap proper apart).imp_of_mem
    intro later earlier first second order
    have := (fits' later first).start_lt_stop
    exact (fits' earlier second).place_lt (fits' later first) (by omega)
  have places : ((descending list).map (Placed.place text)).Pairwise fun later earlier =>
      earlier < later := List.pairwise_map.mpr order
  constructor
  · apply ((perm.map _).nodup_iff).mp
    exact places.imp fun order => Nat.ne_of_gt order
  · have inserted := foldl_insertOne added.toList text places fun place found => by
      obtain ⟨placed, here, rfl⟩ := List.mem_map.mp found
      exact (fits' placed here).inside
    simp only [applyOctets, found, bind, Except.bind, apart]
    rw [foldl_replaceOctets fits' order, inserted,
      insertAll_perm added.toList (perm.map _)]
    rfl

theorem pairwise_descending (list : List Placed) :
    (descending list).Pairwise fun later earlier => earlier.start ≤ later.start := by
  refine (List.pairwise_mergeSort ?_ ?_ list).imp fun order => of_decide_eq_true order
  · intro a b c first second
    rw [decide_eq_true_eq] at first second ⊢
    omega
  · intro a b
    rw [Bool.or_eq_true, decide_eq_true_eq, decide_eq_true_eq]
    omega

theorem checkOverlap_descending {list : List Placed}
    (proper : ∀ placed ∈ list, placed.start < placed.stop)
    (apart : list.Pairwise fun first second => first.stop ≤ second.start) :
    checkOverlap (descending list) = .ok () := by
  have perm := descending_perm list
  -- being apart does not depend on the order
  have either : (descending list).Pairwise fun first second =>
      first.stop ≤ second.start ∨ second.stop ≤ first.start := by
    refine perm.symm.pairwise (apart.imp Or.inl) ?_
    exact fun order => order.symm
  apply checkOverlap_of_pairwise
  apply (either.and (pairwise_descending list)).imp_of_mem
  intro later earlier found _ ⟨apart, order⟩
  have := proper later (perm.mem_iff.mp found)
  omega

theorem applyAll_of_fits {added source : String} {edits : List Edit} {list : List Placed}
    (fits : ∀ placed ∈ list, placed.Fits added source.toList)
    (found : edits.mapM (place (Utf8.encode source.toList)
      (lineStarts (Utf8.encode source.toList)).toArray) = .ok list)
    (apart : checkOverlap (descending list) = .ok ()) :
    (list.map (Placed.place source.toList)).Nodup ∧
      applyAll source edits =
        .ok (String.ofList
          (insertAll added.toList (list.map (Placed.place source.toList)) source.toList)) := by
  obtain ⟨distinct, result⟩ := applyOctets_of_fits fits found apart
  refine ⟨distinct, ?_⟩
  rw [applyAll, result]
  dsimp only
  rw [Utf8.decode_encode]

theorem applyAll_nil (source : String) : applyAll source [] = .ok source := by
  have none : ∀ placed ∈ ([] : List Placed), placed.Fits "" source.toList :=
    fun _ found => absurd found List.not_mem_nil
  have apart : checkOverlap (descending []) = .ok () := by
    rw [descending, List.mergeSort_nil]
    rfl
  rw [(applyAll_of_fits none rfl apart).2, List.map_nil, insertAll,
    insertFrom_of_lt _ fun _ found => absurd found List.not_mem_nil, String.ofList_toList]

/-- Edits that add the same behind words are refused, or insert it at as many places of the text,
each behind its word. -/
theorem applyAll_of_extends {added source : String} {edits : List Edit}
    (extend : ∀ edit ∈ edits, edit.Extends added)
    (legible : ∀ edit ∈ edits, '\uFFFD' ∉ edit.expected.toList) :
    (∃ conflict, applyAll source edits = .error (.conflict conflict)) ∨
      ∃ list : List Placed, list.map (·.edit) = edits ∧
        (∀ placed ∈ list, placed.Fits added source.toList) ∧
        (list.map (Placed.place source.toList)).Nodup ∧
        applyAll source edits =
          .ok (String.ofList
            (insertAll added.toList (list.map (Placed.place source.toList)) source.toList)) := by
  cases found : edits.mapM (place (Utf8.encode source.toList)
      (lineStarts (Utf8.encode source.toList)).toArray) with
  | error conflict =>
      refine Or.inl ⟨conflict, ?_⟩
      simp only [applyAll, applyOctets, found, bind, Except.bind]
  | ok list =>
      cases apart : checkOverlap (descending list) with
      | error conflict =>
          refine Or.inl ⟨conflict, ?_⟩
          simp only [applyAll, applyOctets, found, bind, Except.bind, apart]
      | ok =>
          obtain ⟨same, each⟩ := mapM_place_eq_ok_iff.mp found
          have fits : ∀ placed ∈ list, placed.Fits added source.toList := by
            intro placed here
            have owner : placed.edit ∈ edits := by
              rw [same]
              exact List.mem_map_of_mem here
            exact (extend _ owner).fits (legible _ owner) (each placed here)
          exact Or.inr ⟨list, same.symm, fits, applyAll_of_fits fits found apart⟩

end Edit

end SignatureLint

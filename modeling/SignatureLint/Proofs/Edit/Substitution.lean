import Mathlib.Data.List.Nodup
import Mathlib.Data.List.Pairwise
import SignatureLint.Proofs.Edit.Lines
import SignatureLint.Proofs.Outcome

/-!
# Edits as one substitution

The span of an edit stands for a part of a text if its lines are there and both of its
ends lie between two characters.  Edits of parts that begin at different places are refused
if one of them does not find what it expects, or if two parts overlap; otherwise all parts
are replaced at once, and the order of the edits says nothing.
-/

namespace SignatureLint

open Lexer

namespace Edit

/-! ## Places by line and column -/

/-- What stands in a text before a line with some number.  Lines end in line feeds. -/
structure BeforeLine (text : List Char) (line : Int) (before : List Char) : Prop where
  front : before <+: text
  ended : before = [] ∨ before.getLast? = some '\n'
  number : line = before.count '\n' + 1

/-- A column of a line leads to a place between two characters of a text, behind a front of it. -/
def LeadsTo (text : List Char) (line column : Int) (front : List Char) : Prop :=
  ∃ before, BeforeLine text line before ∧ Utf8.width before + column = Utf8.width front

theorem line_advance (text : List Char) (line column : Nat) :
    (advance ⟨line, column⟩ text).line = line + text.count '\n' := by
  induction text generalizing line column with
  | nil => rfl
  | cons c rest ih =>
      by_cases feed : c = '\n'
      · subst feed
        rw [advance_feed, ih, List.count_cons_self]
        omega
      · rw [advance_cons feed, ih, List.count_cons_of_ne feed]

theorem reach_of_ended {before : List Char}
    (ended : before = [] ∨ before.getLast? = some '\n') :
    reach before = ⟨before.count '\n' + 1, 0⟩ := by
  rcases ended with rfl | last
  · rfl
  · obtain ⟨front, rfl⟩ := List.getLast?_eq_some_iff.mp last
    have line := line_advance front 1 0
    rw [← advance_reach, advance_feed, advance_nil, reach, line, List.count_append,
      List.count_singleton_self, Nat.add_comm 1]

theorem LeadsTo.offset_eq {text front : List Char} {line column : Int}
    (leads : LeadsTo text line column front) :
    offset (lineStarts (Utf8.encode text)).toArray line column = .ok (Utf8.width front) := by
  obtain ⟨before, ⟨⟨after, rfl⟩, ended, rfl⟩, width⟩ := leads
  have there := offset_reach before (Utf8.encode after) column
  rw [reach_of_ended ended] at there
  rw [Utf8.encode_append, ← width]
  simpa using there

/-! ## Sites -/

/-- An edit with the part of a text that its span stands for. -/
structure Site (text : List Char) where
  edit : Edit
  /-- What stands before the part. -/
  front : List Char
  part : List Char
  inside : front ++ part <+: text
  starts : LeadsTo text edit.span.startLine edit.span.startColumn front
  stops : LeadsTo text edit.span.endLine edit.span.endColumn (front ++ part)

namespace Site

variable {text : List Char}

/-- The number of octets before the part. -/
def start (site : Site text) : Nat :=
  Utf8.width site.front

/-- The number of octets before the end of the part. -/
def stop (site : Site text) : Nat :=
  Utf8.width (site.front ++ site.part)

/-- The part is not what the edit expects. -/
def Stale (site : Site text) : Prop :=
  site.part ≠ site.edit.expected.toList

/-- Each part begins before the other one ends. -/
def Overlaps (site other : Site text) : Prop :=
  site.start < other.stop ∧ other.start < site.stop

instance (site : Site text) : Decidable site.Stale :=
  inferInstanceAs (Decidable (_ ≠ _))

instance (site other : Site text) : Decidable (site.Overlaps other) :=
  inferInstanceAs (Decidable (_ ∧ _))

theorem start_le_stop (site : Site text) : site.start ≤ site.stop := by
  rw [start, stop, Utf8.width_append]
  exact Nat.le_add_right _ _

/-- The octets of a site, which its edit is to replace. -/
def placed (site : Site text) : Placed :=
  ⟨site.start, site.stop, site.edit⟩

theorem slice_eq (site : Site text) :
    Octets.slice (Utf8.encode text) site.start site.stop = Utf8.encode site.part := by
  obtain ⟨back, whole⟩ := site.inside
  have octets : Utf8.encode text =
      Utf8.encode site.front ++ Utf8.encode site.part ++ Utf8.encode back := by
    rw [← Utf8.encode_append, ← Utf8.encode_append, whole]
  rw [octets, start, stop, ← Utf8.length_encode, ← Utf8.length_encode, Utf8.encode_append,
    Octets.slice_append]

theorem place_eq_ok {site : Site text} (fresh : ¬site.Stale) :
    place (Utf8.encode text) (lineStarts (Utf8.encode text)).toArray site.edit =
      .ok site.placed := by
  refine place_eq_ok_iff.mpr ⟨site.starts.offset_eq, site.stops.offset_eq, ?_, rfl⟩
  rw [placed, site.slice_eq, Utf8.decodeLenient_encode, Decidable.not_not.mp fresh,
    String.ofList_toList]

theorem exists_place_eq_error {site : Site text} (stale : site.Stale) :
    ∃ conflict, place (Utf8.encode text) (lineStarts (Utf8.encode text)).toArray site.edit =
      .error conflict := by
  cases found : place (Utf8.encode text) (lineStarts (Utf8.encode text)).toArray site.edit with
  | error conflict => exact ⟨conflict, rfl⟩
  | ok placed =>
      exfalso
      obtain ⟨first, second, same, -⟩ := place_eq_ok_iff.mp found
      rw [site.starts.offset_eq, Except.ok.injEq] at first
      rw [site.stops.offset_eq, Except.ok.injEq] at second
      rw [← first, ← second, ← start, ← stop, site.slice_eq, Utf8.decodeLenient_encode] at same
      apply stale
      rw [← same, String.toList_ofList]

/-- Two edits of parts that begin at different places overlap unless one of the parts ends before
the other one begins. -/
theorem overlaps_iff {site other : Site text} (order : site.start < other.start) :
    site.Overlaps other ↔ ¬site.stop ≤ other.start := by
  have := other.start_le_stop
  unfold Overlaps
  omega

theorem front_of_width_le {front front' : List Char} (here : front <+: text)
    (there : front' <+: text) (order : Utf8.width front ≤ Utf8.width front') :
    front <+: front' := by
  rcases Nat.le_total front.length front'.length with short | long
  · exact List.prefix_of_prefix_length_le here there short
  · obtain ⟨rest, rfl⟩ := List.prefix_of_prefix_length_le there here long
    have empty : rest = [] := by
      by_contra more
      have := Utf8.width_pos more
      rw [Utf8.width_append] at order
      omega
    simp [empty]

end Site

/-! ## Substitution -/

variable {text : List Char}

/-- The text from a place on, in which the parts of some sites, given from the first to the last
one, are replaced: the gap before the first part, its replacement, and what follows. -/
def substitute (text : List Char) (count : Nat) : List (Site text) → List Char
  | [] => text.drop count
  | site :: rest =>
      (text.take site.front.length).drop count ++ site.edit.replacement.toList ++
        substitute text (site.front ++ site.part).length rest

/-- Replacing octets from the last site to the first one replaces the parts. -/
theorem foldr_replaceOctets {sites : List (Site text)} {front : List Char} (inside : front <+: text)
    (after : ∀ site ∈ sites, Utf8.width front ≤ site.start)
    (apart : sites.Pairwise fun earlier later => earlier.stop ≤ later.start) :
    sites.foldr (fun site data => replaceOctets data site.placed) (Utf8.encode text) =
      Utf8.encode (front ++ substitute text front.length sites) := by
  induction sites generalizing front with
  | nil =>
      have whole := List.prefix_iff_eq_append.mp inside
      rw [List.foldr_nil, substitute, whole]
  | cons site rest ih =>
      obtain ⟨before, apart⟩ := List.pairwise_cons.mp apart
      have here : site.front <+: text := (List.prefix_append _ _).trans site.inside
      obtain ⟨gap, shape⟩ := Site.front_of_width_le inside here (after site List.mem_cons_self)
      have gap_eq : (text.take site.front.length).drop front.length = gap := by
        rw [← List.prefix_iff_eq_take.mp here, ← shape, List.drop_left]
      rw [List.foldr_cons, ih site.inside before apart, replaceOctets, Site.placed]
      dsimp only
      have last : Octets.after (Utf8.encode (site.front ++ site.part ++
          substitute text (site.front ++ site.part).length rest)) site.stop =
            Utf8.encode (substitute text (site.front ++ site.part).length rest) := by
        rw [Site.stop, ← Utf8.length_encode, Utf8.encode_append, Octets.after_append]
      have first : Octets.before (Utf8.encode (site.front ++ site.part ++
          substitute text (site.front ++ site.part).length rest)) site.start =
            Utf8.encode site.front := by
        rw [Site.start, ← Utf8.length_encode, List.append_assoc, Utf8.encode_append,
          Octets.before_append]
      rw [first, last, substitute, gap_eq, ← shape]
      simp only [Utf8.encode_append, List.append_assoc]

theorem descending_placed {sites ordered : List (Site text)} (perm : ordered.Perm sites)
    (ascending : ordered.Pairwise fun earlier later => earlier.start < later.start) :
    descending (sites.map Site.placed) = (ordered.map Site.placed).reverse := by
  have rearranged : (descending (sites.map Site.placed)).Perm (ordered.map Site.placed).reverse :=
    (descending_perm _).trans ((perm.symm.map _).trans (List.reverse_perm _).symm)
  have sorted : (ordered.map Site.placed).reverse.Pairwise
      fun later earlier => earlier.start ≤ later.start := by
    rw [List.pairwise_reverse, List.pairwise_map]
    exact ascending.imp fun order => Int.ofNat_le.mpr (Nat.le_of_lt order)
  have distinct : (ordered.map Site.start).Nodup :=
    List.pairwise_map.mpr (ascending.imp Nat.ne_of_lt)
  refine List.Perm.eq_of_pairwise ?_ (pairwise_descending _) sorted rearranged
  intro first second here there before after
  rw [rearranged.mem_iff] at here
  obtain ⟨site, found, rfl⟩ := List.mem_map.mp (List.mem_reverse.mp here)
  obtain ⟨other, found', rfl⟩ := List.mem_map.mp (List.mem_reverse.mp there)
  have same : site.start = other.start := Int.ofNat_inj.mp (Int.le_antisymm after before)
  rw [List.inj_on_of_nodup_map distinct found found' same]

/-- The edits of sites that begin one before the other pass the check if no part reaches into the
next one. -/
theorem checkOverlap_placed_iff {ordered : List (Site text)} :
    checkOverlap (ordered.map Site.placed).reverse = .ok () ↔
      ordered.Pairwise fun earlier later => earlier.stop ≤ later.start := by
  have octets : (ordered.map Site.placed).reverse.Pairwise
      (fun later earlier => earlier.stop ≤ later.start) ↔
        ordered.Pairwise fun earlier later => earlier.stop ≤ later.start := by
    rw [List.pairwise_reverse, List.pairwise_map]
    exact ⟨List.Pairwise.imp Int.ofNat_le.mp, List.Pairwise.imp Int.ofNat_le.mpr⟩
  rw [← octets]
  constructor
  · apply pairwise_of_checkOverlap
    intro placed found
    obtain ⟨site, -, rfl⟩ := List.mem_map.mp (List.mem_reverse.mp found)
    exact Int.ofNat_le.mpr site.start_le_stop
  · exact checkOverlap_of_pairwise

variable {source : String} {sites ordered : List (Site source.toList)}

theorem exists_conflict_of_stale (stale : ∃ site ∈ sites, site.Stale) :
    ∃ conflict, applyAll source (sites.map Site.edit) = .error (.conflict conflict) := by
  obtain ⟨site, found, stale⟩ := stale
  obtain ⟨conflict, fails⟩ := Site.exists_place_eq_error stale
  obtain ⟨first, refused, -⟩ := Outcome.exists_error_of_mapM (P := fun _ => True)
    (fun _ _ _ _ => trivial) ⟨site.edit, List.mem_map_of_mem found, conflict, fails⟩
  refine ⟨first, ?_⟩
  simp only [applyAll, applyOctets, refused, bind, Except.bind]

/-- Edits that all find what they expect are checked and applied in the order in which their parts
end the text. -/
theorem applyAll_of_fresh (fresh : ∀ site ∈ sites, ¬site.Stale) (perm : ordered.Perm sites)
    (ascending : ordered.Pairwise fun earlier later => earlier.start < later.start) :
    (ordered.Pairwise (fun earlier later => earlier.stop ≤ later.start) →
      applyAll source (sites.map Site.edit) =
        .ok (String.ofList (substitute source.toList 0 ordered))) ∧
    (¬ordered.Pairwise (fun earlier later => earlier.stop ≤ later.start) →
      ∃ conflict, applyAll source (sites.map Site.edit) = .error (.conflict conflict)) := by
  have placed : (sites.map Site.edit).mapM (place (Utf8.encode source.toList)
      (lineStarts (Utf8.encode source.toList)).toArray) = .ok (sites.map Site.placed) := by
    refine mapM_place_eq_ok_iff.mpr ⟨by rw [List.map_map]; rfl, ?_⟩
    intro one found
    obtain ⟨site, here, rfl⟩ := List.mem_map.mp found
    exact Site.place_eq_ok (fresh site here)
  have sorted := descending_placed perm ascending
  constructor
  · intro apart
    have passed := checkOverlap_placed_iff.mpr apart
    have replaced := foldr_replaceOctets List.nil_prefix (fun _ _ => Nat.zero_le _) apart
    simp only [applyAll, applyOctets, placed, sorted, passed, bind, Except.bind, pure, Except.pure,
      List.foldl_reverse, List.foldr_map, replaced, Utf8.decode_encode, List.nil_append,
      List.length_nil]
  · intro reaches
    cases failed : checkOverlap (ordered.map Site.placed).reverse with
    | ok => exact absurd (checkOverlap_placed_iff.mp failed) reaches
    | error conflict =>
        refine ⟨conflict, ?_⟩
        simp only [applyAll, applyOctets, placed, sorted, failed, bind, Except.bind]

/-! ## Conflicts -/

/-- A part is not what its edit expects, or two parts that begin at different places overlap. -/
def Conflicting (sites : List (Site text)) : Prop :=
  (∃ site ∈ sites, site.Stale) ∨
    ∃ site ∈ sites, ∃ other ∈ sites, site.start ≠ other.start ∧ site.Overlaps other

instance (sites : List (Site text)) : Decidable (Conflicting sites) :=
  inferInstanceAs (Decidable (_ ∨ _))

theorem exists_ordered {sites : List (Site text)} (distinct : (sites.map Site.start).Nodup) :
    ∃ ordered : List (Site text), ordered.Perm sites ∧
      ordered.Pairwise fun earlier later => earlier.start < later.start := by
  have perm := List.mergeSort_perm sites fun earlier later => earlier.start ≤ later.start
  refine ⟨_, perm, ?_⟩
  have different := List.pairwise_map.mp (((perm.map Site.start).nodup_iff).mpr distinct)
  have sorted : (sites.mergeSort fun earlier later => earlier.start ≤ later.start).Pairwise
      fun earlier later => earlier.start ≤ later.start := by
    refine (List.pairwise_mergeSort ?_ ?_ sites).imp fun order => of_decide_eq_true order
    · intro a b c first second
      rw [decide_eq_true_eq] at first second ⊢
      omega
    · intro a b
      rw [Bool.or_eq_true, decide_eq_true_eq, decide_eq_true_eq]
      omega
  exact (sorted.and different).imp fun ⟨order, other⟩ => Nat.lt_of_le_of_ne order other

theorem pairwise_stop_le_iff {sites ordered : List (Site text)} (perm : ordered.Perm sites)
    (ascending : ordered.Pairwise fun earlier later => earlier.start < later.start) :
    ordered.Pairwise (fun earlier later => earlier.stop ≤ later.start) ↔
      ¬∃ site ∈ sites, ∃ other ∈ sites, site.start ≠ other.start ∧ site.Overlaps other := by
  constructor
  · rintro apart ⟨site, found, other, found', different, overlap⟩
    have either : ordered.Pairwise fun first second =>
        first.stop ≤ second.start ∨ second.stop ≤ first.start := apart.imp Or.inl
    have : Std.Symm fun first second : Site text =>
        first.stop ≤ second.start ∨ second.stop ≤ first.start := ⟨fun _ _ => Or.symm⟩
    have away := either.forall (perm.mem_iff.mpr found) (perm.mem_iff.mpr found')
      fun same => different (congrArg Site.start same)
    unfold Site.Overlaps at overlap
    omega
  · intro none
    refine ascending.imp_of_mem fun {earlier later} found found' order => ?_
    by_contra reaches
    exact none ⟨earlier, perm.mem_iff.mp found, later, perm.mem_iff.mp found', Nat.ne_of_lt order,
      (Site.overlaps_iff order).mpr reaches⟩

/-- Edits of parts that begin at different places are refused exactly if a part is not what its edit
expects or two parts overlap.  Otherwise each part is replaced and the gaps between the parts stay,
in the order of the text, whatever the order of the edits. -/
theorem applyAll_substitutes {source : String} {sites : List (Site source.toList)}
    (distinct : (sites.map Site.start).Nodup) :
    ((∃ conflict, applyAll source (sites.map Site.edit) = .error (.conflict conflict)) ↔
      Conflicting sites) ∧
    (¬Conflicting sites → ∃ ordered : List (Site source.toList), ordered.Perm sites ∧
      ordered.Pairwise (fun earlier later => earlier.start < later.start ∧
        earlier.stop ≤ later.start) ∧
      ∀ others : List (Site source.toList), others.Perm sites →
        applyAll source (others.map Site.edit) =
          .ok (String.ofList (substitute source.toList 0 ordered))) := by
  obtain ⟨ordered, perm, ascending⟩ := exists_ordered distinct
  have apart_iff := pairwise_stop_le_iff perm ascending
  -- what comes out is said for one order of the sites, and any order of the edits leads to it
  have replaces (clear : ¬Conflicting sites) (others : List (Site source.toList))
      (perm' : others.Perm sites) : applyAll source (others.map Site.edit) =
        .ok (String.ofList (substitute source.toList 0 ordered)) := by
    obtain ⟨fresh, separate⟩ := not_or.mp clear
    refine (applyAll_of_fresh ?_ (perm.trans perm'.symm) ascending).1 (apart_iff.mpr separate)
    exact fun site found stale => fresh ⟨site, perm'.mem_iff.mp found, stale⟩
  refine ⟨⟨?_, ?_⟩, ?_⟩
  · rintro ⟨conflict, refused⟩
    by_contra clear
    rw [replaces clear sites (List.Perm.refl _)] at refused
    cases refused
  · rintro conflicting
    by_cases stale : ∃ site ∈ sites, site.Stale
    · exact exists_conflict_of_stale stale
    · have overlap := conflicting.resolve_left stale
      refine (applyAll_of_fresh ?_ perm ascending).2 fun apart => apart_iff.mp apart overlap
      exact fun site found here => stale ⟨site, found, here⟩
  · intro clear
    have apart := apart_iff.mpr (not_or.mp clear).2
    exact ⟨ordered, perm, ascending.and apart, replaces clear⟩

/-- Two lines, the second of which begins with a letter of two octets. -/
def twoLines : String := "ab\né = cd\n"

/-- An edit of a word at the end of the second line. -/
def wordSite : Site twoLines.toList where
  edit := ⟨⟨"a.py", 2, 5, 2, 7⟩, "cd", "xyz", "edit", true⟩
  front := "ab\né = ".toList
  part := "cd".toList
  inside := by decide
  starts := ⟨"ab\n".toList, ⟨by decide, by decide, by decide⟩, by decide⟩
  stops := ⟨"ab\n".toList, ⟨by decide, by decide, by decide⟩, by decide⟩

def joinSite : Site twoLines.toList where
  edit := ⟨⟨"a.py", 1, 1, 2, 0⟩, "b\n", "", "edit", true⟩
  front := "a".toList
  part := "b\n".toList
  inside := by decide
  starts := ⟨"".toList, ⟨by decide, by decide, by decide⟩, by decide⟩
  stops := ⟨"ab\n".toList, ⟨by decide, by decide, by decide⟩, by decide⟩

/-- An edit that inserts behind the letter of two octets. -/
def insertSite : Site twoLines.toList where
  edit := ⟨⟨"a.py", 2, 2, 2, 2⟩, "", "1", "edit", true⟩
  front := "ab\né".toList
  part := "".toList
  inside := by decide
  starts := ⟨"ab\n".toList, ⟨by decide, by decide, by decide⟩, by decide⟩
  stops := ⟨"ab\n".toList, ⟨by decide, by decide, by decide⟩, by decide⟩

/-- Three edits of two lines, in no order. -/
theorem applyAll_substitutes_twoLines :
    ([insertSite, wordSite, joinSite].map Site.start).Nodup ∧
    ¬Conflicting [insertSite, wordSite, joinSite] ∧
    applyAll twoLines ([wordSite, joinSite, insertSite].map Site.edit) = .ok "aé1 = xyz\n" := by
  have distinct : ([insertSite, wordSite, joinSite].map Site.start).Nodup := by decide
  have clear : ¬Conflicting [insertSite, wordSite, joinSite] := by decide
  obtain ⟨ordered, perm, ascending, applied⟩ := (applyAll_substitutes distinct).2 clear
  have inOrder : [joinSite, insertSite, wordSite].Pairwise
      fun earlier later => earlier.start < later.start := by decide
  have rotated : [insertSite, wordSite, joinSite].Perm [joinSite, insertSite, wordSite] :=
    @List.perm_append_comm _ [insertSite, wordSite] [joinSite]
  have sorted : ordered = [joinSite, insertSite, wordSite] := by
    refine List.Perm.eq_of_pairwise ?_ (ascending.imp And.left) inOrder (perm.trans rotated)
    intro first second _ _ before after
    exact absurd after (Nat.lt_asymm before)
  have rotated' : [wordSite, joinSite, insertSite].Perm [insertSite, wordSite, joinSite] :=
    @List.perm_append_comm _ [wordSite, joinSite] [insertSite]
  refine ⟨distinct, clear, ?_⟩
  rw [applied _ rotated', sorted]
  decide

end Edit

end SignatureLint

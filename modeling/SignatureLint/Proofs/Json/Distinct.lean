import SignatureLint.Proofs.Json.Lines

/-!
# Objects without repeated keys

No object of a value that was read has a key twice, for a key that comes again only changes the
value at the key.  A key of such an object has one value, wherever it stands.
-/

namespace SignatureLint

namespace Json

/-- A value of which no object has a key twice. -/
inductive DistinctKeys : Json → Prop where
  | null : DistinctKeys .null
  | boolean (value : Bool) : DistinctKeys (.boolean value)
  | integer (value : Int) : DistinctKeys (.integer value)
  | real (value : Binary64) : DistinctKeys (.real value)
  | text (value : LooseText) : DistinctKeys (.text value)
  | array {elements : List Json} (each : ∀ element ∈ elements, DistinctKeys element) :
      DistinctKeys (.array elements)
  | object {entries : List (LooseText × Json)} (keys : (entries.map Prod.fst).Nodup)
      (values : ∀ entry ∈ entries, DistinctKeys entry.2) : DistinctKeys (.object entries)

namespace DistinctKeys

variable {entries : List (LooseText × Json)}

theorem each {elements : List Json} (distinct : (Json.array elements).DistinctKeys) :
    ∀ element ∈ elements, element.DistinctKeys := by
  cases distinct with
  | array each => exact each

theorem keys (distinct : (Json.object entries).DistinctKeys) : (entries.map Prod.fst).Nodup := by
  cases distinct with
  | object keys _ => exact keys

theorem values (distinct : (Json.object entries).DistinctKeys) :
    ∀ entry ∈ entries, entry.2.DistinctKeys := by
  cases distinct with
  | object _ values => exact values

theorem put (distinct : (Json.object entries).DistinctKeys) (key : LooseText) {value : Json}
    (here : value.DistinctKeys) : (Json.object (Json.put entries key value)).DistinctKeys := by
  refine .object (nodup_put distinct.keys) fun entry found => ?_
  rcases mem_put found with rfl | found
  · exact here
  · exact distinct.values entry found

end DistinctKeys

/-! ## Look-ups -/

theorem mem_of_lookup? {key : String} {entries : List (LooseText × Json)} {value : Json}
    (h : lookup? key entries = some value) : (LooseText.clean key, value) ∈ entries := by
  induction entries with
  | nil => cases h
  | cons first rest ih =>
      obtain ⟨name, other⟩ := first
      rw [lookup?] at h
      split at h
      · rename_i same
        cases h
        rw [same]
        exact List.mem_cons_self
      · exact List.mem_cons_of_mem _ (ih h)

theorem lookup?_of_mem {key : String} {entries : List (LooseText × Json)} {value : Json}
    (distinct : (entries.map Prod.fst).Nodup) (found : (LooseText.clean key, value) ∈ entries) :
    lookup? key entries = some value := by
  induction entries with
  | nil => cases found
  | cons first rest ih =>
      obtain ⟨name, other⟩ := first
      obtain ⟨fresh, others⟩ := List.nodup_cons.mp distinct
      rw [lookup?]
      rcases List.mem_cons.mp found with same | there
      · cases same
        exact if_pos rfl
      · have different : name ≠ .clean key := fun same =>
          fresh (List.mem_map.mpr ⟨_, there, same.symm⟩)
        rw [if_neg different]
        exact ih others there

theorem lookup?_perm {entries entries' : List (LooseText × Json)} (perm : entries.Perm entries')
    (distinct : (entries.map Prod.fst).Nodup) (key : String) :
    lookup? key entries' = lookup? key entries := by
  have distinct' : (entries'.map Prod.fst).Nodup := (perm.map Prod.fst).nodup_iff.mp distinct
  refine Option.ext fun value => ⟨fun found => ?_, fun found => ?_⟩
  · exact lookup?_of_mem distinct (perm.mem_iff.mpr (mem_of_lookup? found))
  · exact lookup?_of_mem distinct' (perm.mem_iff.mp (mem_of_lookup? found))

/-! ## Reading -/

variable {α β : Type}

/-- A step of a reading gives only values that have a property. -/
def Yields (property : α → Prop) (step : Except Fault (α × List Char)) : Prop :=
  ∀ value rest, step = .ok (value, rest) → property value

namespace Yields

variable {property : α → Prop} {step : Except Fault (α × List Char)}

theorem ok {value : α} (here : property value) (rest : List Char) :
    Yields property (.ok (value, rest)) := by
  rintro _ _ ⟨⟩
  exact here

theorem stop (fault : Fault) : Yields property (.error fault : Except Fault (α × List Char)) :=
  nofun

theorem bind {property' : β → Prop} {next : α × List Char → Except Fault (β × List Char)}
    (yields : Yields property step)
    (after : ∀ value rest, property value → Yields property' (next (value, rest))) :
    Yields property' (step >>= next) := by
  cases step with
  | error fault => exact stop fault
  | ok found => exact after found.1 found.2 (yields found.1 found.2 rfl)

theorem any (step : Except Fault (α × List Char)) : Yields (fun _ => True) step :=
  fun _ _ _ => trivial

end Yields

theorem distinctKeys_words : ∀ entry ∈ words, entry.2.DistinctKeys := by
  rintro entry found
  simp only [words, List.mem_cons, List.not_mem_nil, or_false] at found
  rcases found with rfl | rfl | rfl | rfl | rfl | rfl
  · exact .null
  · exact .boolean true
  · exact .boolean false
  all_goals exact .real _

theorem distinctKeys_of_number {negative : Bool} {text rest : List Char} {value : Json}
    (h : number Decimal.maxDigits negative text = .ok (some (value, rest))) :
    value.DistinctKeys := by
  revert h
  fun_cases number Decimal.maxDigits negative text with
  | case1 | case2 => exact nofun
  | case3 =>
      rintro ⟨⟩
      exact .integer _
  | case4 =>
      rintro ⟨⟩
      exact .real _

theorem yields_bind_number (negative : Bool) (text : List Char)
    {next : Option (Json × List Char) → Except Fault (Json × List Char)}
    (stops : ∀ found, next none ≠ .ok found) (same : ∀ found, next (some found) = .ok found) :
    Yields DistinctKeys (number Decimal.maxDigits negative text >>= next) := by
  intro value rest h
  cases read : number Decimal.maxDigits negative text with
  | error fault =>
      rw [read] at h
      cases h
  | ok found =>
      rw [read] at h
      cases found with
      | none => exact absurd h (stops _)
      | some found =>
          cases (same found).symm.trans h
          exact distinctKeys_of_number read

theorem distinctKeys_of_word? {text rest : List Char} {value : Json}
    (h : word? text = some (value, rest)) : value.DistinctKeys := by
  obtain ⟨entry, listed, found⟩ := List.exists_of_findSome?_eq_some h
  dsimp only at found
  split at found
  · cases found
    exact distinctKeys_words entry listed
  · cases found

theorem yields_scalar (text : List Char) : Yields DistinctKeys (scalar Decimal.maxDigits text) := by
  rw [scalar]
  cases word : word? text with
  | some found => exact .ok (distinctKeys_of_word? word) _
  | none =>
      dsimp only
      split
      · exact yields_bind_number true _ (by rintro _ ⟨⟩) fun _ => rfl
      · exact yields_bind_number false _ (by rintro _ ⟨⟩) fun _ => rfl

mutual

theorem yields_valueAt : (fuel : Nat) → (source : List Char) →
    Yields DistinctKeys (valueAt Decimal.maxDigits fuel source)
  | 0, _ => .stop _
  | fuel + 1, source => by
      rw [valueAt.eq_def]
      dsimp only
      split
      · exact (Yields.any _).bind fun _ rest _ => .ok (.text _) rest
      · split
        · exact .ok (.object List.nodup_nil (List.forall_mem_nil _)) _
        · have none : (Json.object []).DistinctKeys :=
            .object List.nodup_nil (List.forall_mem_nil _)
          exact (yields_entriesAt fuel [] none _).bind fun _ rest distinct => .ok distinct rest
      · split
        · exact .ok (.array (List.forall_mem_nil _)) _
        · exact (yields_elementsAt fuel _).bind fun _ rest each => .ok (.array each) rest
      · exact yields_scalar source

theorem yields_elementsAt : (fuel : Nat) → (source : List Char) →
    Yields (fun elements => ∀ element ∈ elements, DistinctKeys element)
      (elementsAt Decimal.maxDigits fuel source)
  | 0, _ => .stop _
  | fuel + 1, source => by
      rw [elementsAt]
      refine (yields_valueAt fuel source).bind fun first rest distinct => ?_
      dsimp only
      split
      · exact .ok (List.forall_mem_singleton.mpr distinct) _
      · exact (yields_elementsAt fuel _).bind fun _ rest each =>
          .ok (List.forall_mem_cons.mpr ⟨distinct, each⟩) rest
      · exact .stop _

theorem yields_entriesAt : (fuel : Nat) → (earlier : List (LooseText × Json)) →
    (Json.object earlier).DistinctKeys → (source : List Char) →
    Yields (fun entries => (Json.object entries).DistinctKeys)
      (entriesAt Decimal.maxDigits fuel earlier source)
  | 0, _, _, _ => .stop _
  | fuel + 1, earlier, distinct, source => by
      rw [entriesAt.eq_def]
      dsimp only
      split
      · refine (Yields.any _).bind fun points afterKey _ => ?_
        dsimp only
        split
        · refine (yields_valueAt fuel _).bind fun value afterValue here => ?_
          have distinct' := distinct.put (LooseText.ofPoints points) here
          dsimp only
          split
          · rintro _ _ ⟨⟩
            exact distinct'
          · exact yields_entriesAt fuel _ distinct' _
          · exact .stop _
        · exact .stop _
      · exact .stop _

end

theorem distinctKeys_of_read {raw : String} {json : Json} (h : Json.read raw = .ok json) :
    json.DistinctKeys := by
  rw [Json.read] at h
  split at h
  · rename_i value whole
    cases h
    rw [Json.whole] at whole
    split at whole
    · cases whole
    · cases read : valueAt Decimal.maxDigits (2 * raw.toList.length + 2) (skip raw.toList) with
      | error fault =>
          rw [read] at whole
          cases whole
      | ok found =>
          rw [read] at whole
          dsimp only [bind, Except.bind] at whole
          split at whole
          · cases whole
            exact yields_valueAt _ _ found.1 found.2 read
          · cases whole
  · cases h

end Json

end SignatureLint

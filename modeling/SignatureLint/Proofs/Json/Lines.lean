import SignatureLint.Proofs.Json.Written

/-!
# Lines of JSON

A value is written on one line: every character of it is a blank or a visible one of ASCII.  It is
read back from its line, and from its lines if it was written on several.
-/

namespace SignatureLint

namespace Json

/-! ## Lines -/

/-- A character of the visible part of ASCII, or a blank. -/
def Printable (c : Char) : Prop :=
  32 ≤ c.toNat ∧ c.toNat < 127

instance (c : Char) : Decidable (Printable c) :=
  inferInstanceAs (Decidable (_ ∧ _))

theorem printable_hexDigit : ∀ value < 16, Printable (hexDigit value) := by
  decide

theorem printable_unicodeEscape (code : Nat) : ∀ c ∈ unicodeEscape code, Printable c := by
  have digit (value : Nat) : Printable (hexDigit (value % 16)) :=
    printable_hexDigit _ (Nat.mod_lt _ (by decide))
  simp only [unicodeEscape, List.forall_mem_cons]
  exact ⟨by decide, by decide, digit _, digit _, digit _, digit _, List.forall_mem_nil _⟩

theorem printable_shortEscape? {code : Nat} {escape : List Char}
    (h : shortEscape? code = some escape) : ∀ c ∈ escape, Printable c := by
  unfold shortEscape? at h
  repeat' split at h
  all_goals cases h
  all_goals simp [Printable]

theorem printable_asciiPoint (code : Nat) : ∀ c ∈ asciiPoint code, Printable c := by
  unfold asciiPoint
  split
  · exact printable_shortEscape? ‹_›
  · split
    · rename_i ascii
      rw [Bool.and_eq_true, decide_eq_true_eq, decide_eq_true_eq] at ascii
      have same : (Char.ofNat code).toNat = code := toNat_ofNat_of_lt (by omega)
      intro c found
      rw [List.mem_singleton.mp found, Printable, same]
      exact ascii
    · split
      · exact printable_unicodeEscape _
      · exact List.forall_mem_append.mpr
          ⟨printable_unicodeEscape _, printable_unicodeEscape _⟩

theorem printable_quoted (text : LooseText) : ∀ c ∈ quoted asciiPoint text, Printable c := by
  intro c found
  rcases List.mem_cons.mp found with rfl | found
  · decide
  · rcases List.mem_append.mp found with found | found
    · obtain ⟨code, -, found⟩ := List.mem_flatMap.mp found
      exact printable_asciiPoint code c found
    · rw [List.mem_singleton.mp found]
      decide

theorem printable_toString (value : Int) : ∀ c ∈ (toString value).toList, Printable c := by
  have digits : ∀ c ∈ Nat.toDigits 10 value.natAbs, Printable c := by
    intro c found
    have digit := isDigit_of_mem_toDigits found
    rw [isDigit, Bool.and_eq_true, decide_eq_true_eq, decide_eq_true_eq] at digit
    have least : '0'.toNat ≤ c.toNat := digit.1
    have most : c.toNat ≤ '9'.toNat := digit.2
    exact ⟨by change 48 ≤ _ at least; omega, by change _ ≤ 57 at most; omega⟩
  rw [toList_toString]
  split
  · exact List.forall_mem_cons.mpr ⟨by decide, digits⟩
  · exact digits

theorem printable_compactElements {elements : List Json}
    (each : ∀ element ∈ elements, ∀ c ∈ compact element, Printable c) :
    ∀ c ∈ compactElements elements, Printable c := by
  induction elements with
  | nil => exact fun _ none => nomatch none
  | cons first others ih =>
      obtain ⟨here, there⟩ := List.forall_mem_cons.mp each
      cases others with
      | nil => exact here
      | cons second others =>
          rw [compactElements_cons_cons]
          exact List.forall_mem_append.mpr ⟨here, List.forall_mem_cons.mpr
            ⟨by decide, List.forall_mem_cons.mpr ⟨by decide, ih there⟩⟩⟩

theorem printable_compactEntries {entries : List (LooseText × Json)}
    (each : ∀ entry ∈ entries, ∀ c ∈ compact entry.2, Printable c) :
    ∀ c ∈ compactEntries entries, Printable c := by
  induction entries with
  | nil => exact fun _ none => nomatch none
  | cons first others ih =>
      obtain ⟨key, value⟩ := first
      obtain ⟨here, there⟩ := List.forall_mem_cons.mp each
      cases others with
      | nil =>
          rw [compactEntries_singleton]
          exact List.forall_mem_append.mpr ⟨printable_quoted key, List.forall_mem_cons.mpr
            ⟨by decide, List.forall_mem_cons.mpr ⟨by decide, here⟩⟩⟩
      | cons second others =>
          rw [compactEntries_cons_cons]
          refine List.forall_mem_append.mpr ⟨printable_quoted key, List.forall_mem_cons.mpr
            ⟨by decide, List.forall_mem_cons.mpr ⟨by decide, ?_⟩⟩⟩
          exact List.forall_mem_append.mpr ⟨here, List.forall_mem_cons.mpr
            ⟨by decide, List.forall_mem_cons.mpr ⟨by decide, ih there⟩⟩⟩

theorem Fractionless.printable {kind : LooseText → Prop} {value : Json}
    (fractionless : Fractionless kind value) : ∀ c ∈ compact value, Printable c := by
  have close {inside : List Char} {last : Char} (all : ∀ c ∈ inside, Printable c)
      (bracket : Printable last) : ∀ c ∈ inside ++ [last], Printable c :=
    List.forall_mem_append.mpr ⟨all, List.forall_mem_singleton.mpr bracket⟩
  induction fractionless with
  | null => simp [compact, scalarText, Printable]
  | boolean value => cases value <;> simp [compact, scalarText, Printable]
  | integer value => exact printable_toString _
  | text proper => exact printable_quoted _
  | array _ each =>
      exact List.forall_mem_cons.mpr
        ⟨by decide, close (printable_compactElements each) (by decide)⟩
  | object _ _ _ each =>
      exact List.forall_mem_cons.mpr
        ⟨by decide, close (printable_compactEntries each) (by decide)⟩

theorem Fractionless.no_lineFeed {kind : LooseText → Prop} {value : Json}
    (fractionless : Fractionless kind value) : '\n' ∉ compact value :=
  fun found => absurd (fractionless.printable _ found) (by decide)

/-! ## Reading -/

theorem read_of_whole {text : String} {value : Json}
    (h : Json.whole Decimal.maxDigits text.toList = .ok value) : Json.read text = .ok value := by
  rw [Json.read, h]

theorem Fractionless.read_line {value : Json}
    (fractionless : Fractionless LooseText.IsProper value) (writable : value.isWritable = true) :
    Json.read value.line = .ok value.rejoined := by
  refine read_of_whole ?_
  have whole := (fractionless.readsAs_compact writable).whole blank_nil
  rwa [List.append_nil, ← @String.toList_ofList (compact value)] at whole

theorem Plain.read_line {value : Json} (plain : Plain value) :
    Json.read value.line = .ok value := by
  have whole := (plain.fractionless.imp LooseText.Readable.isProper).read_line plain.isWritable
  rwa [plain.fractionless.rejoined_eq] at whole

/-- A text that is read as a value, by a reader that refuses no integer for its length as well as by
the usual one, unless an integer in the value is too long for this. -/
structure IsReadAs (text : String) (value : Json) : Prop where
  unlimited : ∃ least, ∀ limit, least ≤ limit → Json.whole limit text.toList = .ok value
  read : value.isWritable = true → Json.read text = .ok value

theorem Fractionless.exists_keepsTo {kind : LooseText → Prop} {value : Json}
    (fractionless : Fractionless kind value) :
    ∃ least, ∀ limit, least ≤ limit → value.keepsTo limit = true := by
  -- each part has its own number of digits, and so have finitely many parts together
  have common {α : Type} {list : List α} {value : α → Json}
      (each : ∀ a ∈ list, ∃ least, ∀ limit, least ≤ limit → (value a).keepsTo limit = true) :
      ∃ least, ∀ limit, least ≤ limit → ∀ a ∈ list, (value a).keepsTo limit = true := by
    induction list with
    | nil => exact ⟨0, fun _ _ => nofun⟩
    | cons first rest ih =>
        obtain ⟨⟨least, here⟩, each⟩ := List.forall_mem_cons.mp each
        obtain ⟨least', others⟩ := ih each
        refine ⟨max least least', fun limit most => List.forall_mem_cons.mpr ⟨?_, ?_⟩⟩
        · exact here limit (le_trans (Nat.le_max_left _ _) most)
        · exact others limit (le_trans (Nat.le_max_right _ _) most)
  induction fractionless with
  | null | boolean | text => exact ⟨0, fun _ _ => rfl⟩
  | integer value => exact ⟨_, fun _ most => decide_eq_true most⟩
  | array _ each =>
      obtain ⟨least, all⟩ := common each
      exact ⟨least, fun limit most => keepsTo_array_iff.mpr (all limit most)⟩
  | object _ _ _ values =>
      obtain ⟨least, all⟩ := common values
      exact ⟨least, fun limit most => keepsTo_object_iff.mpr (all limit most)⟩

theorem Fractionless.isReadAs_lines {value : Json}
    (fractionless : Fractionless LooseText.IsClean value) :
    IsReadAs (value.lines ++ "\n") value := by
  have whole {limit : Nat} (short : value.keepsTo limit = true) :
      Json.whole limit (value.lines ++ "\n").toList = .ok value := by
    have whole := (fractionless.readsAs_spread short 0).whole
      (show Blank ['\n'] from List.forall_mem_singleton.mpr rfl)
    rw [(fractionless.imp LooseText.IsClean.readable).rejoined_eq] at whole
    rwa [String.toList_append, lines, String.toList_ofList]
  obtain ⟨least, keeps⟩ := fractionless.exists_keepsTo
  exact ⟨⟨least, fun limit most => whole (keeps limit most)⟩, fun writable =>
    read_of_whole (whole writable)⟩

/-! ## Objects -/

/-- Every entry after a value was put at a key is the new one, with an old key, or was there
before. -/
theorem mem_put {entries : List (LooseText × Json)} {key : LooseText} {value : Json}
    {entry : LooseText × Json} (found : entry ∈ put entries key value) :
    entry = (key, value) ∨ entry ∈ entries := by
  induction entries with
  | nil => exact .inl (List.mem_singleton.mp found)
  | cons first rest ih =>
      rw [put] at found
      split at found
      · rename_i same
        rcases List.mem_cons.mp found with rfl | found
        · exact .inl (by rw [same])
        · exact .inr (List.mem_cons_of_mem _ found)
      · rcases List.mem_cons.mp found with rfl | found
        · exact .inr List.mem_cons_self
        · exact (ih found).imp_right (List.mem_cons_of_mem _)

theorem nodup_put {entries : List (LooseText × Json)} {key : LooseText} {value : Json}
    (distinct : (entries.map Prod.fst).Nodup) : ((put entries key value).map Prod.fst).Nodup := by
  induction entries with
  | nil => exact List.nodup_cons.mpr ⟨List.not_mem_nil, List.nodup_nil⟩
  | cons first rest ih =>
      obtain ⟨fresh, others⟩ := List.nodup_cons.mp distinct
      rw [put]
      split
      · exact distinct
      · refine List.nodup_cons.mpr ⟨fun found => ?_, ih others⟩
        obtain ⟨entry, there, same⟩ := List.mem_map.mp found
        rcases mem_put there with rfl | there
        · exact absurd same.symm ‹_›
        · exact fresh (List.mem_map.mpr ⟨entry, there, same⟩)

theorem Fractionless.put {kind : LooseText → Prop} {entries : List (LooseText × Json)}
    (fractionless : Fractionless kind (.object entries)) {key : LooseText} (proper : kind key)
    {value : Json} (here : Fractionless kind value) :
    Fractionless kind (.object (put entries key value)) := by
  cases fractionless with
  | object distinct keys values =>
      refine .object (nodup_put distinct) ?_ ?_ <;> intro entry found
      · rcases mem_put found with rfl | found
        · exact proper
        · exact keys entry found
      · rcases mem_put found with rfl | found
        · exact here
        · exact values entry found

end Json

end SignatureLint

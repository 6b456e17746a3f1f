import SignatureLint.Proofs.Json.RoundTrip

/-!
# What is written is read

Both ways of writing a value keep to the form in which values are read.  On one line everything
outside ASCII is escaped, so that any text can be written; on several lines only what must be, which
ordinary texts alone survive.
-/

namespace SignatureLint

namespace Json

/-! ## Values as they come back -/

mutual

/-- A value as it is read back: the halves of pairs are joined in its texts, and of the values at
keys that have become the same the last one counts. -/
def rejoined : Json → Json
  | .text value => .text value.rejoined
  | .array elements => .array (rejoinedElements elements)
  | .object entries => .object (putAll [] (rejoinedEntries entries))
  | other => other

/-- Elements as they are read back. -/
def rejoinedElements : List Json → List Json
  | [] => []
  | first :: rest => rejoined first :: rejoinedElements rest

/-- Entries as they are read back. -/
def rejoinedEntries : List (LooseText × Json) → List (LooseText × Json)
  | [] => []
  | (key, value) :: rest => (key.rejoined, rejoined value) :: rejoinedEntries rest

end

theorem put_of_not_mem {entries : List (LooseText × Json)} {key : LooseText} (value : Json)
    (fresh : key ∉ entries.map Prod.fst) : put entries key value = entries ++ [(key, value)] := by
  induction entries with
  | nil => rfl
  | cons first rest ih =>
      rw [List.map_cons, List.mem_cons, not_or] at fresh
      rw [put, if_neg (Ne.symm fresh.1), ih fresh.2, List.cons_append]

theorem putAll_of_nodup {earlier entries : List (LooseText × Json)}
    (distinct : ((earlier ++ entries).map Prod.fst).Nodup) :
    putAll earlier entries = earlier ++ entries := by
  induction entries generalizing earlier with
  | nil => exact (List.append_nil earlier).symm
  | cons first rest ih =>
      have fresh : first.1 ∉ earlier.map Prod.fst := by
        rw [List.map_append, List.nodup_append] at distinct
        exact fun found => distinct.2.2 first.1 found first.1 List.mem_cons_self rfl
      rw [List.append_cons] at distinct ⊢
      rw [← ih distinct, ← put_of_not_mem first.2 fresh]
      rfl

theorem rejoinedElements_eq {elements : List Json}
    (each : ∀ element ∈ elements, element.rejoined = element) :
    rejoinedElements elements = elements := by
  induction elements with
  | nil => rfl
  | cons first rest ih =>
      obtain ⟨here, others⟩ := List.forall_mem_cons.mp each
      rw [rejoinedElements, here, ih others]

theorem rejoinedEntries_eq {entries : List (LooseText × Json)}
    (keys : ∀ entry ∈ entries, entry.1.Readable)
    (values : ∀ entry ∈ entries, entry.2.rejoined = entry.2) :
    rejoinedEntries entries = entries := by
  induction entries with
  | nil => rfl
  | cons first rest ih =>
      obtain ⟨key, keys⟩ := List.forall_mem_cons.mp keys
      obtain ⟨value, values⟩ := List.forall_mem_cons.mp values
      rw [rejoinedEntries, key.rejoined_eq, value, ih keys values]

theorem Fractionless.rejoined_eq {value : Json}
    (fractionless : Fractionless LooseText.Readable value) : value.rejoined = value := by
  induction fractionless with
  | null | boolean | integer => rw [rejoined] <;> exact nofun
  | text readable => rw [rejoined, readable.rejoined_eq]
  | array _ each => rw [rejoined, rejoinedElements_eq each]
  | object distinct keys _ values =>
      rw [rejoined, rejoinedEntries_eq keys values, putAll_of_nodup (by exact distinct),
        List.nil_append]

/-! ## Texts between quotes -/

variable {limit : Nat}

theorem quotesAs_quoted {point : Nat → List Char} {text : LooseText}
    (spelling : Spelling point text.points) : QuotesAs (quoted point text) text.rejoined := by
  refine ⟨_, _, rfl, rfl, fun opening rest => ?_⟩
  rw [List.append_assoc]
  exact stringBody_points opening spelling rest

/-! ## On one line -/

theorem compactElements_cons_cons (first second : Json) (others : List Json) :
    compactElements (first :: second :: others) =
      compact first ++ ',' :: ' ' :: compactElements (second :: others) := by
  rw [compactElements, List.append_assoc]
  · rfl
  · exact nofun

theorem compactEntries_singleton (key : LooseText) (value : Json) :
    compactEntries [(key, value)] = quoted asciiPoint key ++ ':' :: ' ' :: compact value := by
  rw [compactEntries, List.append_assoc]
  rfl

theorem compactEntries_cons_cons (key : LooseText) (value : Json) (second : LooseText × Json)
    (others : List (LooseText × Json)) :
    compactEntries ((key, value) :: second :: others) =
      quoted asciiPoint key ++ ':' :: ' ' :: (compact value ++
        ',' :: ' ' :: compactEntries (second :: others)) := by
  rw [compactEntries]
  · simp only [List.append_assoc]
    rfl
  · exact nofun

theorem readsElements_compact {elements : List Json} (filled : elements ≠ [])
    (each : ∀ element ∈ elements, ReadsAs limit (compact element) element.rejoined) :
    ReadsElements limit (compactElements elements ++ [']']) (rejoinedElements elements) := by
  induction elements with
  | nil => contradiction
  | cons first others ih =>
      obtain ⟨here, later⟩ := List.forall_mem_cons.mp each
      cases others with
      | nil => exact .last here blank_nil
      | cons second others =>
          rw [compactElements_cons_cons, List.append_assoc]
          exact (ReadsElements.cons here blank_nil blank_space (ih (List.cons_ne_nil _ _) later) :)

theorem readsEntries_compact {entries : List (LooseText × Json)} (filled : entries ≠ [])
    (keys : ∀ entry ∈ entries, entry.1.IsProper)
    (values : ∀ entry ∈ entries, ReadsAs limit (compact entry.2) entry.2.rejoined) :
    ReadsEntries limit (compactEntries entries ++ ['\x7d']) (rejoinedEntries entries) := by
  induction entries with
  | nil => contradiction
  | cons first others ih =>
      obtain ⟨key, value⟩ := first
      obtain ⟨proper, keys⟩ := List.forall_mem_cons.mp keys
      obtain ⟨here, values⟩ := List.forall_mem_cons.mp values
      have quotes := quotesAs_quoted proper.spelling
      cases others with
      | nil =>
          rw [compactEntries_singleton, List.append_assoc]
          exact .last quotes blank_space here blank_nil
      | cons second others =>
          rw [compactEntries_cons_cons, List.append_assoc, List.cons_append, List.cons_append,
            List.append_assoc]
          exact (ReadsEntries.cons quotes blank_space here blank_nil blank_space
            (ih (List.cons_ne_nil _ _) keys values) :)

theorem Fractionless.readsAs_compact {value : Json}
    (fractionless : Fractionless LooseText.IsProper value) (short : value.keepsTo limit = true) :
    ReadsAs limit (compact value) value.rejoined := by
  induction fractionless with
  | null => exact .null
  | boolean value => exact .boolean value
  | integer value => exact .integer short
  | text proper => exact .text (quotesAs_quoted proper.spelling)
  | @array elements _ each =>
      have each : ∀ element ∈ elements, ReadsAs limit (compact element) element.rejoined :=
        fun element found => each element found (keepsTo_array_iff.mp short element found)
      cases elements with
      | nil => exact .array_nil
      | cons first others =>
          exact (ReadsAs.array blank_nil (readsElements_compact (List.cons_ne_nil _ _) each) :)
  | @object entries _ keys _ values =>
      have values : ∀ entry ∈ entries, ReadsAs limit (compact entry.2) entry.2.rejoined :=
        fun entry found => values entry found (keepsTo_object_iff.mp short entry found)
      cases entries with
      | nil => exact .object_nil
      | cons first others =>
          exact (ReadsAs.object blank_nil
            (readsEntries_compact (List.cons_ne_nil _ _) keys values) :)

/-! ## On several lines -/

theorem readsElements_spread {depth : Nat} {close : List Char} (blank : Blank close)
    {elements : List Json} (filled : elements ≠ [])
    (each : ∀ element ∈ elements, ReadsAs limit (spread depth element) element.rejoined) :
    ∃ text, spreadElements depth elements ++ close ++ [']'] = lineAt depth ++ text ∧
      ReadsElements limit text (rejoinedElements elements) := by
  induction elements with
  | nil => contradiction
  | cons first others ih =>
      obtain ⟨here, later⟩ := List.forall_mem_cons.mp each
      cases others with
      | nil =>
          refine ⟨_, ?_, .last here blank⟩
          rw [spreadElements]
          simp only [List.append_assoc]
      | cons second others =>
          obtain ⟨text, shape, reads⟩ := ih (List.cons_ne_nil _ _) later
          refine ⟨_, ?_, .cons here blank_nil (blank_lineAt depth) reads⟩
          rw [← shape, spreadElements]
          · simp only [List.append_assoc, List.cons_append, List.nil_append]
          · exact nofun

/-- Entries are written on lines of their own, with commas at the ends of lines. -/
theorem readsEntries_spread {depth : Nat} {close : List Char} (blank : Blank close)
    {entries : List (LooseText × Json)} (filled : entries ≠ [])
    (keys : ∀ entry ∈ entries, entry.1.IsClean)
    (values : ∀ entry ∈ entries, ReadsAs limit (spread depth entry.2) entry.2.rejoined) :
    ∃ text, spreadEntries depth entries ++ close ++ ['\x7d'] = lineAt depth ++ text ∧
      ReadsEntries limit text (rejoinedEntries entries) := by
  induction entries with
  | nil => contradiction
  | cons first others ih =>
      obtain ⟨key, value⟩ := first
      obtain ⟨clean, keys⟩ := List.forall_mem_cons.mp keys
      obtain ⟨here, values⟩ := List.forall_mem_cons.mp values
      have quotes := quotesAs_quoted clean.spelling
      cases others with
      | nil =>
          refine ⟨_, ?_, .last quotes blank_space here blank⟩
          rw [spreadEntries]
          simp only [List.append_assoc]
          rfl
      | cons second others =>
          obtain ⟨text, shape, reads⟩ := ih (List.cons_ne_nil _ _) keys values
          refine ⟨_, ?_, .cons quotes blank_space here blank_nil (blank_lineAt depth) reads⟩
          rw [← shape, spreadEntries]
          · simp only [List.append_assoc]
            rfl
          · exact nofun

/-- A value without fractions is read back from its lines, if its integers are not too long. -/
theorem Fractionless.readsAs_spread {value : Json}
    (fractionless : Fractionless LooseText.IsClean value) (short : value.keepsTo limit = true)
    (depth : Nat) : ReadsAs limit (spread depth value) value.rejoined := by
  induction fractionless generalizing depth with
  | null => exact .null
  | boolean value => exact .boolean value
  | integer value => exact .integer short
  | text clean => exact .text (quotesAs_quoted clean.spelling)
  | @array elements _ each =>
      have each (depth : Nat) :
          ∀ element ∈ elements, ReadsAs limit (spread depth element) element.rejoined :=
        fun element found => each element found (keepsTo_array_iff.mp short element found) depth
      cases elements with
      | nil => exact .array_nil
      | cons first others =>
          obtain ⟨text, shape, reads⟩ := readsElements_spread (blank_lineAt depth)
            (List.cons_ne_nil first others) (each (depth + 1))
          rw [spread, shape]
          · exact .array (blank_lineAt _) reads
          · exact nofun
  | @object entries _ keys _ values =>
      have values (depth : Nat) :
          ∀ entry ∈ entries, ReadsAs limit (spread depth entry.2) entry.2.rejoined :=
        fun entry found => values entry found (keepsTo_object_iff.mp short entry found) depth
      cases entries with
      | nil => exact .object_nil
      | cons first others =>
          obtain ⟨text, shape, reads⟩ := readsEntries_spread (blank_lineAt depth)
            (List.cons_ne_nil first others) keys (values (depth + 1))
          rw [spread, shape]
          · exact .object (blank_lineAt _) reads
          · exact nofun

end Json

end SignatureLint

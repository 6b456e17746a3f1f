import Mathlib.Data.List.Nodup
import SignatureLint.Config.Mapping
import SignatureLint.Proofs.Outcome

/-!
# Entries of a configuration

Each entry of a table has its say on one field of the configuration, whatever the others say.  So
the table can be read if each entry can be read alone, every field has what the entry that names it
says, and neither the order of the entries nor the spelling of their keys matters.  What cannot be
read is refused for its first entry that cannot be read alone.
-/

namespace SignatureLint

namespace Config

/-! ## Fields -/

def Field.Value : Field → Type
  | .names _ => NameSet
  | .defaultModifier => String
  | .severityOverrides => List (String × Severity)
  | .workers => Workers
  | .logDirectory => Option Pathname

def get (config : Config) : (field : Field) → field.Value
  | .names field => config.names field
  | .defaultModifier => config.defaultModifier
  | .severityOverrides => config.severityOverrides
  | .workers => config.workers
  | .logDirectory => config.logDirectory

/-- The configuration with something else in a field. -/
def set (config : Config) : (field : Field) → field.Value → Config
  | .names field, names => config.withNames field names
  | .defaultModifier, expression => { config with defaultModifier := expression }
  | .severityOverrides, overrides => { config with severityOverrides := overrides }
  | .workers, workers => { config with workers := workers }
  | .logDirectory, path => { config with logDirectory := path }

variable {config config' : Config} {field other : Field} {entry : String × Setting}
  {entries entries' : List (String × Setting)}

theorem names_withNames (config : Config) (field other : NameField) (names : NameSet) :
    (config.withNames field names).names other =
      if other = field then names else config.names other := by
  cases field <;> cases other <;> rfl

theorem get_withNames (config : Config) (field : NameField) (names : NameSet) {other : Field}
    (different : other ≠ .names field) :
    (config.withNames field names).get other = config.get other := by
  cases other with
  | names other =>
      have unlike : other ≠ field := fun same => different (congrArg Field.names same)
      exact (names_withNames config field other names).trans (if_neg unlike)
  | _ => cases field <;> rfl

theorem get_set_same (config : Config) (field : Field) (value : field.Value) :
    (config.set field value).get field = value := by
  cases field with
  | names field => exact (names_withNames config field field value).trans (if_pos rfl)
  | _ => rfl

theorem get_set_other (different : other ≠ field) (value : field.Value) :
    (config.set field value).get other = config.get other := by
  cases field with
  | names field => exact get_withNames config field value different
  | defaultModifier =>
      cases other with
      | names other => cases other <;> rfl
      | defaultModifier => exact absurd rfl different
      | _ => rfl
  | severityOverrides =>
      cases other with
      | names other => cases other <;> rfl
      | severityOverrides => exact absurd rfl different
      | _ => rfl
  | workers =>
      cases other with
      | names other => cases other <;> rfl
      | workers => exact absurd rfl different
      | _ => rfl
  | logDirectory =>
      cases other with
      | names other => cases other <;> rfl
      | logDirectory => exact absurd rfl different
      | _ => rfl

theorem eq_of_get (same : ∀ field, config.get field = config'.get field) : config = config' := by
  have names (field : NameField) : config.names field = config'.names field := same (.names field)
  obtain ⟨_, _, _, _, _, ⟨_, _, _, _⟩, _, _, _, _, _⟩ := config
  obtain ⟨_, _, _, _, _, ⟨_, _, _, _⟩, _, _, _, _, _⟩ := config'
  obtain rfl := names .componentMarkers
  obtain rfl := names .interfaceBases
  obtain rfl := names .abstractMarkers
  obtain rfl := names .platformMarkers
  obtain rfl := names .overrideMarkers
  obtain rfl := names .modifierTypes
  obtain rfl := names .unstableCollections
  obtain rfl := names .immutableCollections
  obtain rfl := names .immutableMarkers
  obtain rfl := names .disabledIssues
  obtain rfl := same .defaultModifier
  obtain rfl := same .severityOverrides
  obtain rfl := same .workers
  obtain rfl := same .logDirectory
  rfl

/-! ## Keys -/

theorem Field.normalKey_eq {key key' : String} (h : Field.ofKey? key = some field)
    (h' : Field.ofKey? key' = some field) : Field.normalKey key = Field.normalKey key' := by
  have once : (Field.keys.map (·.2)).Nodup := by decide
  have listed {key : String} (h : Field.ofKey? key = some field) :
      (Field.normalKey key, field) ∈ Field.keys := by
    obtain ⟨_, _, whole, -⟩ := List.lookup_eq_some_iff.mp h
    rw [whole]
    exact List.mem_append_right _ List.mem_cons_self
  exact congrArg Prod.fst (List.inj_on_of_nodup_map once (listed h) (listed h') rfl)

/-! ## One entry -/

theorem ofTable_singleton (entry : String × Setting) : ofTable [entry] = addEntry {} entry := by
  change (addEntry {} entry >>= fun config => pure config) = _
  exact bind_pure _

/-- A field is set to the same in every configuration. -/
theorem setField_eq (config : Config) (key : String) (value : Setting) (field : Field) :
    config.setField key value field =
      (setField {} key value field).map fun alone => config.set field (alone.get field) := by
  -- what the configuration held is never read: the cases are those of the field and of the value
  cases field with
  | names field =>
      cases value with
      | list elements =>
          rw [setField, setField]
          split
          · rw [Except.map]
            exact congrArg (fun names => Except.ok (config.withNames field names))
              (get_set_same {} (.names field) _).symm
          · rfl
      | _ => rfl
  | defaultModifier =>
      cases value with
      | text expression =>
          rw [setField, setField]
          split <;> rfl
      | _ => rfl
  | severityOverrides =>
      cases value with
      | table overrides =>
          rw [setField, setField]
          cases severities overrides <;> rfl
      | _ => rfl
  | workers =>
      cases value with
      | integer number =>
          rw [setField, setField]
          split <;> rfl
      | boolean yes => cases yes <;> rfl
      | _ => rfl
  | logDirectory => cases value <;> rfl

theorem setField_eq_ok_iff_of_spelling (key key' : String) (value : Setting) :
    config.setField key value field = .ok config' ↔
      config.setField key' value field = .ok config' := by
  cases field with
  | names field =>
      cases value with
      | list elements => exact Iff.rfl
      | _ => exact iff_of_false nofun nofun
  | _ => exact Iff.rfl

/-- An entry is added if it can be read alone, by setting the field that it names to what it is
then. -/
theorem addEntry_eq_ok_iff :
    config.addEntry entry = .ok config' ↔
      ∃ field alone, Field.ofKey? entry.1 = some field ∧ ofTable [entry] = .ok alone ∧
        config' = config.set field (alone.get field) := by
  rw [ofTable_singleton, addEntry, addEntry]
  cases Field.ofKey? entry.1 with
  | none => exact iff_of_false nofun nofun
  | some field =>
      dsimp only
      rw [setField_eq]
      cases setField {} entry.1 entry.2 field with
      | error error => exact iff_of_false nofun (by rintro ⟨_, _, -, ⟨⟩, -⟩)
      | ok alone =>
          rw [Except.map, Except.ok.injEq]
          constructor
          · rintro rfl
            exact ⟨field, alone, rfl, rfl, rfl⟩
          · rintro ⟨_, _, ⟨⟩, ⟨⟩, rfl⟩
            rfl

theorem addEntry_eq_error_iff {error : ConfigError} :
    config.addEntry entry = .error error ↔ ofTable [entry] = .error error := by
  rw [ofTable_singleton, addEntry, addEntry]
  cases Field.ofKey? entry.1 with
  | none => exact Iff.rfl
  | some field =>
      dsimp only
      rw [setField_eq]
      cases setField {} entry.1 entry.2 field with
      | error error => exact Iff.rfl
      | ok alone => exact iff_of_false nofun nofun

theorem exists_field_of_ofTable (h : ofTable [entry] = .ok config) :
    ∃ field, Field.ofKey? entry.1 = some field := by
  rw [ofTable_singleton, addEntry_eq_ok_iff] at h
  obtain ⟨field, -, named, -⟩ := h
  exact ⟨field, named⟩

/-- An entry with the plain spelling of its key. -/
def normalEntry (entry : String × Setting) : String × Setting :=
  (Field.normalKey entry.1, entry.2)

theorem ofKey?_of_spelling {entry' : String × Setting}
    (same : normalEntry entry = normalEntry entry') :
    Field.ofKey? entry.1 = Field.ofKey? entry'.1 :=
  congrArg (fun entry : String × Setting => Field.keys.lookup entry.1) same

theorem ofTable_eq_ok_iff_of_spelling {entry' : String × Setting}
    (same : normalEntry entry = normalEntry entry') :
    ofTable [entry] = .ok config ↔ ofTable [entry'] = .ok config := by
  have value : entry.2 = entry'.2 := congrArg (·.2) same
  rw [ofTable_singleton, ofTable_singleton, addEntry, addEntry, ofKey?_of_spelling same, value]
  cases Field.ofKey? entry'.1 with
  | none => exact iff_of_false nofun nofun
  | some field => exact setField_eq_ok_iff_of_spelling entry.1 entry'.1 entry'.2

/-! ## Several entries -/

theorem exists_foldlM_addEntry_iff (config : Config) :
    (∃ config', entries.foldlM addEntry config = .ok config') ↔
      ∀ entry ∈ entries, ∃ alone, ofTable [entry] = .ok alone := by
  induction entries generalizing config with
  | nil => exact iff_of_true ⟨config, rfl⟩ nofun
  | cons entry rest ih =>
      rw [List.foldlM_cons, Outcome.exists_bind_ok_iff, List.forall_mem_cons]
      constructor
      · rintro ⟨next, here, later⟩
        obtain ⟨field, alone, -, read, -⟩ := addEntry_eq_ok_iff.mp here
        exact ⟨⟨alone, read⟩, (ih next).mp later⟩
      · rintro ⟨⟨alone, read⟩, later⟩
        obtain ⟨field, named⟩ := exists_field_of_ofTable read
        exact ⟨_, addEntry_eq_ok_iff.mpr ⟨field, alone, named, read, rfl⟩, (ih _).mpr later⟩

/-- Entries are refused for the first of them that cannot be read alone. -/
theorem foldlM_addEntry_eq_error_iff {error : ConfigError} (config : Config) :
    entries.foldlM addEntry config = .error error ↔
      ∃ before entry after, entries = before ++ entry :: after ∧
        (∀ earlier ∈ before, ∃ alone, ofTable [earlier] = .ok alone) ∧
        ofTable [entry] = .error error := by
  -- whether an entry is refused does not depend on the configuration it is added to, so the loop
  -- and the entries alone agree step by step
  induction entries generalizing config with
  | nil => exact iff_of_false nofun (by simp)
  | cons entry rest ih =>
      rw [List.foldlM_cons]
      cases here : config.addEntry entry with
      | error complaint =>
          have refused := addEntry_eq_error_iff.mp here
          constructor
          · rintro ⟨⟩
            exact ⟨[], entry, rest, rfl, nofun, refused⟩
          · rintro ⟨before, other, after, whole, earlier, refused'⟩
            cases before with
            | nil =>
                obtain ⟨rfl, -⟩ := List.cons.inj whole
                rw [refused] at refused'
                exact refused'
            | cons first before =>
                obtain ⟨rfl, -⟩ := List.cons.inj whole
                obtain ⟨alone, read⟩ := earlier _ List.mem_cons_self
                rw [refused] at read
                cases read
      | ok next =>
          obtain ⟨field, alone, -, read, -⟩ := addEntry_eq_ok_iff.mp here
          refine (ih next).trans ⟨?_, ?_⟩
          · rintro ⟨before, other, after, rfl, earlier, refused⟩
            exact ⟨entry :: before, other, after, rfl,
              List.forall_mem_cons.mpr ⟨⟨alone, read⟩, earlier⟩, refused⟩
          · rintro ⟨before, other, after, whole, earlier, refused⟩
            cases before with
            | nil =>
                obtain ⟨rfl, -⟩ := List.cons.inj whole
                rw [read] at refused
                cases refused
            | cons first before =>
                obtain ⟨rfl, rfl⟩ := List.cons.inj whole
                exact ⟨before, other, after, rfl, (List.forall_mem_cons.mp earlier).2, refused⟩

theorem get_of_unnamed (h : entries.foldlM addEntry config = .ok config')
    (unnamed : ∀ entry ∈ entries, Field.ofKey? entry.1 ≠ some field) :
    config'.get field = config.get field := by
  induction entries generalizing config with
  | nil =>
      cases h
      rfl
  | cons entry rest ih =>
      rw [List.foldlM_cons] at h
      obtain ⟨next, here, later⟩ := Outcome.exists_of_bind_eq_ok h
      obtain ⟨other, alone, named, -, rfl⟩ := addEntry_eq_ok_iff.mp here
      obtain ⟨unlike, unnamed⟩ := List.forall_mem_cons.mp unnamed
      rw [ih later unnamed]
      apply get_set_other
      rintro rfl
      exact unlike named

theorem get_of_named (distinct : (entries.map fun entry => Field.normalKey entry.1).Nodup)
    (h : entries.foldlM addEntry config = .ok config') (found : entry ∈ entries)
    (named : Field.ofKey? entry.1 = some field) :
    ∃ alone, ofTable [entry] = .ok alone ∧ config'.get field = alone.get field := by
  induction entries generalizing config with
  | nil => cases found
  | cons first rest ih =>
      rw [List.map_cons, List.nodup_cons] at distinct
      rw [List.foldlM_cons] at h
      obtain ⟨next, here, later⟩ := Outcome.exists_of_bind_eq_ok h
      rcases List.mem_cons.mp found with rfl | found
      · obtain ⟨field', alone, named', read, rfl⟩ := addEntry_eq_ok_iff.mp here
        obtain rfl := Option.some.inj (named.symm.trans named')
        -- an entry behind it that names the field would have the same key
        have unnamed : ∀ other ∈ rest, Field.ofKey? other.1 ≠ some field := by
          intro other found named'
          refine distinct.1 (List.mem_map.mpr ⟨other, found, ?_⟩)
          exact Field.normalKey_eq named' named
        exact ⟨alone, read, (get_of_unnamed later unnamed).trans (get_set_same _ _ _)⟩
      · exact ih distinct.2 later found

theorem keys_perm (same : (entries'.map normalEntry).Perm (entries.map normalEntry)) :
    (entries'.map fun entry => Field.normalKey entry.1).Perm
      (entries.map fun entry => Field.normalKey entry.1) := by
  have keys := same.map Prod.fst
  rwa [List.map_map, List.map_map] at keys

/-- A table is read alike in every order of its entries and with every spelling of their keys. -/
theorem ofTable_of_perm (distinct : (entries.map fun entry => Field.normalKey entry.1).Nodup)
    (same : (entries'.map normalEntry).Perm (entries.map normalEntry))
    (h : ofTable entries = .ok config) : ofTable entries' = .ok config := by
  -- the spellings may differ, so entries are matched by their keys and not by what they are
  have partner {list list' : List (String × Setting)}
      (same : (list'.map normalEntry).Perm (list.map normalEntry)) :
      ∀ entry ∈ list, ∃ entry' ∈ list', normalEntry entry' = normalEntry entry :=
    fun entry found => List.mem_map.mp (same.mem_iff.mpr (List.mem_map_of_mem found))
  have alone := (exists_foldlM_addEntry_iff {}).mp ⟨config, h⟩
  obtain ⟨config', h'⟩ : ∃ config', ofTable entries' = .ok config' := by
    refine (exists_foldlM_addEntry_iff {}).mpr fun entry' found' => ?_
    obtain ⟨entry, found, spelling⟩ := partner same.symm entry' found'
    obtain ⟨config, read⟩ := alone entry found
    exact ⟨config, (ofTable_eq_ok_iff_of_spelling spelling).mp read⟩
  suffices config' = config by rw [h', this]
  refine eq_of_get fun field => ?_
  -- a field is what its one entry makes it, or what it is at the start
  by_cases named : ∃ entry ∈ entries, Field.ofKey? entry.1 = some field
  · obtain ⟨entry, found, named⟩ := named
    obtain ⟨entry', found', spelling⟩ := partner same entry found
    have named' := (ofKey?_of_spelling spelling).trans named
    obtain ⟨first, read, value⟩ := get_of_named distinct h found named
    obtain ⟨second, read', value'⟩ :=
      get_of_named ((keys_perm same).nodup_iff.mpr distinct) h' found' named'
    rw [ofTable_eq_ok_iff_of_spelling spelling, read] at read'
    cases read'
    rw [value, value']
  · have unnamed : ∀ entry ∈ entries, Field.ofKey? entry.1 ≠ some field :=
      fun entry found field => named ⟨entry, found, field⟩
    rw [get_of_unnamed h unnamed]
    refine get_of_unnamed h' fun entry' found' => ?_
    obtain ⟨entry, found, spelling⟩ := partner same.symm entry' found'
    rw [← ofKey?_of_spelling spelling]
    exact unnamed entry found

/-- A table whose keys name different fields can be read exactly if each of its entries can be read
alone.  Each field then has what the entry that names it says, or else its default.  A table that
cannot be read is refused for its first entry that cannot be read alone, with the same complaint.
The order of the entries and the spelling of their keys do not matter. -/
theorem ofTable_entrywise (distinct : (entries.map fun entry => Field.normalKey entry.1).Nodup) :
    ((∃ config, ofTable entries = .ok config) ↔
      ∀ entry ∈ entries, ∃ alone, ofTable [entry] = .ok alone) ∧
    (∀ config, ofTable entries = .ok config → ∀ field,
      (∀ entry ∈ entries, Field.ofKey? entry.1 = some field →
        ∃ alone, ofTable [entry] = .ok alone ∧ config.get field = alone.get field) ∧
      ((∀ entry ∈ entries, Field.ofKey? entry.1 ≠ some field) →
        config.get field = ({} : Config).get field)) ∧
    (∀ error, ofTable entries = .error error ↔
      ∃ before entry after, entries = before ++ entry :: after ∧
        (∀ earlier ∈ before, ∃ alone, ofTable [earlier] = .ok alone) ∧
        ofTable [entry] = .error error) ∧
    ∀ entries', (entries'.map normalEntry).Perm (entries.map normalEntry) →
      ∀ config, ofTable entries' = .ok config ↔ ofTable entries = .ok config := by
  refine ⟨exists_foldlM_addEntry_iff {},
    fun config h field => ⟨fun entry found named => ?_, ?_⟩,
    fun error => foldlM_addEntry_eq_error_iff {}, fun entries' same config => ⟨?_, ?_⟩⟩
  · exact get_of_named distinct h found named
  · exact get_of_unnamed h
  · exact ofTable_of_perm ((keys_perm same).nodup_iff.mpr distinct) same.symm
  · exact ofTable_of_perm distinct same

/-- A table with three keys, two of them spelled with dashes. -/
def sampleTable : List (String × Setting) :=
  [("log-dir", .text "logs"), ("component_markers", .list [.text "View"]),
    ("workers", .integer 2)]

theorem distinct_sampleTable :
    (sampleTable.map fun entry => Field.normalKey entry.1).Nodup := by
  decide

theorem read_sampleTable : ∀ entry ∈ sampleTable, ∃ alone, ofTable [entry] = .ok alone := by
  rw [sampleTable, List.forall_mem_cons, List.forall_mem_cons, List.forall_mem_singleton]
  exact ⟨⟨_, rfl⟩, ⟨_, rfl⟩, ⟨_, rfl⟩⟩

/-- The table is read, also in the other order and with other spellings of its keys. -/
theorem ofTable_entrywise_sampleTable :
    (sampleTable.map fun entry => Field.normalKey entry.1).Nodup ∧
    ∃ config, ofTable sampleTable = .ok config ∧
      config.get (.names .componentMarkers) = NameSet.ofList ["View"] ∧
      config.get .defaultModifier = "Modifier" ∧
      ofTable [("workers", .integer 2), ("log_dir", .text "logs"),
        ("component-markers", .list [.text "View"])] = .ok config := by
  obtain ⟨returns, fields, -, orders⟩ := ofTable_entrywise distinct_sampleTable
  obtain ⟨config, read⟩ := returns.mpr read_sampleTable
  refine ⟨distinct_sampleTable, config, read, ?_, ?_, (orders _ ?_ config).mpr read⟩
  · obtain ⟨alone, here, same⟩ := (fields config read (.names .componentMarkers)).1
      ("component_markers", .list [.text "View"]) (by simp [sampleTable]) (by decide)
    cases here
    exact same
  · refine (fields config read .defaultModifier).2 ?_
    rw [sampleTable, List.forall_mem_cons, List.forall_mem_cons, List.forall_mem_singleton]
    decide
  · have spelled : Field.normalKey "log-dir" = Field.normalKey "log_dir" ∧
        Field.normalKey "component_markers" = Field.normalKey "component-markers" := by
      decide
    simp only [sampleTable, normalEntry, List.map_cons, List.map_nil, spelled]
    exact @List.perm_append_comm _ [_] [_, _]

end Config

end SignatureLint

import Mathlib.Data.List.Forall2

/-!
# Steps that may fail

Steps done one after the other succeed only if each of them succeeds.
-/

namespace SignatureLint.Outcome

variable {ε α β : Type}

theorem exists_of_bind_eq_ok {first : Except ε α} {next : α → Except ε β} {result : β}
    (h : first >>= next = .ok result) : ∃ value, first = .ok value ∧ next value = .ok result := by
  cases first with
  | error fault => cases h
  | ok value => exact ⟨value, rfl, h⟩

theorem mapError_eq_ok_iff {φ : Type} {wording : ε → φ} {step : Except ε α} {result : α} :
    step.mapError wording = .ok result ↔ step = .ok result := by
  cases step with
  | error fault => exact iff_of_false nofun nofun
  | ok value =>
      exact ⟨fun h => congrArg Except.ok (Except.ok.inj h), fun h => by rw [h]; rfl⟩

theorem exists_bind_ok_iff {first : Except ε α} {next : α → Except ε β} :
    (∃ result, first >>= next = .ok result) ↔
      ∃ value, first = .ok value ∧ ∃ result, next value = .ok result := by
  constructor
  · rintro ⟨result, h⟩
    obtain ⟨value, here, after⟩ := exists_of_bind_eq_ok h
    exact ⟨value, here, result, after⟩
  · rintro ⟨value, rfl, result, after⟩
    exact ⟨result, after⟩

theorem exists_both_ok_iff {γ : Type} {first : Except ε α} {second : Except ε β}
    {combine : α → β → γ} :
    (∃ result, (first >>= fun a => second >>= fun b => .ok (combine a b)) = .ok result) ↔
      (∃ a, first = .ok a) ∧ ∃ b, second = .ok b := by
  rw [exists_bind_ok_iff]
  constructor
  · rintro ⟨a, here, _, h⟩
    obtain ⟨b, there, -⟩ := exists_of_bind_eq_ok h
    exact ⟨⟨a, here⟩, b, there⟩
  · rintro ⟨⟨a, here⟩, b, there⟩
    exact ⟨a, here, combine a b, by rw [there]; rfl⟩

theorem exists_mapM_ok_iff {step : α → Except ε β} {list : List α} :
    (∃ results, list.mapM step = .ok results) ↔ ∀ a ∈ list, ∃ b, step a = .ok b := by
  induction list with
  | nil => exact ⟨fun _ _ => nofun, fun _ => ⟨[], List.mapM_nil⟩⟩
  | cons a rest ih =>
      rw [List.mapM_cons, List.forall_mem_cons, ← ih]
      exact exists_both_ok_iff

theorem exists_mapError_error_iff {φ : Type} {wording : ε → φ} {step : Except ε α}
    {P : φ → Prop} :
    (∃ fault, step.mapError wording = .error fault ∧ P fault) ↔
      ∃ fault, step = .error fault ∧ P (wording fault) := by
  cases step with
  | ok value => exact iff_of_false (by rintro ⟨_, ⟨⟩, -⟩) (by rintro ⟨_, ⟨⟩, -⟩)
  | error fault =>
      constructor
      · rintro ⟨_, ⟨⟩, holds⟩
        exact ⟨fault, rfl, holds⟩
      · rintro ⟨_, ⟨⟩, holds⟩
        exact ⟨_, rfl, holds⟩

theorem exists_bind_error_iff {first : Except ε α} {next : α → Except ε β} {P : ε → Prop} :
    (∃ fault, first >>= next = .error fault ∧ P fault) ↔
      (∃ fault, first = .error fault ∧ P fault) ∨
        ∃ value, first = .ok value ∧ ∃ fault, next value = .error fault ∧ P fault := by
  cases first with
  | ok value =>
      constructor
      · exact fun fails => .inr ⟨value, rfl, fails⟩
      · rintro (⟨_, ⟨⟩, -⟩ | ⟨_, ⟨⟩, fails⟩)
        exact fails
  | error fault =>
      constructor
      · rintro ⟨_, ⟨⟩, holds⟩
        exact .inl ⟨fault, rfl, holds⟩
      · rintro (⟨_, ⟨⟩, holds⟩ | ⟨_, ⟨⟩, -⟩)
        exact ⟨_, rfl, holds⟩

theorem ok_or_error_iff {step : Except ε α} {known : ε → Bool} :
    ((∃ result, step = .ok result) ∨ ∃ fault, step = .error fault ∧ known fault = true) ↔
      ¬∃ fault, step = .error fault ∧ known fault = false := by
  cases step with
  | ok result => exact iff_of_true (.inl ⟨result, rfl⟩) (by rintro ⟨_, ⟨⟩, -⟩)
  | error fault =>
      cases h : known fault with
      | true =>
          refine iff_of_true (.inr ⟨fault, rfl, h⟩) ?_
          rintro ⟨_, ⟨⟩, other⟩
          rw [h] at other
          cases other
      | false =>
          refine iff_of_false ?_ (not_not_intro ⟨fault, rfl, h⟩)
          rintro (⟨_, ⟨⟩⟩ | ⟨_, ⟨⟩, other⟩)
          rw [h] at other
          cases other

theorem eq_ok_of_mem_toOption {step : Except ε α} {result : α} (h : result ∈ step.toOption) :
    step = .ok result := by
  cases step with
  | error fault => cases h
  | ok value => rw [Option.some.inj h]

theorem forall₂_of_mapM_eq_ok {step : α → Except ε β} {list : List α} {results : List β}
    (h : list.mapM step = .ok results) :
    List.Forall₂ (fun a b => step a = .ok b) list results := by
  induction list generalizing results with
  | nil =>
      rw [List.mapM_nil] at h
      cases h
      exact .nil
  | cons a rest ih =>
      rw [List.mapM_cons] at h
      obtain ⟨b, first, h⟩ := exists_of_bind_eq_ok h
      obtain ⟨others, tail, h⟩ := exists_of_bind_eq_ok h
      cases h
      exact .cons first (ih tail)

theorem mapM_eq_ok_map {step : α → Except ε β} {result : α → β} {list : List α}
    (each : ∀ a ∈ list, step a = .ok (result a)) : list.mapM step = .ok (list.map result) := by
  induction list with
  | nil => rfl
  | cons a rest ih =>
      obtain ⟨first, each⟩ := List.forall_mem_cons.mp each
      rw [List.mapM_cons, first, ih each]
      rfl

theorem exists_of_forall_ok {step : α → Except ε β} {list : List α}
    (h : ∀ a ∈ list, ∃ b, step a = .ok b) : ∃ results, list.mapM step = .ok results :=
  exists_mapM_ok_iff.mpr h

/-- Doing the same with each element of a list fails in one of the ways in which it fails with an
element. -/
theorem exists_error_of_mapM {step : α → Except ε β} {P : ε → Prop} {list : List α}
    (each : ∀ a ∈ list, ∀ fault, step a = .error fault → P fault)
    (h : ∃ a ∈ list, ∃ fault, step a = .error fault) :
    ∃ fault, list.mapM step = .error fault ∧ P fault := by
  induction list with
  | nil =>
      obtain ⟨a, found, -⟩ := h
      cases found
  | cons a rest ih =>
      rw [List.mapM_cons]
      cases first : step a with
      | error fault => exact ⟨fault, rfl, each a List.mem_cons_self fault first⟩
      | ok b =>
          have later : ∃ c ∈ rest, ∃ fault, step c = .error fault := by
            obtain ⟨c, found, fault, fails⟩ := h
            rcases List.mem_cons.mp found with rfl | found
            · rw [first] at fails
              cases fails
            · exact ⟨c, found, fault, fails⟩
          obtain ⟨fault, fails, holds⟩ :=
            ih (fun c found => each c (List.mem_cons_of_mem a found)) later
          rw [fails]
          exact ⟨fault, rfl, holds⟩

end SignatureLint.Outcome

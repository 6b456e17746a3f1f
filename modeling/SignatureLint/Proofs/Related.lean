import Mathlib.Data.List.Forall2

/-!
# Lists that are related one by one

What is known of two lists of which each element is related to the one in the same
place of the other list.
-/

namespace SignatureLint.Related

variable {α β γ : Type} {R : α → β → Prop} {S : α → γ → Prop}

theorem exists_of_mem {list : List α} {results : List β} (h : List.Forall₂ R list results) {a : α}
    (found : a ∈ list) : ∃ b ∈ results, R a b := by
  induction h with
  | nil => exact absurd found List.not_mem_nil
  | cons related _ ih =>
      rcases List.mem_cons.mp found with rfl | found
      · exact ⟨_, List.mem_cons_self, related⟩
      · obtain ⟨b, found', related'⟩ := ih found
        exact ⟨b, List.mem_cons_of_mem _ found', related'⟩

theorem forall_mem_of_forall₂ {P : β → Prop} (imp : ∀ a b, R a b → P b) {list : List α}
    {results : List β} (h : List.Forall₂ R list results) : ∀ b ∈ results, P b := by
  intro b found
  obtain ⟨a, -, related⟩ := exists_of_mem h.flip found
  exact imp a b related

theorem forall₂_common {list : List α} {results : List β} {others : List γ}
    (h : List.Forall₂ R list results) (h' : List.Forall₂ S list others) :
    List.Forall₂ (fun b c => ∃ a ∈ list, R a b ∧ S a c) results others := by
  induction h generalizing others with
  | nil =>
      cases h'
      exact .nil
  | cons related _ ih =>
      cases h' with
      | cons related' rest' =>
          refine .cons ⟨_, List.mem_cons_self, related, related'⟩ ((ih rest').imp ?_)
          rintro b c ⟨a, found, both⟩
          exact ⟨a, List.mem_cons_of_mem _ found, both⟩

theorem forall₂_trans {S : β → γ → Prop} {T : α → γ → Prop}
    (imp : ∀ a b c, R a b → S b c → T a c) {list : List α} {results : List β} {others : List γ}
    (h : List.Forall₂ R list results) (h' : List.Forall₂ S results others) :
    List.Forall₂ T list others := by
  induction h generalizing others with
  | nil =>
      cases h'
      exact .nil
  | cons related _ ih =>
      cases h' with
      | cons related' rest' => exact .cons (imp _ _ _ related related') (ih rest')

theorem exists_of_getElem? {list : List α} {results : List β} (h : List.Forall₂ R list results)
    {i : Nat} {b : β} (here : results[i]? = some b) : ∃ a, list[i]? = some a ∧ R a b := by
  induction h generalizing i with
  | nil => cases here
  | cons first _ ih =>
      cases i with
      | zero =>
          cases here
          exact ⟨_, rfl, first⟩
      | succ i => exact ih here

theorem map_eq {δ : Type} {f : α → δ} {g : β → δ} (same : ∀ a b, R a b → f a = g b)
    {list : List α} {results : List β} (h : List.Forall₂ R list results) :
    list.map f = results.map g := by
  induction h with
  | nil => rfl
  | cons related _ ih => rw [List.map_cons, List.map_cons, same _ _ related, ih]

theorem map_filter_eq {δ : Type} {p : α → Bool} {q : β → Bool} {f : α → δ} {g : β → δ}
    (same : ∀ a b, R a b → p a = q b ∧ f a = g b) {list : List α} {results : List β}
    (h : List.Forall₂ R list results) : (list.filter p).map f = (results.filter q).map g := by
  induction h with
  | nil => rfl
  | @cons a b list results related _ ih =>
      obtain ⟨selected, changed⟩ := same _ _ related
      rw [List.filter_cons, List.filter_cons, selected]
      split
      · rw [List.map_cons, List.map_cons, changed, ih]
      · exact ih

theorem flatMap_eq {δ : Type} {f : α → List δ} {g : β → List δ} (same : ∀ a b, R a b → f a = g b)
    {list : List α} {results : List β} (h : List.Forall₂ R list results) :
    list.flatMap f = results.flatMap g := by
  induction h with
  | nil => rfl
  | cons related _ ih => rw [List.flatMap_cons, List.flatMap_cons, same _ _ related, ih]

theorem exists_sublist_of_forall₂ {some list : List α} {results : List β}
    (sublist : some.Sublist list) (h : List.Forall₂ R list results) :
    ∃ found, found.Sublist results ∧ List.Forall₂ R some found := by
  induction sublist generalizing results with
  | slnil => exact ⟨[], List.nil_sublist _, .nil⟩
  | cons a _ ih =>
      cases h with
      | cons related rest =>
          obtain ⟨found, sublist, each⟩ := ih rest
          exact ⟨found, sublist.cons _, each⟩
  | cons_cons a _ ih =>
      cases h with
      | cons related rest =>
          obtain ⟨found, sublist, each⟩ := ih rest
          exact ⟨_ :: found, sublist.cons_cons _, .cons related each⟩

theorem exists_pairs {list : List α} {results : List β} (h : List.Forall₂ R list results) :
    ∃ pairs : List (α × β), pairs.map (·.1) = list ∧ pairs.map (·.2) = results ∧
      ∀ pair ∈ pairs, R pair.1 pair.2 := by
  obtain ⟨same, each⟩ := List.forall₂_iff_zip.mp h
  exact ⟨list.zip results, List.map_fst_zip (Nat.le_of_eq same),
    List.map_snd_zip (Nat.le_of_eq same.symm), fun pair found => each found⟩

theorem exists_triples {T : α → β → γ → Prop} {list : List α} {results : List β}
    (h : List.Forall₂ (fun a b => ∃ c, T a b c) list results) :
    ∃ triples : List (α × β × γ), triples.map (·.1) = list ∧ triples.map (·.2.1) = results ∧
      ∀ triple ∈ triples, T triple.1 triple.2.1 triple.2.2 := by
  induction h with
  | nil => exact ⟨[], rfl, rfl, fun _ found => absurd found List.not_mem_nil⟩
  | cons related _ ih =>
      obtain ⟨c, here⟩ := related
      obtain ⟨triples, rfl, rfl, each⟩ := ih
      exact ⟨(_, _, c) :: triples, rfl, rfl, List.forall_mem_cons.mpr ⟨here, each⟩⟩

end SignatureLint.Related

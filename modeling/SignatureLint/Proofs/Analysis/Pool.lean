import Mathlib.Data.List.Perm.Basic
import Mathlib.Logic.Relation

/-!
# Pools of workers

Tasks wait in order until a worker is free, and are finished in any order.  Whatever the order, the
answers are delivered in the order of the tasks, and as long as there is a worker at all every task
is finished some time.
-/

namespace SignatureLint

variable {α β : Type}

/-- The tasks that wait, those that are being worked at, and the answers so far, each with the
position of its task. -/
structure Pool (α β : Type) where
  waiting : List (α × Nat)
  running : List (α × Nat)
  answers : List (β × Nat)

namespace Pool

def start (tasks : List α) : Pool α β where
  waiting := tasks.zipIdx
  running := []
  answers := []

/-- A free worker takes the task that waited longest, or some worker finishes its task. -/
inductive Step (work : α → β) (workers : Nat) : Pool α β → Pool α β → Prop where
  | take {task : α × Nat} {waiting running : List (α × Nat)} {answers : List (β × Nat)}
      (free : running.length < workers) :
      Step work workers ⟨task :: waiting, running, answers⟩ ⟨waiting, task :: running, answers⟩
  | finish {task : α × Nat} {waiting before after : List (α × Nat)} {answers : List (β × Nat)} :
      Step work workers ⟨waiting, before ++ task :: after, answers⟩
        ⟨waiting, before ++ after, (work task.1, task.2) :: answers⟩

/-- What steps lead to. -/
abbrev Reaches (work : α → β) (workers : Nat) : Pool α β → Pool α β → Prop :=
  Relation.ReflTransGen (Step work workers)

/-- Nothing is left to do. -/
def IsDone (pool : Pool α β) : Prop :=
  pool.waiting = [] ∧ pool.running = []

/-- Nothing is left to do, and the answers are these in the order of the tasks. -/
structure Delivers (pool : Pool α β) (results : List β) : Prop where
  done : pool.IsDone
  answers : ∀ position result,
    results[position]? = some result ↔ (result, position) ∈ pool.answers

variable {work : α → β} {workers : Nat} {tasks : List α} {pool next : Pool α β}

/-! ## Answers -/

def answer (work : α → β) (task : α × Nat) : β × Nat :=
  (work task.1, task.2)

/-- The answers so far and those to come are the answers to all tasks. -/
def Accounts (work : α → β) (tasks : List α) (pool : Pool α β) : Prop :=
  ((pool.waiting ++ pool.running).map (answer work) ++ pool.answers).Perm (tasks.map work).zipIdx

theorem accounts_start : Accounts work tasks (start tasks) := by
  rw [Accounts, start, List.append_nil, List.append_nil, List.zipIdx_map]
  exact .refl _

theorem Accounts.step (accounts : Accounts work tasks pool) (step : Step work workers pool next) :
    Accounts work tasks next := by
  refine List.Perm.trans ?_ accounts
  cases step with
  | take free => exact (List.perm_middle.map _).append_right _
  | @finish task waiting before after answers =>
      have taken : (waiting ++ (before ++ task :: after)).Perm
          (task :: (waiting ++ (before ++ after))) := by
        rw [← List.append_assoc, ← List.append_assoc]
        exact List.perm_middle
      exact List.perm_middle.trans ((taken.map (answer work)).append_right answers).symm

theorem Accounts.reaches (accounts : Accounts work tasks pool)
    (reaches : Reaches work workers pool next) : Accounts work tasks next := by
  induction reaches with
  | refl => exact accounts
  | tail _ step ih => exact ih.step step

/-- The answers are delivered in the order of the tasks, whatever the order in which the tasks were
finished. -/
theorem delivers_iff (reaches : Reaches work workers (start tasks) pool) {results : List β} :
    pool.Delivers results ↔ pool.IsDone ∧ results = tasks.map work := by
  have accounts := accounts_start.reaches reaches
  have found (done : pool.IsDone) (position : Nat) (result : β) :
      (result, position) ∈ pool.answers ↔ (tasks.map work)[position]? = some result := by
    rw [Accounts, done.1, done.2] at accounts
    rw [← List.mk_mem_zipIdx_iff_getElem?]
    exact accounts.mem_iff
  constructor
  · intro delivers
    refine ⟨delivers.done, List.ext_getElem? fun position => Option.ext fun result => ?_⟩
    rw [delivers.answers, found delivers.done]
  · rintro ⟨done, rfl⟩
    exact ⟨done, fun position result => (found done position result).symm⟩

/-! ## Progress -/

/-- What is left to do: a task that waits has to be taken and finished. -/
def remaining (pool : Pool α β) : Nat :=
  2 * pool.waiting.length + pool.running.length

theorem remaining_lt (step : Step work workers pool next) : next.remaining < pool.remaining := by
  cases step with
  | take free =>
      simp only [remaining, List.length_cons]
      omega
  | finish =>
      simp only [remaining, List.length_append, List.length_cons]
      omega

theorem exists_step (working : 0 < workers) (busy : ¬pool.IsDone) :
    ∃ next, Step work workers pool next := by
  obtain ⟨waiting, running, answers⟩ := pool
  cases running with
  | cons task rest => exact ⟨_, @Step.finish _ _ work workers task waiting [] rest answers⟩
  | nil =>
      cases waiting with
      | cons task rest => exact ⟨_, .take working⟩
      | nil => exact absurd ⟨rfl, rfl⟩ busy

theorem exists_done (work : α → β) (working : 0 < workers) (pool : Pool α β) :
    ∃ last, Reaches work workers pool last ∧ last.IsDone := by
  by_cases done : pool.IsDone
  · exact ⟨pool, .refl, done⟩
  · obtain ⟨next, step⟩ := @exists_step _ _ work _ _ working done
    have := remaining_lt step
    obtain ⟨last, reaches, done⟩ := exists_done work working next
    exact ⟨last, .head step reaches, done⟩
termination_by pool.remaining

end Pool

end SignatureLint

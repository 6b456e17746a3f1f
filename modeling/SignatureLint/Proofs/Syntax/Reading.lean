import SignatureLint.Syntax.Parser

/-!
# What parsers read

A parser relates a place among the tokens to a value and a place that is no
earlier.  The relation of a parser that is put together from others is put together
from theirs; of a loop, what each round preserves holds when it ends.
-/

namespace SignatureLint.Parser

variable {α β σ : Type} {tokens : Array Token} {place next : Nat}

/-- Between two places among the tokens a parser reads a value. -/
def Reads (parser : Parser α) (tokens : Array Token) (place : Nat) (value : α) (next : Nat) :
    Prop :=
  ∃ forward : place ≤ next, parser tokens place = .ok ⟨value, next, forward⟩

theorem Reads.forward {parser : Parser α} {value : α} (h : parser.Reads tokens place value next) :
    place ≤ next :=
  h.1

theorem reads_pure {value value' : α} :
    (pure value : Parser α).Reads tokens place value' next ↔ value' = value ∧ next = place := by
  constructor
  · rintro ⟨forward, h⟩
    cases h
    exact ⟨rfl, rfl⟩
  · rintro ⟨rfl, rfl⟩
    exact ⟨Nat.le_refl _, rfl⟩

theorem not_reads_fail {value : α} : ¬(fail : Parser α).Reads tokens place value next := by
  rintro ⟨forward, h⟩
  cases h

/-- Of two parsers in a row the second one goes on where the first one stops. -/
theorem reads_bind {parser : Parser α} {further : α → Parser β} {value : β} :
    (parser >>= further).Reads tokens place value next ↔
      ∃ first middle, parser.Reads tokens place first middle ∧
        (further first).Reads tokens middle value next := by
  constructor
  · rintro ⟨forward, h⟩
    simp only [bind] at h
    cases first : parser tokens place with
    | error fault =>
        rw [first] at h
        cases h
    | ok reading =>
        rw [first] at h
        dsimp only at h
        cases second : further reading.value tokens reading.next with
        | error fault =>
            rw [second] at h
            cases h
        | ok reading' =>
            rw [second] at h
            cases h
            exact ⟨reading.value, reading.next, ⟨reading.forward, first⟩,
              ⟨reading'.forward, second⟩⟩
  · rintro ⟨first, middle, ⟨forward, h⟩, ⟨forward', h'⟩⟩
    refine ⟨Nat.le_trans forward forward', ?_⟩
    simp only [bind, h, h']

theorem reads_advance {value : Unit} (h : advance.Reads tokens place value next) :
    next = place + 1 := by
  obtain ⟨forward, h⟩ := h
  cases h
  rfl

theorem reads_attempt {parser : Parser α} {value : Option α}
    (h : (attempt parser).Reads tokens place value next) :
    (∃ found, value = some found ∧ parser.Reads tokens place found next) ∨
      value = none ∧ next = place := by
  obtain ⟨forward, h⟩ := h
  unfold attempt at h
  split at h
  · rename_i found read
    cases h
    exact Or.inl ⟨found.value, rfl, found.forward, read⟩
  · cases h
    exact Or.inr ⟨rfl, rfl⟩

theorem reads_loopFrom {step : σ → Parser (σ ⊕ α)} {Invariant : Nat → σ → Prop} {start : Nat}
    {state : σ} (reached : start ≤ place) (holds : Invariant place state)
    (preserved : ∀ {place state state' next}, Invariant place state →
      (step state).Reads tokens place (.inl state') next → Invariant next state')
    {reading : Reading α start} (h : loopFrom step tokens state place reached = .ok reading) :
    ∃ place state, Invariant place state ∧
      (step state).Reads tokens place (.inr reading.value) reading.next := by
  fun_induction loopFrom step tokens state place reached with
  | case1 => cases h
  | case2 state place reached result next forward round =>
      cases h
      exact ⟨place, state, holds, forward, round⟩
  | case3 state place reached state' next forward round _ ih =>
      exact ih (preserved holds ⟨forward, round⟩) h
  | case4 => cases h

theorem reads_loop {step : σ → Parser (σ ⊕ α)} (Invariant : Nat → σ → Prop) {state : σ} {value : α}
    (h : (loop step state).Reads tokens place value next) (holds : Invariant place state)
    (preserved : ∀ {place state state' next}, Invariant place state →
      (step state).Reads tokens place (.inl state') next → Invariant next state') :
    ∃ place state, Invariant place state ∧ (step state).Reads tokens place (.inr value) next := by
  obtain ⟨forward, h⟩ := h
  exact reads_loopFrom (Nat.le_refl place) holds preserved h

end SignatureLint.Parser

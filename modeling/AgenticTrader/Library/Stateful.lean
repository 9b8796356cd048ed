import Mathlib.Logic.Relation

/-!
# Computations over a state that may stop

A computation reads and writes a state, and returns a value or stops with a reason; the
state it leaves is there in both cases. A handler sees the state as the computation
stopped in it.

Two things are asked of a computation. What it does to the state however it ends is a
relation between the states before and after (`Along`): it composes when the relation is
reflexive and transitive, so a body is as quiet as its parts. What it has reached when it
returns is taken apart step by step (`bind_eq_ok`).
-/

/-- **A computation** over states `σ` that returns an `α` or stops with an `ε`. -/
def Stateful (σ ε α : Type) : Type := σ → Except ε α × σ

namespace Stateful

variable {σ ε α β : Type}

/-- The continuation, where a value was returned. -/
def andThen (m : Stateful σ ε α) (next : α → Stateful σ ε β) : Stateful σ ε β := fun s =>
  match m s with
  | (.ok a, s') => next a s'
  | (.error e, s') => (.error e, s')

instance : Monad (Stateful σ ε) where
  pure a := fun s => (.ok a, s)
  bind := andThen

/-- Stop. -/
def raise (e : ε) : Stateful σ ε α := fun s => (.error e, s)

/-- Read the state. -/
def ask (f : σ → α) : Stateful σ ε α := fun s => (.ok (f s), s)

/-- Change the state. -/
def change (f : σ → σ) : Stateful σ ε Unit := fun s => (.ok (), f s)

/-- Where a computation stopped, go on from the state it stopped in. -/
def handle (m : Stateful σ ε α) (handler : ε → Stateful σ ε α) : Stateful σ ε α := fun s =>
  match m s with
  | (.ok a, s') => (.ok a, s')
  | (.error e, s') => handler e s'

theorem pure_apply (a : α) (s : σ) : (pure a : Stateful σ ε α) s = (.ok a, s) := rfl

theorem raise_apply (e : ε) (s : σ) : (raise e : Stateful σ ε α) s = (.error e, s) := rfl

/-- **A run that returned** went through each of its steps. -/
theorem bind_eq_ok {m : Stateful σ ε α} {next : α → Stateful σ ε β} {s s' : σ} {b : β} :
    (m >>= next) s = (.ok b, s') ↔ ∃ a s₁, m s = (.ok a, s₁) ∧ next a s₁ = (.ok b, s') := by
  show andThen m next s = (.ok b, s') ↔ _
  unfold andThen
  rcases hm : m s with ⟨e | a, s₁⟩
  · simp
  · constructor
    · intro h
      exact ⟨a, s₁, rfl, h⟩
    · rintro ⟨a', s₂, heq, h⟩
      cases heq
      exact h

/-- **A run that went through a step** either stopped there or goes on. -/
theorem bind_cases (m : Stateful σ ε α) (next : α → Stateful σ ε β) (s : σ) :
    (∃ e s₁, m s = (.error e, s₁) ∧ (m >>= next) s = (.error e, s₁))
      ∨ ∃ a s₁, m s = (.ok a, s₁) ∧ (m >>= next) s = next a s₁ := by
  show (∃ e s₁, _ ∧ andThen m next s = _) ∨ ∃ a s₁, _ ∧ andThen m next s = _
  unfold andThen
  rcases hm : m s with ⟨e | a, s₁⟩
  · exact Or.inl ⟨e, s₁, rfl, rfl⟩
  · exact Or.inr ⟨a, s₁, rfl, rfl⟩

/-- **However it ends**, the computation leaves a state related to the one it began in. -/
def Along (R : σ → σ → Prop) (m : Stateful σ ε α) : Prop := ∀ s, R s (m s).2

namespace Along

variable {R : σ → σ → Prop} {m : Stateful σ ε α} {next : α → Stateful σ ε β}

theorem pure (hrefl : ∀ s, R s s) (a : α) : Along R (Pure.pure a : Stateful σ ε α) := hrefl

theorem raise (hrefl : ∀ s, R s s) (e : ε) : Along R (Stateful.raise e : Stateful σ ε α) := hrefl

theorem ask (hrefl : ∀ s, R s s) (f : σ → α) : Along R (Stateful.ask f : Stateful σ ε α) := hrefl

theorem bind (htrans : ∀ s₁ s₂ s₃, R s₁ s₂ → R s₂ s₃ → R s₁ s₃) (hm : Along R m)
    (hnext : ∀ a, Along R (next a)) : Along R (m >>= next) := by
  intro s
  have hs := hm s
  rcases bind_cases m next s with ⟨e, s₁, h, heq⟩ | ⟨a, s₁, h, heq⟩
  · rw [h] at hs
    rw [heq]
    exact hs
  · rw [h] at hs
    rw [heq]
    exact htrans s s₁ _ hs (hnext a s₁)

/-- What it left when it returned. -/
theorem ok (hm : Along R m) {s s' : σ} {a : α} (h : m s = (.ok a, s')) : R s s' := by
  have hs := hm s
  rwa [h] at hs

end Along

end Stateful

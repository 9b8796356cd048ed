import Mathlib.Logic.Relation

/-!
# Transition systems

A program that runs as several processes over one store is a set of
initial states and a step relation, one step per atomic action of one
process. What its verification then proves is of two kinds: a property of
every reachable state, and a relation between the two ends of every run.

Each is proved once here from what a single step does:
`Reachable.of_step` for the first and `Run.rel_of_step` for the second.
-/

/-- **A transition system**: where it may start and what one atomic step
may do. -/
structure TransitionSystem (σ : Type*) where
  /-- The states a run may start in. -/
  init : σ → Prop
  /-- What one atomic step may do. -/
  step : σ → σ → Prop

namespace TransitionSystem

variable {σ : Type*} {T : TransitionSystem σ}

/-- **A run**: any number of steps, in any order the step relation
allows. -/
def Run (T : TransitionSystem σ) : σ → σ → Prop :=
  Relation.ReflTransGen T.step

/-- A state some run from an initial state ends in. -/
def Reachable (T : TransitionSystem σ) (s : σ) : Prop :=
  ∃ s₀, T.init s₀ ∧ T.Run s₀ s

theorem Reachable.of_init {s : σ} (h : T.init s) : T.Reachable s :=
  ⟨s, h, Relation.ReflTransGen.refl⟩

theorem Reachable.tail {s s' : σ} (h : T.Reachable s) (hs : T.step s s') :
    T.Reachable s' := by
  obtain ⟨s₀, h₀, hr⟩ := h
  exact ⟨s₀, h₀, Relation.ReflTransGen.tail hr hs⟩

theorem Reachable.run {s s' : σ} (h : T.Reachable s) (hr : T.Run s s') :
    T.Reachable s' := by
  obtain ⟨s₀, h₀, hr₀⟩ := h
  exact ⟨s₀, h₀, Relation.ReflTransGen.trans hr₀ hr⟩

/-- **The invariant rule.** A property the initial states have and every
step from a reachable state preserves holds in every reachable state. The
step is asked for at reachable states only, so that invariants proved
before can be used in it. -/
theorem Reachable.of_step {I : σ → Prop} (h₀ : ∀ s, T.init s → I s)
    (hstep : ∀ s s', T.Reachable s → I s → T.step s s' → I s')
    {s : σ} (h : T.Reachable s) : I s := by
  obtain ⟨s₀, hi, hr⟩ := h
  induction hr with
  | refl => exact h₀ s₀ hi
  | tail hr hs ih => exact hstep _ _ ⟨s₀, hi, hr⟩ ih hs

/-- **The run rule.** A reflexive and transitive relation that holds
across every step from a reachable state holds between the ends of every
run that starts in one. -/
theorem Run.rel_of_step {R : σ → σ → Prop} (hrefl : ∀ s, R s s)
    (htrans : ∀ a b c, R a b → R b c → R a c)
    (hstep : ∀ s s', T.Reachable s → T.step s s' → R s s')
    {s s' : σ} (h : T.Reachable s) (hr : T.Run s s') : R s s' := by
  induction hr with
  | refl => exact hrefl s
  | tail hr hs ih => exact htrans _ _ _ ih (hstep _ _ (h.run hr) hs)

/-- What holds in every reachable state of a system holds in every
reachable state of one that does less. -/
theorem Reachable.mono {U : TransitionSystem σ} (hi : ∀ s, T.init s → U.init s)
    (hs : ∀ s s', T.step s s' → U.step s s') {s : σ} (h : T.Reachable s) :
    U.Reachable s := by
  obtain ⟨s₀, h₀, hr⟩ := h
  exact ⟨s₀, hi s₀ h₀, Relation.ReflTransGen.mono hs _ _ hr⟩

end TransitionSystem

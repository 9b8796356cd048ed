import AgenticTrader.Library.Transition
import Mathlib.Data.Nat.Notation
import Mathlib.Logic.Function.Basic

/-!
# Processes over a shared store

Any number of processes run one program over one store. A process moves
between its local states by atomic actions, each of which may read and
write the store and may leave marks on a trace – the calls it made to the
outside world, which no crash takes back. The actions of different
processes interleave in any order, and a process may crash between any two
of its own: it then starts over, with the store and the trace as they are.

An invariant of such a system has three parts (`Assertion`): what holds of
the store and the trace, what each process may rely on in its local state,
and what two processes can never be at together. `Program.holds` proves
one from what an action does to its own process and to any other.
-/

/-- **A program**: the store it starts on, the local state a process starts
and restarts in, and what one atomic action may do – given the store, the
trace and the local state, the marks it leaves, the new store and the new
local state. -/
structure Program (δ π ε : Type*) where
  store : δ
  idle : π
  act : δ → List ε → π → List ε → δ → π → Prop

/-- **A state of the whole system.** -/
structure World (δ π ε : Type*) where
  store : δ
  procs : ℕ → π
  trace : List ε

namespace World

variable {δ π ε : Type*}

/-- One action of one process. -/
def acted (w : World δ π ε) (i : ℕ) (marks : List ε) (d : δ) (p : π) :
    World δ π ε :=
  ⟨d, Function.update w.procs i p, w.trace ++ marks⟩

/-- The acting process is where its action took it, and every other process
where it was. -/
@[simp] theorem acted_procs_self (w : World δ π ε) (i : ℕ) (marks : List ε) (d : δ)
    (p : π) : (w.acted i marks d p).procs i = p := by
  simp [acted]

theorem acted_procs_ne (w : World δ π ε) {i j : ℕ} (marks : List ε) (d : δ) (p : π)
    (h : j ≠ i) : (w.acted i marks d p).procs j = w.procs j := by
  simp [acted, h]

/-- A process forgets where it was. -/
def crashed (w : World δ π ε) (i : ℕ) (p : π) : World δ π ε :=
  ⟨w.store, Function.update w.procs i p, w.trace⟩

end World

namespace Program

variable {δ π ε : Type*}

/-- **The system of any number of processes**: an action of one of them, or
a crash. -/
def system (P : Program δ π ε) : TransitionSystem (World δ π ε) where
  init w := w = ⟨P.store, fun _ => P.idle, []⟩
  step w w' :=
    (∃ i marks d p, P.act w.store w.trace (w.procs i) marks d p
        ∧ w' = w.acted i marks d p)
      ∨ ∃ i, w' = w.crashed i P.idle

/-- A world some run of the program ends in. -/
abbrev Reachable (P : Program δ π ε) (w : World δ π ε) : Prop :=
  P.system.Reachable w

/-- A run of the program. -/
abbrev Run (P : Program δ π ε) (w w' : World δ π ε) : Prop :=
  P.system.Run w w'

/-- **The program whose actions all meet a condition**: its runs are the
runs that meet it at every action. -/
def restrict (P : Program δ π ε) (C : δ → π → δ → π → Prop) : Program δ π ε where
  store := P.store
  idle := P.idle
  act d t p marks d' p' := P.act d t p marks d' p' ∧ C d p d' p'

variable {P : Program δ π ε}

theorem Reachable.of_restrict {C : δ → π → δ → π → Prop} {w : World δ π ε}
    (h : (P.restrict C).Reachable w) : P.Reachable w := by
  refine TransitionSystem.Reachable.mono (T := (P.restrict C).system)
    (U := P.system) (fun _ h₀ => h₀) (fun s s' hs => ?_) h
  rcases hs with ⟨i, marks, d, p, ha, rfl⟩ | ⟨i, rfl⟩
  · exact Or.inl ⟨i, marks, d, p, ha.1, rfl⟩
  · exact Or.inr ⟨i, rfl⟩

/-- **The program whose actions all start where a condition holds** of the
store, the trace and the acting process. -/
def guard (P : Program δ π ε) (C : δ → List ε → π → Prop) : Program δ π ε where
  store := P.store
  idle := P.idle
  act d t p marks d' p' := P.act d t p marks d' p' ∧ C d t p

theorem guard_step {C : δ → List ε → π → Prop} {w w' : World δ π ε}
    (h : (P.guard C).system.step w w') : P.system.step w w' := by
  rcases h with ⟨i, marks, d, p, ha, rfl⟩ | ⟨i, rfl⟩
  · exact Or.inl ⟨i, marks, d, p, ha.1, rfl⟩
  · exact Or.inr ⟨i, rfl⟩

theorem Reachable.of_guard {C : δ → List ε → π → Prop} {w : World δ π ε}
    (h : (P.guard C).Reachable w) : P.Reachable w :=
  TransitionSystem.Reachable.mono (T := (P.guard C).system) (U := P.system)
    (fun _ h₀ => h₀) (fun _ _ => guard_step) h

/-- The trace only grows. -/
theorem Run.trace_grows {w w' : World δ π ε} (hr : P.Run w w') :
    w.trace <+: w'.trace := by
  induction hr with
  | refl => exact List.prefix_rfl
  | tail _ hs ih =>
    rcases hs with ⟨i, marks, d, p, -, rfl⟩ | ⟨i, rfl⟩
    · exact ih.trans (List.prefix_append _ _)
    · exact ih

/-- An action from a reachable world leads to one. -/
theorem Reachable.act {w : World δ π ε} (h : P.Reachable w) {i : ℕ} {marks : List ε}
    {d : δ} {p : π} (ha : P.act w.store w.trace (w.procs i) marks d p) :
    P.Reachable (w.acted i marks d p) :=
  h.tail (Or.inl ⟨i, marks, d, p, ha, rfl⟩)

/-! ## Store invariants -/

/-- **The rule for the store and the trace alone.** -/
theorem store_invariant {J : δ → List ε → Prop} (h₀ : J P.store [])
    (hact : ∀ w i marks d p, P.Reachable w → J w.store w.trace →
      P.act w.store w.trace (w.procs i) marks d p → J d (w.trace ++ marks))
    {w : World δ π ε} (h : P.Reachable w) : J w.store w.trace := by
  refine TransitionSystem.Reachable.of_step (I := fun w => J w.store w.trace)
    ?_ ?_ h
  · rintro _ rfl
    exact h₀
  · rintro w w' hw hJ (⟨i, marks, d, p, ha, rfl⟩ | ⟨i, rfl⟩)
    · exact hact w i marks d p hw hJ ha
    · exact hJ

/-- **The rule for the two ends of a run.** -/
theorem store_rel {R : δ → δ → Prop} (hrefl : ∀ d, R d d)
    (htrans : ∀ a b c, R a b → R b c → R a c)
    (hact : ∀ w i marks d p, P.Reachable w →
      P.act w.store w.trace (w.procs i) marks d p → R w.store d)
    {w w' : World δ π ε} (h : P.Reachable w) (hr : P.Run w w') :
    R w.store w'.store := by
  refine TransitionSystem.Run.rel_of_step (R := fun w w' => R w.store w'.store)
    (fun w => hrefl w.store) (fun a b c => htrans _ _ _) ?_ h hr
  rintro w w' hw (⟨i, marks, d, p, ha, rfl⟩ | ⟨i, rfl⟩)
  · exact hact w i marks d p hw ha
  · exact hrefl _

/-- **The rule for the rows of a table along a run**: what each row becomes. -/
theorem rows_rel {α : Type*} {rows : δ → List α} {R : α → α → Prop} (hrefl : ∀ x, R x x)
    (htrans : ∀ x y z, R x y → R y z → R x z)
    (hact : ∀ w i marks d p, P.Reachable w →
      P.act w.store w.trace (w.procs i) marks d p → ∀ x ∈ rows w.store, ∃ y ∈ rows d, R x y)
    {w w' : World δ π ε} (h : P.Reachable w) (hr : P.Run w w') :
    ∀ x ∈ rows w.store, ∃ y ∈ rows w'.store, R x y := by
  refine store_rel (R := fun d d' => ∀ x ∈ rows d, ∃ y ∈ rows d', R x y)
    (fun d x hx => ⟨x, hx, hrefl x⟩) ?_ hact h hr
  intro a b c hab hbc x hx
  obtain ⟨y, hy, hxy⟩ := hab x hx
  obtain ⟨z, hz, hyz⟩ := hbc y hy
  exact ⟨z, hz, htrans x y z hxy hyz⟩

/-! ## Process invariants -/

/-- **An invariant of the whole system.** -/
structure Assertion (δ π ε : Type*) where
  /-- What holds of the store and the trace. -/
  store : δ → List ε → Prop
  /-- What a process may rely on where it is. -/
  here : δ → List ε → π → Prop
  /-- What two processes may be at together. -/
  apart : π → π → Prop := fun _ _ => True

/-- The assertion holds in a world. -/
structure Assertion.Holds (A : Assertion δ π ε) (w : World δ π ε) : Prop where
  store : A.store w.store w.trace
  here : ∀ i, A.here w.store w.trace (w.procs i)
  apart : ∀ i j, i ≠ j → A.apart (w.procs i) (w.procs j)

/-- **What an action owes to an assertion**: the store's part, its own
process's part, and the part of every process it can be together with. -/
structure Assertion.Kept (A : Assertion δ π ε) (d : δ) (t : List ε) (p : π)
    (marks : List ε) (d' : δ) (p' : π) : Prop where
  store : A.store d' (t ++ marks)
  here : A.here d' (t ++ marks) p'
  others : ∀ q, A.here d t q → A.apart p q → A.apart q p →
    A.here d' (t ++ marks) q ∧ A.apart p' q ∧ A.apart q p'

/-- **The process rule.** An assertion that holds of the initial store, that
an idle process relies on nothing for, and that every action keeps, holds in
every reachable world. -/
theorem holds (A : Assertion δ π ε) (h₀ : A.store P.store [])
    (hidle : ∀ d t, A.store d t → A.here d t P.idle)
    (hapart : ∀ q, A.apart P.idle q ∧ A.apart q P.idle)
    (hact : ∀ w i marks d p, P.Reachable w → A.Holds w →
      P.act w.store w.trace (w.procs i) marks d p →
      A.Kept w.store w.trace (w.procs i) marks d p)
    {w : World δ π ε} (h : P.Reachable w) : A.Holds w := by
  refine TransitionSystem.Reachable.of_step (I := A.Holds) ?_ ?_ h
  · rintro _ rfl
    exact ⟨h₀, fun _ => hidle _ _ h₀, fun _ _ _ => (hapart _).1⟩
  · rintro w w' hw hA (⟨i, marks, d, p, ha, rfl⟩ | ⟨i, rfl⟩)
    · have hk := hact w i marks d p hw hA ha
      have hothers : ∀ j, j ≠ i → A.here d (w.trace ++ marks) (w.procs j)
          ∧ A.apart p (w.procs j) ∧ A.apart (w.procs j) p := fun j hj =>
        hk.others _ (hA.here j) (hA.apart i j hj.symm) (hA.apart j i hj)
      refine ⟨hk.store, fun j => ?_, fun j k hjk => ?_⟩
      · by_cases hj : j = i
        · subst hj
          rw [World.acted_procs_self]
          exact hk.here
        · rw [World.acted_procs_ne w marks d p hj]
          exact (hothers j hj).1
      · by_cases hj : j = i
        · subst hj
          rw [World.acted_procs_self, World.acted_procs_ne w marks d p hjk.symm]
          exact (hothers k hjk.symm).2.1
        · rw [World.acted_procs_ne w marks d p hj]
          by_cases hk' : k = i
          · subst hk'
            rw [World.acted_procs_self]
            exact (hothers j hj).2.2
          · rw [World.acted_procs_ne w marks d p hk']
            exact hA.apart j k hjk
    · refine ⟨hA.store, fun j => ?_, fun j k hjk => ?_⟩
      · by_cases hj : j = i
        · subst hj
          simpa [World.crashed] using hidle _ _ hA.store
        · simpa [World.crashed, hj] using hA.here j
      · by_cases hj : j = i
        · subst hj
          simpa [World.crashed, hjk.symm] using (hapart (w.procs k)).1
        · by_cases hk' : k = i
          · subst hk'
            simpa [World.crashed, hj] using (hapart (w.procs j)).2
          · simpa [World.crashed, hj, hk'] using hA.apart j k hjk

end Program

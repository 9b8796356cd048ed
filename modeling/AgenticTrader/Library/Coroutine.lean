import AgenticTrader.Library.Processes
import Mathlib.Data.List.Induction

/-!
# Coroutines over a shared state

A coroutine awaits the answers to calls that it makes of the outside world. While it
waits, others use the state it shares with them; when an answer has come it leaves its
effects on that state, looks at it, and runs on to its next call or to its end.

A run of one coroutine is therefore judged against any state at each of its answers
(`Coroutine.Runs`), which covers every way in which others come in between. For many of
them at once there is a program (`Coroutine.program`) whose trace holds the effects and
the calls in their order: the state is the replay of the effects (`replayed`), and where
each call may be issued is read off the coroutine alone (`issued`).
-/

/-- **A coroutine** over states `σ`, with calls `κ` and their answers, and effects `η`. -/
inductive Coroutine (σ κ : Type) (ρ : κ → Type) (η α : Type) where
  | done (result : α)
  | await (call : κ) (effects : ρ call → List η) (next : ρ call → σ → Coroutine σ κ ρ η α)

namespace Coroutine

/-- What is on record: an effect on the state, or a call. -/
inductive Mark (κ η : Type) where
  | effect (effect : η)
  | called (call : κ)
  deriving DecidableEq

variable {σ κ η ι μ : Type} {ρ : κ → Type} {α : Type} {τ : μ → Type}

/-- The effects on record. -/
def effectsOf (marks : List (Mark κ η)) : List η :=
  marks.filterMap fun
    | .effect effect => some effect
    | .called _ => none

@[simp] theorem effectsOf_append (marks marks' : List (Mark κ η)) :
    effectsOf (marks ++ marks') = effectsOf marks ++ effectsOf marks' :=
  List.filterMap_append

@[simp] theorem effectsOf_map (effects : List η) :
    effectsOf (effects.map (Mark.effect (κ := κ))) = effects := by
  induction effects with
  | nil => rfl
  | cons effect effects ih =>
    show effect :: effectsOf (effects.map Mark.effect) = _
    rw [ih]

/-- The call it waits for. -/
def entered : Coroutine σ κ ρ η α → List (Mark κ η)
  | .done _ => []
  | .await call _ _ => [.called call]

@[simp] theorem effectsOf_entered (co : Coroutine σ κ ρ η α) : effectsOf co.entered = [] := by
  cases co <;> rfl

variable (apply : σ → η → σ)

/-! ## One coroutine -/

/-- **A run of a coroutine among others**: the calls with their answers, and what it
returns. The state may be any one when an answer comes. -/
inductive Runs : Coroutine σ κ ρ η α → List ((call : κ) × ρ call) → α → Prop
  | done (result : α) : Runs (.done result) [] result
  | await {call : κ} {effects : ρ call → List η} {next : ρ call → σ → Coroutine σ κ ρ η α}
      (answer : ρ call) (s : σ) {calls : List ((call : κ) × ρ call)} {result : α}
      (h : Runs (next answer ((effects answer).foldl apply s)) calls result) :
      Runs (.await call effects next) (⟨call, answer⟩ :: calls) result

variable {apply}

theorem runs_done {result result' : α} {calls : List ((call : κ) × ρ call)}
    (h : Runs apply (.done result) calls result') : calls = [] ∧ result' = result := by
  cases h
  exact ⟨rfl, rfl⟩

theorem runs_await {call : κ} {effects : ρ call → List η}
    {next : ρ call → σ → Coroutine σ κ ρ η α} {calls : List ((call : κ) × ρ call)} {result : α}
    (h : Runs apply (.await call effects next) calls result) :
    ∃ answer s calls', calls = ⟨call, answer⟩ :: calls' ∧
      Runs apply (next answer ((effects answer).foldl apply s)) calls' result := by
  cases h with
  | await answer s h => exact ⟨answer, s, _, rfl, h⟩

theorem runs_ite {c : Prop} [Decidable c] {co co' : Coroutine σ κ ρ η α}
    {calls : List ((call : κ) × ρ call)} {result : α}
    (h : Runs apply (if c then co else co') calls result) :
    c ∧ Runs apply co calls result ∨ ¬c ∧ Runs apply co' calls result := by
  by_cases hc : c
  · rw [if_pos hc] at h
    exact .inl ⟨hc, h⟩
  · rw [if_neg hc] at h
    exact .inr ⟨hc, h⟩

variable (apply)

/-- **Every call is issued where it may be**: of a coroutine that is entered in a state,
whatever the state becomes between its calls. -/
def Issues (Ok : σ → κ → Prop) : σ → Coroutine σ κ ρ η α → Prop
  | _, .done _ => True
  | s, .await call effects next =>
    Ok s call ∧ ∀ answer s', Issues Ok ((effects answer).foldl apply s')
      (next answer ((effects answer).foldl apply s'))

/-- The same, of the calls that are still to come. -/
def Later (Ok : σ → κ → Prop) : Coroutine σ κ ρ η α → Prop
  | .done _ => True
  | .await _ effects next =>
    ∀ answer s, Issues apply Ok ((effects answer).foldl apply s)
      (next answer ((effects answer).foldl apply s))

variable {apply}

theorem Issues.ite {Ok : σ → κ → Prop} {s : σ} {c : Prop} [Decidable c]
    {co co' : Coroutine σ κ ρ η α} (h : c → Issues apply Ok s co)
    (h' : ¬c → Issues apply Ok s co') : Issues apply Ok s (if c then co else co') := by
  by_cases hc : c
  · rw [if_pos hc]
    exact h hc
  · rw [if_neg hc]
    exact h' hc

theorem Issues.later {Ok : σ → κ → Prop} {s : σ} {co : Coroutine σ κ ρ η α}
    (h : Issues apply Ok s co) : Later apply Ok co := by
  cases co with
  | done result => trivial
  | await call effects next => exact h.2

theorem Issues.entered {Ok : σ → κ → Prop} {s : σ} {co : Coroutine σ κ ρ η α}
    (h : Issues apply Ok s co) {call : κ} (hcall : Mark.called call ∈ co.entered) :
    Ok s call := by
  cases co with
  | done result => cases hcall
  | await call' effects next =>
    cases List.mem_singleton.mp hcall
    exact h.1

/-! ## Many coroutines -/

/-- The methods of an object that coroutines share: the effects a method begins with, given
an input such as a reading of the clock, and how it goes on from the state then. -/
structure Methods (σ κ : Type) (ρ : κ → Type) (η ι μ : Type) (τ : μ → Type) where
  begins : μ → ι → List η
  body : (m : μ) → σ → Coroutine σ κ ρ η (τ m)

variable (apply)

/-- **What a task may do next.** -/
inductive Act (M : Methods σ κ ρ η ι μ τ) : σ → List (Mark κ η) →
    Option ((m : μ) × Coroutine σ κ ρ η (τ m)) → List (Mark κ η) → σ →
    Option ((m : μ) × Coroutine σ κ ρ η (τ m)) → Prop
  | start (s : σ) (t : List (Mark κ η)) (m : μ) (input : ι) :
      Act M s t none
        ((M.begins m input).map .effect ++ (M.body m ((M.begins m input).foldl apply s)).entered)
        ((M.begins m input).foldl apply s)
        (some ⟨m, M.body m ((M.begins m input).foldl apply s)⟩)
  | resume (s : σ) (t : List (Mark κ η)) (m : μ) (call : κ) (effects : ρ call → List η)
      (next : ρ call → σ → Coroutine σ κ ρ η (τ m)) (answer : ρ call) :
      Act M s t (some ⟨m, .await call effects next⟩)
        ((effects answer).map .effect
          ++ (next answer ((effects answer).foldl apply s)).entered)
        ((effects answer).foldl apply s)
        (some ⟨m, next answer ((effects answer).foldl apply s)⟩)
  | finish (s : σ) (t : List (Mark κ η)) (m : μ) (result : τ m) :
      Act M s t (some ⟨m, .done result⟩) [] s none

/-- **Any number of tasks** that run methods of one object. A task that is cancelled while
it waits leaves the state as it is. -/
def program (M : Methods σ κ ρ η ι μ τ) (init : σ) :
    Program σ (Option ((m : μ) × Coroutine σ κ ρ η (τ m))) (Mark κ η) where
  store := init
  idle := none
  act := Act apply M

variable {apply} {M : Methods σ κ ρ η ι μ τ} {init : σ}

section Steps

variable {w : World σ (Option ((m : μ) × Coroutine σ κ ρ η (τ m))) (Mark κ η)} {i : ℕ}

/-- A task that is free may start any method. -/
theorem reachable_start (h : (program apply M init).Reachable w) (hi : w.procs i = none) (m : μ)
    (input : ι) {s : σ} (hs : (M.begins m input).foldl apply w.store = s) :
    (program apply M init).Reachable (w.acted i
      ((M.begins m input).map .effect ++ (M.body m s).entered) s (some ⟨m, M.body m s⟩)) := by
  subst hs
  refine Program.Reachable.act h ?_
  rw [hi]
  exact Act.start w.store w.trace m input

/-- A call that is awaited may have any answer. -/
theorem reachable_resume (h : (program apply M init).Reachable w) {m : μ} {call : κ}
    {effects : ρ call → List η} {next : ρ call → σ → Coroutine σ κ ρ η (τ m)}
    (hi : w.procs i = some ⟨m, .await call effects next⟩) (answer : ρ call) {s : σ}
    (hs : (effects answer).foldl apply w.store = s) :
    (program apply M init).Reachable (w.acted i
      ((effects answer).map .effect ++ (next answer s).entered) s
      (some ⟨m, next answer s⟩)) := by
  subst hs
  refine Program.Reachable.act h ?_
  rw [hi]
  exact Act.resume w.store w.trace m call effects next answer

end Steps

/-- **The state is the replay of the effects on record.** -/
theorem replayed {w : World σ (Option ((m : μ) × Coroutine σ κ ρ η (τ m))) (Mark κ η)}
    (h : (program apply M init).Reachable w) :
    w.store = (effectsOf w.trace).foldl apply init := by
  refine Program.store_invariant
    (J := fun s t => s = (effectsOf t).foldl apply init) rfl ?_ h
  rintro w i marks d p - hw hact
  generalize w.procs i = q at hact
  cases hact with
  | start m input => simp [hw, List.foldl_append]
  | resume m call effects next answer => simp [hw, List.foldl_append]
  | finish m result => simpa using hw

/-! ## Where calls were issued -/

variable (apply) in
/-- Every call on record satisfies what is asked of a call in the state it was issued in. -/
def Sound (Ok : σ → κ → Prop) (init : σ) (t : List (Mark κ η)) : Prop :=
  ∀ before call after, t = before ++ .called call :: after →
    Ok ((effectsOf before).foldl apply init) call

section Sound

variable {Ok : σ → κ → Prop} {t : List (Mark κ η)}

theorem Sound.nil : Sound apply Ok init ([] : List (Mark κ η)) := by
  intro before call after h
  cases before <;> cases h

theorem Sound.snoc {mark : Mark κ η} (h : Sound apply Ok init t)
    (hmark : ∀ call, mark = .called call → Ok ((effectsOf t).foldl apply init) call) :
    Sound apply Ok init (t ++ [mark]) := by
  intro before call after heq
  rcases List.eq_nil_or_concat after with rfl | ⟨after, mark', rfl⟩
  · obtain ⟨rfl, hlast⟩ := List.append_inj' heq rfl
    exact hmark call (List.singleton_inj.mp hlast)
  · rw [List.concat_eq_append, ← List.cons_append, ← List.append_assoc] at heq
    obtain ⟨hfront, -⟩ := List.append_inj' heq rfl
    exact h before call after hfront

theorem Sound.effects (h : Sound apply Ok init t) (effects : List η) :
    Sound apply Ok init (t ++ effects.map .effect) := by
  induction effects using List.reverseRecOn with
  | nil => simpa using h
  | append_singleton effects effect ih =>
    rw [List.map_append, ← List.append_assoc]
    exact ih.snoc (fun call hcall => by cases hcall)

theorem Sound.entered {co : Coroutine σ κ ρ η α} (h : Sound apply Ok init t)
    (hissues : Issues apply Ok ((effectsOf t).foldl apply init) co) :
    Sound apply Ok init (t ++ co.entered) := by
  cases co with
  | done result => simpa [Coroutine.entered] using h
  | await call effects next =>
    refine h.snoc (fun call' hcall => ?_)
    cases hcall
    exact hissues.1

/-- What a task adds to the record: its effects, and the call it enters. -/
theorem Sound.extend {co : Coroutine σ κ ρ η α} {effects : List η}
    (h : Sound apply Ok init t)
    (hissues : Issues apply Ok (effects.foldl apply ((effectsOf t).foldl apply init)) co) :
    Sound apply Ok init (t ++ (effects.map .effect ++ co.entered)) := by
  rw [← List.append_assoc]
  refine (h.effects effects).entered ?_
  rw [effectsOf_append, effectsOf_map, List.foldl_append]
  exact hissues

end Sound

/-- **Every call on record was issued where it may be**, if every method issues its calls
so. -/
theorem issued {Ok : σ → κ → Prop}
    (hM : ∀ m s input, Issues apply Ok ((M.begins m input).foldl apply s)
      (M.body m ((M.begins m input).foldl apply s)))
    {w : World σ (Option ((m : μ) × Coroutine σ κ ρ η (τ m))) (Mark κ η)}
    (h : (program apply M init).Reachable w) : Sound apply Ok init w.trace := by
  let A : Program.Assertion σ (Option ((m : μ) × Coroutine σ κ ρ η (τ m))) (Mark κ η) :=
    { store := fun _ t => Sound apply Ok init t
      here := fun _ _ p => ∀ m co, p = some ⟨m, co⟩ → Later apply Ok co }
  suffices hA : A.Holds w from hA.store
  refine Program.holds A Sound.nil (fun _ _ _ _ _ h => by cases h)
    (fun _ => ⟨trivial, trivial⟩) ?_ h
  intro w i marks d p hw hA hact
  have hstore := replayed hw
  have hhere := hA.here i
  generalize w.procs i = q at hact hhere ⊢
  cases hact with
  | start m input =>
    have hissues := hM m w.store input
    refine ⟨?_, ?_, fun q hq _ _ => ⟨hq, trivial, trivial⟩⟩
    · refine Sound.extend hA.store ?_
      rw [← hstore]
      exact hissues
    · rintro _ _ ⟨⟩
      exact hissues.later
  | resume m call effects next answer =>
    have hissues := hhere m _ rfl answer w.store
    refine ⟨?_, ?_, fun q hq _ _ => ⟨hq, trivial, trivial⟩⟩
    · refine Sound.extend hA.store ?_
      rw [← hstore]
      exact hissues
    · rintro _ _ ⟨⟩
      exact hissues.later
  | finish m result =>
    refine ⟨?_, ?_, fun q hq _ _ => ⟨hq, trivial, trivial⟩⟩
    · simpa using hA.store
    · rintro _ _ ⟨⟩

end Coroutine

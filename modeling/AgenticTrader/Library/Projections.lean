import Mathlib.Data.List.Basic
import Mathlib.Data.List.Induction
import Mathlib.Logic.Function.Basic

/-!
# Keyed projections of a journal

An event-sourced table: every event carries a key and the value the key has
from then on, and the table holds the last value of each key. The values of
different kinds of keys have different types, so the table is a dependent
function. A writer appends an event and projects it in one transaction; the
table can be thrown away and rebuilt from the journal, and is then what it
was (`rebuild_eq`), as long as it was only ever written by appending
(`Faithful`).

What such a store promises about its past is a property of every event and
the events before it (`Justified`): that a key is written once, that its value
only grows, that one event is preceded by another. It is proved once per
append, and `Justified.latest` gives what it says of the table.
-/

variable {κ : Type*} {Value : κ → Type*}

/-- **A journal and its projection.** -/
structure Projections (Value : κ → Type*) where
  journal : List (Sigma Value)
  view : (k : κ) → Option (Value k)

namespace Projections

variable [DecidableEq κ]

/-- The projection of one event. -/
def project (view : (k : κ) → Option (Value k)) (event : Sigma Value) :
    (k : κ) → Option (Value k) :=
  Function.update view event.1 (some event.2)

theorem project_self (view : (k : κ) → Option (Value k)) (k : κ) (v : Value k) :
    project view ⟨k, v⟩ k = some v :=
  Function.update_self ..

theorem project_ne (view : (k : κ) → Option (Value k)) {k k' : κ} (v : Value k) (h : k' ≠ k) :
    project view ⟨k, v⟩ k' = view k' :=
  Function.update_of_ne h ..

/-- Nothing was written. -/
def empty : Projections Value :=
  ⟨[], fun _ => none⟩

/-- The value of a key. -/
def get (s : Projections Value) (k : κ) : Option (Value k) :=
  s.view k

/-- **Append an event and project it.** -/
def append (s : Projections Value) (k : κ) (v : Value k) : Projections Value :=
  ⟨s.journal ++ [⟨k, v⟩], project s.view ⟨k, v⟩⟩

/-- **Project the journal from the start.** -/
def rebuild (s : Projections Value) : Projections Value :=
  ⟨s.journal, s.journal.foldl project (fun _ => none)⟩

variable (s : Projections Value) {k k' : κ}

omit [DecidableEq κ] in
@[simp] theorem get_empty (k : κ) : (empty : Projections Value).get k = none := rfl

@[simp] theorem get_append_self (v : Value k) : (s.append k v).get k = some v := by
  simp [get, append, project_self]

@[simp] theorem get_append_ne (v : Value k) (h : k' ≠ k) :
    (s.append k v).get k' = s.get k' := by
  simp [get, append, project_ne _ _ h]

/-- The table is what its journal projects to. -/
def Faithful : Prop :=
  s.journal.foldl project (fun _ => none) = s.view

theorem faithful_empty : (empty : Projections Value).Faithful := rfl

variable {s}

theorem Faithful.append (h : s.Faithful) (k : κ) (v : Value k) : (s.append k v).Faithful := by
  show (s.journal ++ [Sigma.mk k v]).foldl project (fun _ => none) = project s.view ⟨k, v⟩
  rw [List.foldl_append, show s.journal.foldl project (fun _ => none) = s.view from h]
  rfl

/-- **A faithful table is rebuilt as it was.** -/
theorem rebuild_eq (h : s.Faithful) : s.rebuild = s := by
  show (⟨s.journal, s.journal.foldl project (fun _ => none)⟩ : Projections Value) = s
  rw [show s.journal.foldl project (fun _ => none) = s.view from h]

/-! ## What a transaction writes -/

/-- **The table was only appended to**, at keys of a kind. -/
inductive Appends (K : κ → Prop) : Projections Value → Projections Value → Prop where
  | refl (s : Projections Value) : Appends K s s
  | append {s s' : Projections Value} (h : Appends K s s') (k : κ) (v : Value k) (hk : K k) :
      Appends K s (s'.append k v)

namespace Appends

variable {K L : κ → Prop} {a b c : Projections Value}

theorem single (s : Projections Value) (k : κ) (v : Value k) (hk : K k) :
    Appends K s (s.append k v) :=
  (refl s).append k v hk

theorem trans (hab : Appends K a b) (hbc : Appends K b c) : Appends K a c := by
  induction hbc with
  | refl => exact hab
  | append _ k v hk ih => exact ih.append k v hk

theorem mono (hKL : ∀ k, K k → L k) (h : Appends K a b) : Appends L a b := by
  induction h with
  | refl => exact refl _
  | append _ k v hk ih => exact ih.append k v (hKL k hk)

/-- Every other key has the value it had. -/
theorem get_eq (h : Appends K a b) (hk : ¬ K k) : b.get k = a.get k := by
  induction h with
  | refl => rfl
  | append _ k' v hk' ih =>
    have hne : k ≠ k' := by
      rintro rfl
      exact hk hk'
    rw [get_append_ne _ _ hne]
    exact ih

theorem faithful (h : Appends K a b) (ha : a.Faithful) : b.Faithful := by
  induction h with
  | refl => exact ha
  | append _ k v _ ih => exact ih.append k v

/-- The journal got longer, by events at keys of the kind. -/
theorem journal (h : Appends K a b) :
    ∃ l : List (Sigma Value), b.journal = a.journal ++ l ∧ ∀ e ∈ l, K e.1 := by
  induction h with
  | refl => exact ⟨[], (List.append_nil _).symm, fun e he => by cases he⟩
  | @append s' _ k v hk ih =>
    obtain ⟨l, hl, hK⟩ := ih
    refine ⟨l ++ [⟨k, v⟩], ?_, fun e he => ?_⟩
    · show s'.journal ++ _ = _
      rw [hl, List.append_assoc]
    · rcases List.mem_append.mp he with he | he
      · exact hK e he
      · rw [List.mem_singleton.mp he]
        exact hk

end Appends

/-! ## The past of a journal -/

/-- **Every event was allowed by the events before it.** -/
def Justified (R : List (Sigma Value) → Sigma Value → Prop) (journal : List (Sigma Value)) :
    Prop :=
  ∀ past e rest, journal = past ++ e :: rest → R past e

omit [DecidableEq κ] in
/-- Where an event of a longer journal is. -/
theorem concat_eq_append_cons {journal past rest : List (Sigma Value)} {e e' : Sigma Value}
    (h : journal ++ [e] = past ++ e' :: rest) :
    (past = journal ∧ e' = e ∧ rest = [])
      ∨ ∃ rest', rest = rest' ++ [e] ∧ journal = past ++ e' :: rest' := by
  rcases List.eq_nil_or_concat' rest with rfl | ⟨rest', last, rfl⟩
  · obtain ⟨hj, he⟩ := List.append_inj' h rfl
    cases he
    exact Or.inl ⟨hj.symm, rfl, rfl⟩
  · rw [← List.cons_append, ← List.append_assoc] at h
    obtain ⟨hj, he⟩ := List.append_inj' h rfl
    cases he
    exact Or.inr ⟨rest', rfl, hj⟩

omit [DecidableEq κ] in
theorem justified_nil {R : List (Sigma Value) → Sigma Value → Prop} : Justified R [] := by
  intro past e rest h
  simp at h

omit [DecidableEq κ] in
/-- An event is allowed by what is there. -/
theorem Justified.concat {R : List (Sigma Value) → Sigma Value → Prop}
    {journal : List (Sigma Value)} {e : Sigma Value} (h : Justified R journal)
    (he : R journal e) : Justified R (journal ++ [e]) := by
  intro past e' rest heq
  rcases concat_eq_append_cons heq with ⟨rfl, rfl, -⟩ | ⟨rest', -, hj⟩
  · exact he
  · exact h past e' rest' hj

/-- What the journal projects to at a key: its last event there. -/
theorem foldl_project_eq_some (journal : List (Sigma Value)) {k : κ} {v : Value k} :
    journal.foldl project (fun _ => none) k = some v
      ↔ ∃ past rest, journal = past ++ ⟨k, v⟩ :: rest ∧ ∀ e ∈ rest, e.1 ≠ k := by
  induction journal using List.reverseRecOn with
  | nil => simp
  | append_singleton journal e ih =>
    rw [List.foldl_concat]
    obtain ⟨k', v'⟩ := e
    by_cases hk : k = k'
    · subst hk
      rw [project_self]
      constructor
      · intro h
        cases h
        exact ⟨journal, [], rfl, by simp⟩
      · rintro ⟨past, rest, heq, hrest⟩
        rcases concat_eq_append_cons heq with ⟨-, hx, -⟩ | ⟨rest', rfl, -⟩
        · cases hx
          rfl
        · exact absurd rfl (hrest ⟨k, v'⟩ (by simp))
    · rw [project_ne _ _ hk, ih]
      constructor
      · rintro ⟨past, rest, rfl, hrest⟩
        refine ⟨past, rest ++ [⟨k', v'⟩], by simp, fun e he => ?_⟩
        rcases List.mem_append.mp he with he | he
        · exact hrest e he
        · rw [List.mem_singleton.mp he]
          exact fun h => hk h.symm
      · rintro ⟨past, rest, heq, hrest⟩
        rcases concat_eq_append_cons heq with ⟨-, hx, -⟩ | ⟨rest', rfl, hj⟩
        · exact absurd (congrArg Sigma.fst hx) hk
        · exact ⟨past, rest', hj, fun e he => hrest e (List.mem_append_left _ he)⟩

/-- **The value of a key is its last event.** -/
theorem Faithful.get_eq_some_iff (h : s.Faithful) {v : Value k} :
    s.get k = some v
      ↔ ∃ past rest, s.journal = past ++ ⟨k, v⟩ :: rest ∧ ∀ e ∈ rest, e.1 ≠ k := by
  rw [← foldl_project_eq_some, show s.journal.foldl project (fun _ => none) = s.view from h]
  rfl

theorem Faithful.mem_of_get (h : s.Faithful) {v : Value k} (hg : s.get k = some v) :
    ⟨k, v⟩ ∈ s.journal := by
  obtain ⟨past, rest, heq, -⟩ := h.get_eq_some_iff.mp hg
  rw [heq]
  simp

/-- A key without a value has no event. -/
theorem Faithful.not_mem_of_get (h : s.Faithful) (hg : s.get k = none) (v : Value k) :
    ⟨k, v⟩ ∉ s.journal := by
  intro hm
  have hsome : ∀ journal : List (Sigma Value), (∃ v, Sigma.mk k v ∈ journal) →
      (journal.foldl project (fun _ => none) k).isSome = true := by
    intro journal
    induction journal using List.reverseRecOn with
    | nil => simp
    | append_singleton journal e ih =>
      rintro ⟨v, hv⟩
      rw [List.foldl_concat]
      obtain ⟨k', v'⟩ := e
      by_cases hk : k = k'
      · subst hk
        rw [project_self]
        rfl
      · rw [project_ne _ _ hk]
        refine ih ⟨v, ?_⟩
        rcases List.mem_append.mp hv with hv | hv
        · exact hv
        · exact absurd (congrArg Sigma.fst (List.mem_singleton.mp hv)) hk
  have hs := hsome s.journal ⟨v, hm⟩
  rw [show s.journal.foldl project (fun _ => none) = s.view from h] at hs
  rw [show s.view k = none from hg] at hs
  cases hs

/-- **The table is above its past.** Where every event of a key was above the
earlier ones, so is the value of the key. -/
theorem Justified.latest {R : List (Sigma Value) → Sigma Value → Prop}
    (hj : Justified R s.journal) (h : s.Faithful) {L : Value k → Value k → Prop}
    (hle : ∀ past v, R past ⟨k, v⟩ → ∀ u, ⟨k, u⟩ ∈ past → L u v) (hrefl : ∀ v, L v v)
    {v : Value k} (hg : s.get k = some v) : ∀ u, ⟨k, u⟩ ∈ s.journal → L u v := by
  intro u hu
  obtain ⟨past, rest, heq, hrest⟩ := h.get_eq_some_iff.mp hg
  rw [heq] at hu
  rcases List.mem_append.mp hu with hu | hu
  · exact hle past v (hj past _ rest heq) u hu
  · rcases List.mem_cons.mp hu with hu | hu
    · cases hu
      exact hrefl v
    · exact absurd rfl (hrest _ hu)

/-- **A key that is written once** has the value of its only event. -/
theorem Justified.get_of_mem {R : List (Sigma Value) → Sigma Value → Prop}
    (hj : Justified R s.journal) (h : s.Faithful)
    (honce : ∀ past v, R past ⟨k, v⟩ → ∀ u, ⟨k, u⟩ ∉ past) {v : Value k}
    (hm : ⟨k, v⟩ ∈ s.journal) : s.get k = some v := by
  cases hg : s.get k with
  | none => exact absurd hm (h.not_mem_of_get hg v)
  | some u =>
    have he := hj.latest h (L := Eq) (fun past v hr u hu => absurd hu (honce past v hr u))
      (fun _ => rfl) hg v hm
    rw [he]

end Projections

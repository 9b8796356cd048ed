import Mathlib

/-!
# Thinning a stream

A stream of entries is thinned by dropping entries that say again what the entry before
them said. `Thins P` is that relation: an entry may be dropped only where it is quiet, the
entry directly before it in the stream was quiet as well, and something follows it.

What is thinned and thinned again is thinned at once (`Thins.trans`), although the second
pass sees other neighbours than the first: whatever stood between two entries and was
dropped was quiet. So nothing is said about one pass only. The first and the last entry
stay, every entry that is not quiet stays, and the stream without its repetitions is what it
was (`Thins.destutter_map`).
-/

/-- **One stream is another, thinned**, after an entry. -/
inductive Thins {α : Type*} (P : α → Prop) : Option α → List α → List α → Prop where
  | nil (before : Option α) : Thins P before [] []
  | keep {before : Option α} {x : α} {l l' : List α} (h : Thins P (some x) l l') :
    Thins P before (x :: l) (x :: l')
  | drop {p x : α} {l l' : List α} (hp : P p) (hx : P x) (hl : l ≠ [])
    (h : Thins P (some x) l l') : Thins P (some p) (x :: l) l'

namespace Thins

variable {α β : Type*} {P : α → Prop} {before before' : Option α} {l l' l'' : List α} {x : α}

protected theorem refl (before : Option α) (l : List α) : Thins P before l l := by
  induction l generalizing before with
  | nil => exact .nil before
  | cons x l ih => exact .keep (ih (some x))

protected theorem sublist (h : Thins P before l l') : l'.Sublist l := by
  induction h with
  | nil => exact .refl _
  | keep _ ih => exact ih.cons_cons _
  | drop _ _ _ _ ih => exact ih.cons _

/-- Nothing is thinned to nothing. -/
theorem ne_nil (h : Thins P before l l') (hl : l ≠ []) : l' ≠ [] := by
  induction h with
  | nil => exact hl
  | keep _ _ => exact List.cons_ne_nil _ _
  | drop _ _ hrest _ ih => exact ih hrest

/-- **Thinned and thinned again.** The two passes may have seen other entries before: it is
enough that a quiet one for the second was a quiet one for the first. -/
theorem comp (h : Thins P before l l') (h' : Thins P before' l' l'')
    (hbefore : (∃ p ∈ before', P p) → ∃ p ∈ before, P p) : Thins P before l l'' := by
  induction h generalizing before' l'' with
  | nil => cases h' with
    | nil => exact .nil _
  | @keep before x l l' h ih =>
    cases h' with
    | keep h' => exact .keep (ih h' id)
    | @drop p _ _ _ hp hx hl h' =>
      obtain ⟨q, hq, hquiet⟩ := hbefore ⟨p, rfl, hp⟩
      cases hq
      refine .drop hquiet hx ?_ (ih h' id)
      rintro rfl
      cases h
      exact hl rfl
  | @drop p x l l' hp hx hl h ih =>
    exact .drop hp hx hl (ih h' (fun _ => ⟨x, rfl, hx⟩))

protected theorem trans (h : Thins P none l l') (h' : Thins P none l' l'') : Thins P none l l'' :=
  h.comp h' id

/-- A new entry comes after all that is left. -/
theorem concat (h : Thins P before l l') (x : α) : Thins P before (l ++ [x]) (l' ++ [x]) := by
  induction h with
  | nil => exact .keep (.nil _)
  | keep _ ih => exact .keep ih
  | drop hp hx _ _ ih => exact .drop hp hx (by simp) ih

/-- **The first entry stays.** -/
theorem head?_eq (h : Thins P none l l') : l'.head? = l.head? := by
  cases h with
  | nil => rfl
  | keep _ => rfl

/-- **The last entry stays.** -/
theorem getLast?_eq (h : Thins P before l l') : l'.getLast? = l.getLast? := by
  induction h with
  | nil => rfl
  | @keep before x l l' h ih =>
    rcases eq_or_ne l [] with rfl | hl
    · cases h
      rfl
    · rw [List.getLast?_cons_of_ne_nil hl, List.getLast?_cons_of_ne_nil (h.ne_nil hl), ih]
  | drop _ _ hl _ ih => rw [List.getLast?_cons_of_ne_nil hl, ih]

/-- The entry before the next one. -/
theorem before_cons : (x :: l).getLast?.or before = l.getLast?.or (some x) := by
  rw [List.getLast?_cons]
  cases l.getLast? <;> rfl

/-- **What stays**: an entry that is not quiet, or comes after one that is not. -/
theorem mem (h : Thins P none l l') {l₁ l₂ : List α} (hl : l = l₁ ++ x :: l₂)
    (hx : ¬ P x ∨ ∀ p ∈ l₁.getLast?, ¬ P p) : x ∈ l' := by
  have hgeneral : ∀ {before : Option α} {l l' l₁ : List α}, Thins P before l l' →
      l = l₁ ++ x :: l₂ → (¬ P x ∨ ∀ p ∈ l₁.getLast?.or before, ¬ P p) → x ∈ l' := by
    intro before l l' l₁ h
    induction h generalizing l₁ with
    | nil =>
      intro hl
      cases l₁ <;> cases hl
    | @keep before y l l' h ih =>
      intro hl hx
      cases l₁ with
      | nil =>
        cases hl
        exact List.mem_cons_self
      | cons z l₁ =>
        cases hl
        rw [before_cons] at hx
        exact List.mem_cons_of_mem _ (ih rfl hx)
    | @drop p y l l' hp hy _ h ih =>
      intro hl hx
      cases l₁ with
      | nil =>
        cases hl
        rcases hx with hx | hx
        · exact absurd hy hx
        · exact absurd hp (hx p rfl)
      | cons z l₁ =>
        cases hl
        rw [before_cons] at hx
        exact ih rfl hx
  refine hgeneral h hl ?_
  rw [Option.or_none]
  exact hx

/-- **Without its repetitions the stream is what it was**, where quiet entries all read the
same. -/
theorem destutter_map [DecidableEq β] {f : α → β} (hf : ∀ a b, P a → P b → f a = f b)
    (h : Thins P none l l') :
    (l'.map f).destutter (· ≠ ·) = (l.map f).destutter (· ≠ ·) := by
  have hgeneral : ∀ {before : Option α} {l l' : List α}, Thins P before l l' →
      ∀ p ∈ before, (l'.map f).destutter' (· ≠ ·) (f p) = (l.map f).destutter' (· ≠ ·) (f p) := by
    intro before l l' h
    induction h with
    | nil => exact fun _ _ => rfl
    | @keep before x l l' h ih =>
      intro p _
      rw [List.map_cons, List.map_cons, List.destutter'_cons, List.destutter'_cons]
      split_ifs with hne
      · rw [ih x rfl]
      · rw [not_ne_iff.mp hne]
        exact ih x rfl
    | @drop p x l l' hp hx _ h ih =>
      intro q hq
      cases hq
      rw [List.map_cons, List.destutter'_cons_neg, hf p x hp hx]
      · exact ih x rfl
      · exact not_ne_iff.mpr (hf p x hp hx)
  cases h with
  | nil => rfl
  | @keep _ x l l' h => exact hgeneral h x rfl

/-- **Where a filter thins**: what it drops is quiet, follows something quiet and is followed
by something. -/
theorem of_filter {keep : α → Bool} (l : List α)
    (h : ∀ l₁ x l₂, l = l₁ ++ x :: l₂ → keep x = false →
      P x ∧ (∃ p ∈ l₁.getLast?, P p) ∧ l₂ ≠ []) :
    Thins P none l (l.filter keep) := by
  have hgeneral : ∀ (before l : List α), (∀ l₁ x l₂, l = l₁ ++ x :: l₂ → keep x = false →
      P x ∧ (∃ p ∈ (before ++ l₁).getLast?, P p) ∧ l₂ ≠ []) →
      Thins P before.getLast? l (l.filter keep) := by
    intro before l
    induction l generalizing before with
    | nil => exact fun _ => .nil _
    | cons x l ih =>
      intro h
      have hrest : Thins P (some x) l (l.filter keep) := by
        have hlater := ih (before ++ [x]) (fun l₁ y l₂ hl hy => by
          have hy' := h (x :: l₁) y l₂ (by rw [hl]; rfl) hy
          rwa [List.append_assoc, List.singleton_append])
        rwa [List.getLast?_concat] at hlater
      cases hkeep : keep x with
      | true =>
        rw [List.filter_cons_of_pos hkeep]
        exact .keep hrest
      | false =>
        obtain ⟨hx, ⟨p, hp, hquiet⟩, hl⟩ := h [] x l rfl hkeep
        rw [List.append_nil] at hp
        rw [List.filter_cons_of_neg (by rw [hkeep]; exact Bool.false_ne_true), hp]
        exact .drop hquiet hx hl hrest
  exact hgeneral [] l (by simpa using h)

end Thins

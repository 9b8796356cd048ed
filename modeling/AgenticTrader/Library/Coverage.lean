import Mathlib.Data.Finset.Card
import Mathlib.Data.List.Nodup

/-!
# Families and who owns them

A finite set grown by a step until the step adds nothing (`saturate`) is the
least set that holds the first one and is closed under the step, as long as
there is enough fuel for the room there is to grow.

The elements of a list take their sets one after the other (`Taking`), each of
them apart from what was taken before: then what was taken in the end has
exactly one owner in the list (`Taking.existsUnique`).
-/

namespace Coverage

section Saturation

variable {α : Type*} [DecidableEq α] {step : Finset α → Finset α} {s : Finset α} {fuel : ℕ}

/-- **Repeat a step until it changes nothing**, at most so many times. -/
def saturate (step : Finset α → Finset α) : ℕ → Finset α → Finset α
  | 0, s => s
  | fuel + 1, s => if step s = s then s else saturate step fuel (step s)

/-- What the step keeps, holds of the result. -/
theorem saturate_induction {P : Finset α → Prop} (hstep : ∀ s, P s → P (step s)) (hs : P s) :
    P (saturate step fuel s) := by
  induction fuel generalizing s with
  | zero => exact hs
  | succ fuel ih =>
    unfold saturate
    split
    · exact hs
    · exact ih (hstep s hs)

/-- **The loop that stops when the step changes nothing**, with the number of
its rounds and the set it returns. -/
inductive Saturates (step : Finset α → Finset α) : ℕ → Finset α → Finset α → Prop where
  | done {s : Finset α} (h : step s = s) : Saturates step 1 s s
  | again {n : ℕ} {s t : Finset α} (h : step s ≠ s) (hrest : Saturates step n (step s) t) :
      Saturates step (n + 1) s t

omit [DecidableEq α] in
/-- What the loop returns is closed under the step. -/
theorem Saturates.closed {n : ℕ} {t : Finset α} (h : Saturates step n s t) : step t = t := by
  induction h with
  | done h => exact h
  | again _ _ ih => exact ih

omit [DecidableEq α] in
/-- The loop returns one set, after one number of rounds. -/
theorem Saturates.unique {n m : ℕ} {t u : Finset α} (h : Saturates step n s t)
    (h' : Saturates step m s u) : n = m ∧ t = u := by
  induction h generalizing m with
  | done h =>
    cases h' with
    | done => exact ⟨rfl, rfl⟩
    | again hmoved => exact absurd h hmoved
  | again hmoved _ ih =>
    cases h' with
    | done h => exact absurd h hmoved
    | again _ hrest =>
      obtain ⟨rfl, ht⟩ := ih hrest
      exact ⟨rfl, ht⟩

/-- **The loop ends**, when the fuel covers the room that is left: each round
but the last one takes some of it. -/
theorem saturates_saturate (room : Finset α) (hgrow : ∀ s, s ⊆ step s)
    (hroom : ∀ s ⊆ room, step s ⊆ room) (hs : s ⊆ room)
    (hfuel : room.card ≤ s.card + fuel) :
    ∃ n ≤ fuel + 1, Saturates step n s (saturate step fuel s) := by
  induction fuel generalizing s with
  | zero =>
    have hfull : s = room := Finset.eq_of_subset_of_card_le hs (by omega)
    have hfix : step s = s := (Finset.Subset.antisymm (hgrow s) (hfull ▸ hroom s hs)).symm
    exact ⟨1, le_rfl, Saturates.done hfix⟩
  | succ fuel ih =>
    unfold saturate
    split
    · rename_i hfix
      exact ⟨1, by omega, Saturates.done hfix⟩
    · rename_i hmoved
      have hlt : s.card < (step s).card :=
        Finset.card_lt_card ((hgrow s).ssubset_of_ne (fun h => hmoved h.symm))
      obtain ⟨n, hn, hrest⟩ := ih (hroom s hs) (by omega)
      exact ⟨n + 1, by omega, Saturates.again hmoved hrest⟩

theorem subset_saturate (hgrow : ∀ s, s ⊆ step s) : s ⊆ saturate step fuel s :=
  saturate_induction (fun _ h => h.trans (hgrow _)) (Finset.Subset.refl s)

end Saturation

section Taking

variable {α β : Type*} [DecidableEq β]

/-- **The elements take their sets in turn**, each disjoint from what is
already taken. -/
inductive Taking (claims : α → Finset β) : List α → Finset β → Finset β → Prop where
  | nil (s : Finset β) : Taking claims [] s s
  | cons {a : α} {l : List α} {s t : Finset β} (hnew : Disjoint (claims a) s)
      (hrest : Taking claims l (s ∪ claims a) t) : Taking claims (a :: l) s t

variable {claims : α → Finset β} {l : List α} {s t : Finset β} {b : β}

/-- What is taken was taken by somebody. -/
theorem Taking.mem_or (h : Taking claims l s t) (hb : b ∈ t) : b ∈ s ∨ ∃ a ∈ l, b ∈ claims a := by
  induction h with
  | nil => exact Or.inl hb
  | cons hnew _ ih =>
    rcases ih hb with hs | ⟨a, ha, hmem⟩
    · rcases Finset.mem_union.mp hs with hs | ha
      · exact Or.inl hs
      · exact Or.inr ⟨_, List.mem_cons_self, ha⟩
    · exact Or.inr ⟨a, List.mem_cons_of_mem _ ha, hmem⟩

/-- Nobody takes what was taken before. -/
theorem Taking.disjoint (h : Taking claims l s t) : ∀ a ∈ l, Disjoint (claims a) s := by
  induction h with
  | nil => simp
  | cons hnew _ ih =>
    rw [List.forall_mem_cons]
    exact ⟨hnew, fun a ha => (ih a ha).mono_right Finset.subset_union_left⟩

/-- No two take the same. -/
theorem Taking.pairwise (h : Taking claims l s t) :
    l.Pairwise (fun a a' => Disjoint (claims a) (claims a')) := by
  induction h with
  | nil => exact List.Pairwise.nil
  | cons _ hrest ih =>
    refine List.pairwise_cons.mpr ⟨fun a ha => ?_, ih⟩
    exact ((hrest.disjoint a ha).mono_right Finset.subset_union_right).symm

/-- **What was taken has exactly one owner.** -/
theorem Taking.existsUnique (h : Taking claims l ∅ t) (hb : b ∈ t) :
    ∃! i : ℕ, ∃ a, l[i]? = some a ∧ b ∈ claims a := by
  obtain ⟨a, ha, hmem⟩ := (h.mem_or hb).resolve_left (Finset.notMem_empty b)
  obtain ⟨i, hi, rfl⟩ := List.getElem_of_mem ha
  refine ⟨i, ⟨_, List.getElem?_eq_getElem hi, hmem⟩, ?_⟩
  rintro j ⟨a', ha', hmem'⟩
  obtain ⟨hj, rfl⟩ := List.getElem?_eq_some_iff.mp ha'
  have hpair := List.pairwise_iff_getElem.mp h.pairwise
  rcases lt_trichotomy j i with hlt | heq | hlt
  · exact absurd hmem (Finset.disjoint_left.mp (hpair j i hj hi hlt) hmem')
  · exact heq
  · exact absurd hmem' (Finset.disjoint_left.mp (hpair i j hi hj hlt) hmem)

end Taking

end Coverage

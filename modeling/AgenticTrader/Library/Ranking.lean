import Mathlib.Data.List.Sort
import Mathlib.Data.List.TakeDrop
import Mathlib.Order.Defs.LinearOrder

/-!
# The best of a list

`best key k l` sorts a list by a key and takes the first `k`. `IsBest` says what that is for,
without the list: some names out of those available, all of them where fewer than `k` were
taken, and none left out that comes before one that was taken.

Where no two names have one key, the best do not depend on the order of the list, and they
move with a renaming of the names that keeps the keys (`best_map`).
-/

namespace Ranking

variable {α β κ : Type*} [LinearOrder κ]

/-- **The first `k` by a key**; of equal keys the earlier one comes first. -/
def best (key : α → κ) (k : ℕ) (l : List α) : List α :=
  (l.insertionSort (fun a b => key a ≤ key b)).take k

/-- **Some names are the best of those available.** -/
structure IsBest (key : α → κ) (k : ℕ) (available : α → Prop) (picked : List α) : Prop where
  nodup : picked.Nodup
  length_le : picked.length ≤ k
  mem_available : ∀ a ∈ picked, available a
  complete : picked.length < k → ∀ a, available a → a ∈ picked
  first : ∀ a ∈ picked, ∀ b, available b → b ∉ picked → ¬ key b < key a

variable {key : α → κ} {k : ℕ} {l l' : List α}

theorem pairwise_sorted (key : α → κ) (l : List α) :
    (l.insertionSort (fun a b => key a ≤ key b)).Pairwise (fun a b => key a ≤ key b) := by
  have : Std.Total (fun a b : α => key a ≤ key b) := ⟨fun a b => le_total (key a) (key b)⟩
  have : IsTrans α (fun a b => key a ≤ key b) := ⟨fun _ _ _ => le_trans⟩
  exact List.pairwise_insertionSort _ l

theorem length_best (key : α → κ) (k : ℕ) (l : List α) :
    (best key k l).length = min k l.length := by
  unfold best
  rw [List.length_take, List.length_insertionSort]

/-- **What is taken is the best.** -/
theorem isBest_best (key : α → κ) (k : ℕ) (hl : l.Nodup) :
    IsBest key k (· ∈ l) (best key k l) := by
  have hperm := List.perm_insertionSort (fun a b => key a ≤ key b) l
  have hsplit := List.take_append_drop k (l.insertionSort (fun a b => key a ≤ key b))
  refine ⟨?_, ?_, ?_, ?_, ?_⟩
  · exact (hperm.nodup_iff.mpr hl).sublist (List.take_sublist _ _)
  · rw [length_best]
    exact min_le_left _ _
  · exact fun a ha => hperm.mem_iff.mp (List.mem_of_mem_take ha)
  · intro hlt a ha
    have hle : (l.insertionSort (fun a b => key a ≤ key b)).length ≤ k := by
      rw [length_best] at hlt
      rw [List.length_insertionSort]
      omega
    unfold best
    rw [List.take_of_length_le hle]
    exact hperm.mem_iff.mpr ha
  · intro a ha b hb hout
    -- what is left out comes later in the sorted list
    have hdropped : b ∈ (l.insertionSort (fun a b => key a ≤ key b)).drop k := by
      have hmem := hperm.mem_iff.mpr hb
      rw [← hsplit, List.mem_append] at hmem
      exact hmem.resolve_left hout
    have hsorted := pairwise_sorted key l
    rw [← hsplit] at hsorted
    exact not_lt.mpr ((List.pairwise_append.mp hsorted).2.2 a ha b hdropped)

/-- With distinct keys the order of the list does not matter. -/
theorem best_perm (hkey : ∀ a ∈ l, ∀ b ∈ l, key a = key b → a = b) (h : l.Perm l') (k : ℕ) :
    best key k l = best key k l' := by
  have hsorted : l.insertionSort (fun a b => key a ≤ key b)
      = l'.insertionSort (fun a b => key a ≤ key b) := by
    have hleft := List.perm_insertionSort (fun a b => key a ≤ key b) l
    have hright := List.perm_insertionSort (fun a b => key a ≤ key b) l'
    refine List.Perm.eq_of_pairwise ?_ (pairwise_sorted key l) (pairwise_sorted key l')
      (hleft.trans (h.trans hright.symm))
    intro a b ha hb hab hba
    exact hkey a (hleft.mem_iff.mp ha) b (h.mem_iff.mpr (hright.mem_iff.mp hb))
      (le_antisymm hab hba)
  unfold best
  rw [hsorted]

/-- **Renamed names**, with the keys of the names they were. -/
theorem best_map {key' : β → κ} (f : α → β) (hf : ∀ a ∈ l, key' (f a) = key a) (k : ℕ) :
    best key' k (l.map f) = (best key k l).map f := by
  unfold best
  rw [List.map_take, List.map_insertionSort (fun a b => key a ≤ key b) (fun a b => key' a ≤ key' b)]
  intro a ha b hb
  rw [hf a ha, hf b hb]

end Ranking

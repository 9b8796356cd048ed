import Mathlib

/-!
# Sweeping a timeline in batches

A sweep looks at the items of a timeline whose time lies after a mark and is
not in the future, handles at most a given number of them, oldest first, and
moves its mark: to now where it handled all that were due, and to the time of
the last one it handled where it did not.

What makes such a sweep complete is `mem_take_of_le_frontier`: no due item at
or before the new mark was left out. The timeline has to be in strict order of
time.

Where times may coincide, a batch is a page: the first items after the mark in
some ascending order. It holds everything before the time of its last item, and
everything there is when it is short.
-/

namespace Sweep

variable {α τ : Type*} [LinearOrder τ]

/-- The items whose time lies after a mark and is not in the future. -/
def due (time : α → τ) (since now : τ) (items : List α) : List α :=
  items.filter (fun x => decide (since < time x ∧ time x ≤ now))

/-- **Where the mark moves**, when at most `limit` of the due items are
handled. -/
def frontier (time : α → τ) (limit : ℕ) (now : τ) (due : List α) : τ :=
  if limit < due.length then (due[limit - 1]?.map time).getD now else now

variable {time : α → τ} {since now t : τ} {items l : List α} {limit : ℕ} {x : α}

theorem mem_due : x ∈ due time since now items ↔ x ∈ items ∧ since < time x ∧ time x ≤ now := by
  simp [due]

theorem due_pairwise (h : items.Pairwise (fun x y => time x < time y)) :
    (due time since now items).Pairwise (fun x y => time x < time y) :=
  h.filter _

omit [LinearOrder τ] in
/-- A mark that stops short stops at an item. -/
theorem frontier_eq (hpos : 1 ≤ limit) (h : limit < l.length) :
    frontier time limit now l = time (l.get ⟨limit - 1, by omega⟩) := by
  unfold frontier
  rw [if_pos h, List.getElem?_eq_getElem (by omega)]
  rfl

/-- In strict order of time, the first items are those no later than the last
of them. -/
theorem mem_take_of_le (hs : l.Pairwise (fun x y => time x < time y)) (hpos : 1 ≤ limit)
    (hl : limit < l.length) (hx : x ∈ l) (hle : time x ≤ time (l.get ⟨limit - 1, by omega⟩)) :
    x ∈ l.take limit := by
  obtain ⟨j, hj, rfl⟩ := List.getElem_of_mem hx
  rcases Nat.lt_or_ge j limit with hlt | hge
  · exact List.mem_take_iff_getElem.mpr ⟨j, by omega, rfl⟩
  · have hlater := List.pairwise_iff_getElem.mp hs (limit - 1) j (by omega) hj (by omega)
    exact absurd hle (not_le.mpr hlater)

/-- **No due item at or before the new mark is left out.** -/
theorem mem_take_of_le_frontier (hs : l.Pairwise (fun x y => time x < time y)) (hpos : 1 ≤ limit)
    (hx : x ∈ l) (hle : time x ≤ frontier time limit now l) : x ∈ l.take limit := by
  rcases Nat.lt_or_ge limit l.length with hl | hl
  · rw [frontier_eq hpos hl] at hle
    exact mem_take_of_le hs hpos hl hx hle
  · rw [List.take_of_length_le hl]
    exact hx

/-- What lies at or before the new mark is not in the future, and where the
batch was cut short it is no later than something in it. -/
theorem of_le_frontier (hpos : 1 ≤ limit) (hnow : ∀ x ∈ l, time x ≤ now)
    (hle : t ≤ frontier time limit now l) :
    t ≤ now ∧ (limit < l.length → ∃ x ∈ l.take limit, t ≤ time x) := by
  rcases Nat.lt_or_ge limit l.length with hl | hl
  · rw [frontier_eq hpos hl] at hle
    refine ⟨le_trans hle (hnow _ (List.get_mem ..)), fun _ => ⟨_, ?_, hle⟩⟩
    exact List.mem_take_iff_getElem.mpr ⟨limit - 1, by omega, rfl⟩
  · unfold frontier at hle
    rw [if_neg (by omega)] at hle
    exact ⟨hle, fun h => absurd h (by omega)⟩

/-! ## Pages of a timeline with ties -/

/-- **A page**: the first items after a mark, in an ascending order of time. How
items of one time are ordered is left open. -/
def IsPage (time : α → τ) (items : List α) (limit : ℕ) (since : τ) (page : List α) : Prop :=
  ∃ listing : List α, listing.Perm (items.filter (fun x => decide (since < time x)))
    ∧ listing.Pairwise (fun x y => time x ≤ time y) ∧ page = listing.take limit

namespace IsPage

variable {page : List α} {last : α}

theorem mem_items (h : IsPage time items limit since page) (hx : x ∈ page) : x ∈ items := by
  obtain ⟨listing, hperm, -, rfl⟩ := h
  exact List.mem_of_mem_filter (hperm.mem_iff.mp (List.mem_of_mem_take hx))

/-- A page that is short is all there is. -/
theorem mem_of_short (h : IsPage time items limit since page) (hshort : page.length < limit)
    (hx : x ∈ items) (hsince : since < time x) : x ∈ page := by
  obtain ⟨listing, hperm, -, rfl⟩ := h
  have hmem : x ∈ listing := hperm.mem_iff.mpr (List.mem_filter.mpr ⟨hx, by simpa using hsince⟩)
  rw [List.length_take] at hshort
  rwa [List.take_of_length_le (by omega)]

/-- What comes before an item of the page is on the page. -/
theorem mem_of_lt (h : IsPage time items limit since page) (hlast : last ∈ page)
    (hx : x ∈ items) (hsince : since < time x) (hlt : time x < time last) : x ∈ page := by
  obtain ⟨listing, hperm, hsorted, rfl⟩ := h
  have hmem : x ∈ listing := hperm.mem_iff.mpr (List.mem_filter.mpr ⟨hx, by simpa using hsince⟩)
  rw [← List.take_append_drop limit listing] at hsorted hmem
  rcases List.mem_append.mp hmem with htake | hdrop
  · exact htake
  · have hle := (List.pairwise_append.mp hsorted).2.2 last hlast x hdrop
    exact absurd hlt (not_lt.mpr hle)

end IsPage

end Sweep

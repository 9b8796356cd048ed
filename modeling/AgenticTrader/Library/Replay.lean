import Mathlib.Data.List.Basic

/-!
# Replaying a journal

A view is kept beside a journal: every event is appended to the journal and
projected onto the view, and an event that arrives again is projected again
without being appended. The view can be rebuilt by projecting the journal
from the start. The two agree when no event of the journal has anything left
to do to the view (`Replays.settled`), and that is what a projection has to
keep: that projecting a new event leaves every older one settled.

A projection may fail, and then the transaction it is part of does not
happen.
-/

variable {σ ε : Type*}

/-- **The view is what the journal replays to**, and no journaled event would
change it. -/
structure Replays (project : σ → ε → Option σ) (start : σ) (journal : List ε) (view : σ) :
    Prop where
  replay : journal.foldlM project start = some view
  settled : ∀ e ∈ journal, project view e = some view

namespace Replays

variable {project : σ → ε → Option σ} {start view view' : σ} {journal : List ε} {e : ε}

/-- Nothing was journaled yet. -/
theorem nil : Replays project start [] start :=
  ⟨rfl, fun _ h => by cases h⟩

/-- **A new event**: it is journaled and projected, after which it and every
older event are settled. -/
theorem append (h : Replays project start journal view) (hp : project view e = some view')
    (hself : project view' e = some view')
    (hold : ∀ x ∈ journal, project view x = some view → project view' x = some view') :
    Replays project start (journal ++ [e]) view' where
  replay := by
    rw [List.foldlM_append, h.replay]
    simpa using hp
  settled := by
    intro x hx
    rcases List.mem_append.mp hx with hx | hx
    · exact hold x hx (h.settled x hx)
    · rw [List.mem_singleton.mp hx]
      exact hself

/-- An event that arrives again changes nothing. -/
theorem again (h : Replays project start journal view) (he : e ∈ journal)
    (hp : project view e = some view') : view' = view :=
  (Option.some.inj ((h.settled e he).symm.trans hp)).symm

end Replays

/-! ## What a transaction journals -/

/-- **A transaction that journals what it does to the view**: the journal grew
by some events, and these events project the view before onto the view
after. -/
def Journals (project : σ → ε → Option σ) (before after : List ε × σ) : Prop :=
  ∃ events, after.1 = before.1 ++ events ∧ events.foldlM project before.2 = some after.2

namespace Journals

variable {project : σ → ε → Option σ} {start : σ} {a b c : List ε × σ}

/-- Nothing was done, and nothing journaled. -/
theorem refl (a : List ε × σ) : Journals project a a :=
  ⟨[], by simp, by simp⟩

/-- One event. -/
theorem single {e : ε} {view : σ} (h : project a.2 e = some view) :
    Journals project a (a.1 ++ [e], view) :=
  ⟨[e], rfl, by simpa using h⟩

theorem trans (h : Journals project a b) (h' : Journals project b c) :
    Journals project a c := by
  obtain ⟨es, hes, hview⟩ := h
  obtain ⟨fs, hfs, hview'⟩ := h'
  refine ⟨es ++ fs, by rw [hfs, hes, List.append_assoc], ?_⟩
  rw [List.foldlM_append, hview]
  exact hview'

/-- **A view that is the replay of its journal stays so.** -/
theorem replay (h : Journals project a b) (ha : a.1.foldlM project start = some a.2) :
    b.1.foldlM project start = some b.2 := by
  obtain ⟨es, hes, hview⟩ := h
  rw [hes, List.foldlM_append, ha]
  exact hview

/-- A loop each turn of which journals what it does. -/
theorem foldl {α β : Type*} (f : β → α → β) (state : β → List ε × σ) {items : List α}
    (h : ∀ x ∈ items, ∀ b, Journals project (state b) (state (f b x))) (b : β) :
    Journals project (state b) (state (items.foldl f b)) := by
  induction items generalizing b with
  | nil => exact refl _
  | cons x items ih =>
    exact (h x (by simp) b).trans (ih (fun y hy => h y (by simp [hy])) (f b x))

end Journals

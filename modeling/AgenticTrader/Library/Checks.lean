import Mathlib.Data.Fin.Tuple.Basic
import Mathlib.Data.List.Forall2

/-!
# Computations that raise

A function that checks its input raises a text at the first check that fails.
It is a computation in `Except String`; its checks are `refuse`, and the rules
below take a run that returned apart, into the checks that it passed and the
values that it computed on the way.
-/

namespace Checks

/-- Raise when the condition holds. -/
def refuse (condition : Bool) (message : String) : Except String Unit :=
  if condition then .error message else .ok ()

variable {α β : Type} {a : α}

theorem refuse_bind_eq_ok {condition : Bool} {message : String}
    {next : Unit → Except String α} :
    (refuse condition message >>= next) = .ok a ↔ condition = false ∧ next () = .ok a := by
  unfold refuse
  cases condition <;> simp [Bind.bind, Except.bind]

theorem except_bind_eq_ok {step : Except String β} {next : β → Except String α} :
    (step >>= next) = .ok a ↔ ∃ b, step = .ok b ∧ next b = .ok a := by
  cases step <;> simp [Bind.bind, Except.bind]

/-- **A map that returned** returned at every element. -/
theorem mapM_eq_ok {f : α → Except String β} {l : List α} {l' : List β} :
    l.mapM f = .ok l' ↔ List.Forall₂ (fun x y => f x = .ok y) l l' := by
  induction l generalizing l' with
  | nil =>
    rw [List.mapM_nil, List.forall₂_nil_left_iff]
    exact ⟨fun h => by cases h; rfl, fun h => by rw [h]; rfl⟩
  | cons x l ih =>
    rw [List.mapM_cons, except_bind_eq_ok]
    constructor
    · rintro ⟨y, hy, h⟩
      obtain ⟨ys, hys, h⟩ := except_bind_eq_ok.mp h
      cases h
      exact List.Forall₂.cons hy (ih.mp hys)
    · rintro (_ | ⟨hy, h⟩)
      exact ⟨_, hy, except_bind_eq_ok.mpr ⟨_, ih.mpr h, rfl⟩⟩

/-- A map returns when it returns at every element. -/
theorem mapM_returns {f : α → Except String β} {l : List α} :
    (∃ l', l.mapM f = .ok l') ↔ ∀ x ∈ l, ∃ y, f x = .ok y := by
  induction l with
  | nil => exact ⟨fun _ => nofun, fun _ => ⟨[], rfl⟩⟩
  | cons x l ih =>
    rw [List.forall_mem_cons, ← ih]
    constructor
    · rintro ⟨l', h⟩
      rcases mapM_eq_ok.mp h with _ | ⟨hy, hrest⟩
      exact ⟨⟨_, hy⟩, _, mapM_eq_ok.mpr hrest⟩
    · rintro ⟨⟨y, hy⟩, ys, hys⟩
      exact ⟨y :: ys, mapM_eq_ok.mpr (List.Forall₂.cons hy (mapM_eq_ok.mp hys))⟩

/-- An entry of a map that returned. -/
theorem getElem?_of_mapM {f : α → Except String β} {l : List α} {l' : List β}
    (h : l.mapM f = .ok l') (i : ℕ) :
    (l[i]? = none ∧ l'[i]? = none) ∨ ∃ a b, l[i]? = some a ∧ l'[i]? = some b ∧ f a = .ok b := by
  have hall := mapM_eq_ok.mp h
  induction hall generalizing i with
  | nil => exact Or.inl ⟨rfl, rfl⟩
  | cons hab hrest ih =>
    cases i with
    | zero => exact Or.inr ⟨_, _, rfl, rfl, hab⟩
    | succ i => exact ih (mapM_eq_ok.mpr hrest) i

/-- Every element of the first of two related lists has a partner. -/
theorem exists_of_forall₂ {R : α → β → Prop} {l : List α} {l' : List β}
    (h : List.Forall₂ R l l') {x : α} (hx : x ∈ l) : ∃ y ∈ l', R x y := by
  induction h with
  | nil => cases hx
  | cons hxy _ ih =>
    rcases List.mem_cons.mp hx with rfl | hx
    · exact ⟨_, List.mem_cons_self, hxy⟩
    · obtain ⟨y, hy, hR⟩ := ih hx
      exact ⟨y, List.mem_cons_of_mem _ hy, hR⟩

/-- A vector, each of whose entries may raise; the first that does is raised. -/
def vectorM : {n : ℕ} → (Fin n → Except String α) → Except String (Fin n → α)
  | 0, _ => .ok Fin.elim0
  | _ + 1, f => do
    let first ← f 0
    let rest ← vectorM fun i => f i.succ
    pure (Fin.cons first rest)

/-- **A vector that returned** returned at every entry. -/
theorem vectorM_eq_ok {n : ℕ} {f : Fin n → Except String α} {g : Fin n → α}
    (h : vectorM f = .ok g) (i : Fin n) : f i = .ok (g i) := by
  induction n with
  | zero => exact i.elim0
  | succ n ih =>
    obtain ⟨first, hfirst, h⟩ := except_bind_eq_ok.mp h
    obtain ⟨rest, hrest, h⟩ := except_bind_eq_ok.mp h
    cases h
    cases i using Fin.cases with
    | zero => exact hfirst
    | succ i => exact ih hrest i

theorem filterAuxM_eq_some {p : α → Option Bool} {l kept l' : List α}
    (h : l.filterAuxM p kept = some l') :
    l' = (l.filter (fun x => p x = some true)).reverse ++ kept := by
  induction l generalizing kept with
  | nil =>
    cases h
    rfl
  | cons x l ih =>
    obtain ⟨b, hb, h⟩ := Option.bind_eq_some_iff.mp h
    have hrest := ih h
    cases b <;> simpa [hb] using hrest

/-- **A filter that can fail** keeps what it says to keep. -/
theorem filterM_eq_some {p : α → Option Bool} {l l' : List α} (h : l.filterM p = some l') :
    l' = l.filter (fun x => p x = some true) := by
  obtain ⟨kept, hkept, h⟩ := Option.bind_eq_some_iff.mp h
  cases h
  rw [filterAuxM_eq_some hkept]
  simp

/-! ## Searches -/

section Search

variable {p : α → Except String Bool} {l : List α}

/-- **A search that found an element** was false at those before it. -/
theorem findM?_eq_some (h : l.findM? p = .ok (some a)) :
    ∃ before after, l = before ++ a :: after ∧ (∀ b ∈ before, p b = .ok false)
      ∧ p a = .ok true := by
  induction l with
  | nil => cases h
  | cons x l ih =>
    obtain ⟨found, hfound, h⟩ := except_bind_eq_ok.mp h
    cases found with
    | true =>
      cases h
      exact ⟨[], l, rfl, nofun, hfound⟩
    | false =>
      obtain ⟨before, after, rfl, hbefore, ha⟩ := ih h
      exact ⟨x :: before, after, rfl, List.forall_mem_cons.mpr ⟨hfound, hbefore⟩, ha⟩

theorem findM?_eq_none : l.findM? p = .ok none ↔ ∀ x ∈ l, p x = .ok false := by
  induction l with
  | nil => exact ⟨fun _ => nofun, fun _ => rfl⟩
  | cons x l ih =>
    rw [List.findM?, except_bind_eq_ok, List.forall_mem_cons]
    constructor
    · rintro ⟨_ | _, hx, h⟩
      · exact ⟨hx, ih.mp h⟩
      · cases h
    · rintro ⟨hx, hl⟩
      exact ⟨false, hx, ih.mpr hl⟩

/-- **A search returns** when it returns at every element it reaches. -/
theorem findM?_returns : (∃ found, l.findM? p = .ok found)
    ↔ ∀ before x after, l = before ++ x :: after → (∀ b ∈ before, p b = .ok false) →
      ∃ found, p x = .ok found := by
  induction l with
  | nil =>
    refine ⟨fun _ before x after h => ?_, fun _ => ⟨none, rfl⟩⟩
    cases before <;> cases h
  | cons x l ih =>
    constructor
    · rintro ⟨found, h⟩ before y after hsplit hbefore
      obtain ⟨b, hb, h⟩ := except_bind_eq_ok.mp h
      cases before with
      | nil =>
        cases hsplit
        exact ⟨b, hb⟩
      | cons z before =>
        obtain ⟨rfl, rfl⟩ := List.cons.inj hsplit
        obtain ⟨hx, hbefore⟩ := List.forall_mem_cons.mp hbefore
        cases hb.symm.trans hx
        exact ih.mp ⟨found, h⟩ before y after rfl hbefore
    · intro h
      obtain ⟨b, hb⟩ := h [] x l rfl nofun
      cases b with
      | true => exact ⟨some x, except_bind_eq_ok.mpr ⟨true, hb, rfl⟩⟩
      | false =>
        obtain ⟨found, hfound⟩ := ih.mpr (fun before y after hsplit hbefore =>
          h (x :: before) y after (congrArg (x :: ·) hsplit)
            (List.forall_mem_cons.mpr ⟨hb, hbefore⟩))
        exact ⟨found, except_bind_eq_ok.mpr ⟨false, hb, hfound⟩⟩

end Search

end Checks

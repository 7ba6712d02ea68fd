import Mathlib.Data.List.Perm.Basic

namespace FiniteAutomata

/-!
# Outcomes of calls

A call has a result or is refused. A sequence of calls has a result if each of them has one, and is
refused for the reason of the first that is refused.

* `ok_bind`, `error_bind`, `bind_eq_ok_iff`: one call after another.
* `mapM_eq_ok_iff`, `exists_mapM_perm`, `mem_iff_of_mapM_eq_ok`, `mapM_eq_error`, `isOk_mapM`,
  `exists_mapM_eq_ok_iff`: the same call on every item of a list.
* `SameRefusal`: two calls are refused together and for the same reason.
-/

variable {ε α β : Type}

@[simp] theorem pure_eq_ok (a : α) : (pure a : Except ε α) = .ok a := rfl

@[simp] theorem ok_bind (a : α) (f : α → Except ε β) : (Except.ok a >>= f) = f a := rfl

@[simp] theorem error_bind (e : ε) (f : α → Except ε β) : (Except.error e >>= f) = .error e := rfl

theorem bind_eq_ok_iff {x : Except ε α} {f : α → Except ε β} {b : β} :
    (x >>= f) = .ok b ↔ ∃ a, x = .ok a ∧ f a = .ok b := by
  cases x with
  | error e => simp
  | ok a => simp

/-- A call on every item results in the results of the items. -/
theorem mapM_eq_ok_iff {f : α → Except ε β} {xs : List α} {ys : List β} :
    xs.mapM f = .ok ys ↔ List.Forall₂ (fun x y => f x = .ok y) xs ys := by
  induction xs generalizing ys with
  | nil => cases ys <;> simp
  | cons x rest ih =>
    rw [List.mapM_cons, bind_eq_ok_iff]
    constructor
    · rintro ⟨y, hy, h⟩
      obtain ⟨ys', hys', h⟩ := bind_eq_ok_iff.1 h
      cases h
      exact .cons hy (ih.1 hys')
    · rintro (_ | ⟨hy, hys⟩)
      rename_i y ys
      exact ⟨y, hy, bind_eq_ok_iff.2 ⟨ys, ih.2 hys, rfl⟩⟩

/-- On the items in another order a call results in the results in another order. -/
theorem exists_mapM_perm {f : α → Except ε β} {xs xs' : List α} {ys : List β} (h : xs.Perm xs')
    (hys : xs.mapM f = .ok ys) : ∃ ys', xs'.mapM f = .ok ys' ∧ ys.Perm ys' := by
  obtain ⟨ys', hys', hperm⟩ := List.perm_comp_forall₂ h.symm (mapM_eq_ok_iff.1 hys)
  exact ⟨ys', mapM_eq_ok_iff.2 hys', hperm.symm⟩

/-- The results are those of the items. -/
theorem mem_iff_of_mapM_eq_ok {f : α → Except ε β} {xs : List α} {ys : List β}
    (h : xs.mapM f = .ok ys) {y : β} : y ∈ ys ↔ ∃ x ∈ xs, f x = .ok y := by
  induction mapM_eq_ok_iff.1 h with
  | nil => simp
  | @cons x y' xs ys hx hrest ih =>
    have hys : y ∈ ys ↔ ∃ x ∈ xs, f x = .ok y := ih (mapM_eq_ok_iff.2 hrest)
    rw [List.mem_cons, hys, List.exists_mem_cons_iff, hx, Except.ok.injEq, eq_comm]

/-- A call on every item is refused for the reason of one of them. -/
theorem mapM_eq_error {f : α → Except ε β} {xs : List α} {e : ε} (h : xs.mapM f = .error e) :
    ∃ x ∈ xs, f x = .error e := by
  induction xs with
  | nil => cases h
  | cons x rest ih =>
    rw [List.mapM_cons] at h
    cases hx : f x with
    | error e' =>
      rw [hx] at h
      cases h
      exact ⟨x, List.mem_cons_self, hx⟩
    | ok y =>
      cases hrest : rest.mapM f with
      | error e' =>
        rw [hx, hrest] at h
        cases h
        obtain ⟨x', hmem, hx'⟩ := ih hrest
        exact ⟨x', List.mem_cons_of_mem x hmem, hx'⟩
      | ok ys =>
        rw [hx, hrest] at h
        cases h

theorem isOk_mapM {f : α → Except ε β} {xs : List α} :
    (xs.mapM f).isOk = true ↔ ∀ x ∈ xs, (f x).isOk = true := by
  induction xs with
  | nil => exact iff_of_true rfl (by simp)
  | cons x rest ih =>
    rw [List.mapM_cons, List.forall_mem_cons, ← ih]
    cases hx : f x with
    | error e => exact iff_of_false Bool.false_ne_true fun h => Bool.false_ne_true h.1
    | ok y => cases hrest : rest.mapM f <;> simp [Except.isOk, Except.toBool]

/-- A call on every item has results exactly if it has one on each of them. -/
theorem exists_mapM_eq_ok_iff {f : α → Except ε β} {xs : List α} :
    (∃ ys, xs.mapM f = .ok ys) ↔ ∀ x ∈ xs, ∃ y, f x = .ok y := by
  constructor
  · rintro ⟨ys, hys⟩ x hx
    have hok : (f x).isOk = true := isOk_mapM.1 (by rw [hys]; rfl) x hx
    cases hfx : f x with
    | ok y => exact ⟨y, rfl⟩
    | error e =>
      rw [hfx] at hok
      cases hok
  · intro h
    cases hall : xs.mapM f with
    | ok ys => exact ⟨ys, rfl⟩
    | error e =>
      obtain ⟨x, hx, hfault⟩ := mapM_eq_error hall
      obtain ⟨y, hy⟩ := h x hx
      rw [hy] at hfault
      cases hfault

/-! ### Refusals -/

/-- Two calls are refused together and for the same reason. -/
def SameRefusal (x : Except ε α) (y : Except ε β) : Prop := ∀ e, x = .error e ↔ y = .error e

/-- Two calls that can only be refused for one reason are refused together if they have results
    together. -/
theorem SameRefusal.of_isOk {x : Except ε α} {y : Except ε β} {reason : ε}
    (hx : ∀ e, x = .error e → e = reason) (hy : ∀ e, y = .error e → e = reason)
    (h : x.isOk = y.isOk) : SameRefusal x y := by
  intro e
  cases x with
  | ok a =>
    cases y with
    | ok b => exact iff_of_false (nofun) (nofun)
    | error e' => cases h
  | error e' =>
    cases y with
    | ok b => cases h
    | error e'' => rw [hx e' rfl, hy e'' rfl, Except.error.injEq, Except.error.injEq]

theorem SameRefusal.bind_pure {γ δ : Type} {x : Except ε α} {y : Except ε β} (h : SameRefusal x y)
    (f : α → γ) (g : β → δ) :
    SameRefusal (x >>= fun a => pure (f a)) (y >>= fun b => pure (g b)) := by
  intro e
  have hbind : ∀ {α γ : Type} {x : Except ε α} {f : α → γ},
      (x >>= fun a => pure (f a)) = .error e ↔ x = .error e := by
    intro α γ x f
    cases x <;> simp
  rw [hbind, hbind, h e]

end FiniteAutomata

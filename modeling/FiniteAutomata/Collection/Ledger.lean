namespace FiniteAutomata

/-!
# Ledgers

A ledger is a table that keeps its entries in the order in which their keys first arrived. Keys are
compared by an equality that need not be identity, and an entry keeps the first spelling of its key.

* `Ledger.get?`: what is kept under a key.
* `Ledger.update`: changes what is kept under a key, in place, or adds an entry at the end.
* `get?_update_self`, `get?_update_of_ne`: an update is seen under its own key and under no other.
* `keys_update`: an update moves no entry and respells no key.
-/

/-- A table in the order of first arrival. -/
abbrev Ledger (κ α : Type) := List (κ × α)

namespace Ledger

variable {κ α : Type} [BEq κ]

/-- What is kept under a key. -/
def get? : Ledger κ α → κ → Option α
  | [], _ => none
  | (k, a) :: rest, key => if k == key then some a else get? rest key

/-- Changes what is kept under a key; a key that is not there yet gets an entry at the end. -/
def update (key : κ) (f : Option α → α) : Ledger κ α → Ledger κ α
  | [] => [(key, f none)]
  | (k, a) :: rest => if k == key then (k, f (some a)) :: rest else (k, a) :: update key f rest

/-- The keys as first spelled, in order. -/
def keys (l : Ledger κ α) : List κ := l.map (·.1)

/-! ### What an update shows -/

variable {l : Ledger κ α} {key key' : κ} {f : Option α → α}

theorem get?_congr [EquivBEq κ] (h : (key == key') = true) : l.get? key = l.get? key' := by
  induction l with
  | nil => rfl
  | cons e rest ih =>
    have : (e.1 == key) = (e.1 == key') := BEq.congr_right h
    simp only [get?, this, ih]

theorem get?_update_self [ReflBEq κ] : (l.update key f).get? key = some (f (l.get? key)) := by
  induction l with
  | nil => simp [update, get?]
  | cons e rest ih =>
    obtain ⟨k, a⟩ := e
    by_cases h : (k == key) = true <;> simp [update, get?, h, ih]

theorem get?_update_of_ne [EquivBEq κ] (h : (key == key') = false) :
    (l.update key f).get? key' = l.get? key' := by
  induction l with
  | nil => simp [update, get?, h]
  | cons e rest ih =>
    obtain ⟨k, a⟩ := e
    by_cases hk : (k == key) = true
    · have : (k == key') = false := by rw [BEq.congr_left hk, h]
      simp [update, get?, hk, this]
    · simp [update, get?, hk, ih]

theorem keys_update :
    (l.update key f).keys = if (l.get? key).isSome then l.keys else l.keys ++ [key] := by
  induction l with
  | nil => simp [update, get?, keys]
  | cons e rest ih =>
    obtain ⟨k, a⟩ := e
    simp only [keys] at ih
    by_cases hk : (k == key) = true
    · simp [update, get?, keys, hk]
    · simp only [update, get?, keys, hk, Bool.false_eq_true, if_false, List.map_cons, ih]
      split <;> simp

end Ledger

end FiniteAutomata

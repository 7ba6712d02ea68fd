import FiniteAutomata.Collection.Ledger

namespace FiniteAutomata

/-!
# The first of equal items

Items may be equal in different spellings. `List.eraseDups` keeps the first spelling of each, and so
does a ledger: its keys are those that were ever updated, each as it was first spelled and in the
order of first arrival.

* `any_eraseDups`: no item is lost.
* `eraseDups_append_singleton`: a further item is kept if it equals none before it.
* `find?_beq_of_mem_eraseDups`: what is kept is the first of its equals.
* `Ledger.isSome_get?_eq_any`, `Ledger.keys_update_of_keys`: the keys of a ledger.
-/

variable {κ : Type} [BEq κ]

section Items

variable [EquivBEq κ]

/-- What is not equal to a given item can be looked for among the items that are not. -/
theorem any_beq_filter_bne {a k : κ} (h : (a == k) = false) (l : List κ) :
    (l.filter fun b => !b == a).any (· == k) = l.any (· == k) := by
  rw [List.any_filter]
  refine congrArg (l.any ·) (funext fun b => ?_)
  cases hb : b == k with
  | false => rw [Bool.and_false]
  | true =>
    -- what equals `k` does not equal `a`
    have hba : (b == a) = false := by rw [BEq.congr_left hb, BEq.comm, h]
    rw [hba]
    rfl

/-- No item is lost: what equals one of the items equals one that is kept. -/
theorem any_eraseDups (k : κ) : ∀ l : List κ, l.eraseDups.any (· == k) = l.any (· == k)
  | [] => by rw [List.eraseDups_nil]
  | a :: l => by
    rw [List.eraseDups_cons, List.any_cons, List.any_cons, any_eraseDups k (l.filter _)]
    cases ha : a == k with
    | true => rfl
    | false => rw [any_beq_filter_bne ha]
termination_by l => l.length
decreasing_by exact Nat.lt_succ_of_le (List.length_filter_le _ _)

/-- A further item is kept, behind all others, if it equals none of them. -/
theorem eraseDups_append_singleton (k : κ) : ∀ l : List κ,
    (l ++ [k]).eraseDups = if l.any (· == k) then l.eraseDups else l.eraseDups ++ [k]
  | [] => by simp [List.eraseDups_cons]
  | a :: l => by
    rw [List.cons_append, List.eraseDups_cons, List.eraseDups_cons, List.filter_append,
      List.any_cons]
    cases hk : a == k with
    | true =>
      -- the item in front takes it away
      have hfilter : [k].filter (fun b => !b == a) = [] := by simp [BEq.symm hk]
      rw [hfilter, List.append_nil, Bool.true_or, if_pos rfl]
    | false =>
      have hfilter : [k].filter (fun b => !b == a) = [k] := by simp [BEq.comm (a := k), hk]
      rw [hfilter, eraseDups_append_singleton k (l.filter _), any_beq_filter_bne hk, Bool.false_or]
      split <;> rfl
termination_by l => l.length
decreasing_by exact Nat.lt_succ_of_le (List.length_filter_le _ _)

/-- What is kept is the first of the items that equal it. -/
theorem find?_beq_of_mem_eraseDups {k : κ} : ∀ {l : List κ}, k ∈ l.eraseDups →
    l.find? (· == k) = some k
  | [], h => by simp at h
  | a :: l, h => by
    rw [List.eraseDups_cons] at h
    rcases List.mem_cons.1 h with rfl | hmem
    · rw [List.find?_cons, BEq.rfl]
    · have hfirst := find?_beq_of_mem_eraseDups hmem
      have hk : (k == a) = false := by
        have := (List.mem_filter.1 (List.mem_of_find?_eq_some hfirst)).2
        simpa using this
      rw [List.find?_cons_of_neg (by rw [BEq.comm, hk]; exact Bool.false_ne_true), ← hfirst,
        List.find?_filter]
      refine congrArg (l.find? ·) (funext fun b => ?_)
      cases hb : b == k with
      | false => simp
      | true => simp [BEq.congr_left hb, hk]
termination_by l => l.length
decreasing_by exact Nat.lt_succ_of_le (List.length_filter_le _ _)

end Items

/-! ### Keys -/

namespace Ledger

variable {α : Type} {l : Ledger κ α} {key : κ}

/-- A key is found exactly if it is among the keys in some spelling. -/
theorem isSome_get?_eq_any : (l.get? key).isSome = l.keys.any (· == key) := by
  induction l with
  | nil => rfl
  | cons e rest ih =>
    rw [get?, keys, List.map_cons, List.any_cons]
    cases e.1 == key with
    | true => rfl
    | false => exact ih

/-- The keys of a ledger stay the first spellings of those that were ever updated. -/
theorem keys_update_of_keys [EquivBEq κ] {ks : List κ} (h : l.keys = ks.eraseDups)
    (f : Option α → α) : (l.update key f).keys = (ks ++ [key]).eraseDups := by
  rw [keys_update, isSome_get?_eq_any, h, any_eraseDups, eraseDups_append_singleton]

end Ledger

end FiniteAutomata

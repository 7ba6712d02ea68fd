namespace FiniteAutomata

/-!
# Ascending lists

Finite sets are kept as ascending lists without repeats, so that equal sets are equal lists and the
order in which members arrived is forgotten.

* `Ascending.insert`: adds a member.
* `Ascending.ofList`: the set of the members of a list.
* `Ascending.sort`: all members of a list in ascending order, repeats included.
* `mem_insert`, `mem_ofList`: who is a member.
-/

namespace Ascending

variable {α : Type} [DecidableEq α]

/-- Adds a member to an ascending list; `before` is the order. -/
def insert (before : α → α → Bool) (a : α) : List α → List α
  | [] => [a]
  | b :: rest =>
    if a = b then b :: rest
    else if before a b then a :: b :: rest
    else b :: insert before a rest

/-- The members of a list in ascending order and without repeats. -/
def ofList (before : α → α → Bool) (members : List α) : List α :=
  members.foldr (insert before) []

omit [DecidableEq α] in
/-- Puts an item into an ascending list, behind those that come before it. -/
def place (before : α → α → Bool) (a : α) : List α → List α
  | [] => [a]
  | b :: rest => if before b a then b :: place before a rest else a :: b :: rest

omit [DecidableEq α] in
/-- The items of a list in ascending order. -/
def sort (before : α → α → Bool) (items : List α) : List α := items.foldr (place before) []

/-! ### Members -/

variable {before : α → α → Bool} {a b : α} {set members : List α}

@[simp] theorem mem_insert : b ∈ insert before a set ↔ b = a ∨ b ∈ set := by
  induction set with
  | nil => simp [insert]
  | cons c rest ih =>
    by_cases h : a = c
    · simp [insert, h]
    · by_cases hb : before a c = true
      · simp [insert, h, hb]
      · simp only [insert, h, hb, if_false, List.mem_cons, ih, Bool.false_eq_true]
        grind

@[simp] theorem mem_ofList : b ∈ ofList before members ↔ b ∈ members := by
  induction members with
  | nil => simp [ofList]
  | cons a rest ih => simpa [ofList] using or_congr_right ih

end Ascending

/-! ### Sets of states -/

/-- A set of states: their positions in ascending order. -/
abbrev StateSet := List Nat

namespace StateSet

/-- Adds a state. -/
def insert (s : Nat) (set : StateSet) : StateSet := Ascending.insert (fun a b => a < b) s set

/-- The set of the given states. -/
def ofList (states : List Nat) : StateSet := Ascending.ofList (fun a b => a < b) states

@[simp] theorem mem_insert {s t : Nat} {set : StateSet} : t ∈ insert s set ↔ t = s ∨ t ∈ set :=
  Ascending.mem_insert

@[simp] theorem mem_ofList {t : Nat} {states : List Nat} : t ∈ ofList states ↔ t ∈ states :=
  Ascending.mem_ofList

end StateSet

end FiniteAutomata

namespace FiniteAutomata

/-!
# Counting what passes a test

The items that pass a test stand at the front of a list, all others behind them. Their number is
found without asking about every item, and the first test that fails is the result.

* `Side`: the end of a list from which its items are looked at.
* `Galloping.halve`: looks at the middle item first.
* `Galloping.count`: looks at the first item first, and leaps farther with every item that passes.
-/

/-- The end of a list from which its items are looked at. -/
inductive Side
  | front | back
deriving DecidableEq, Repr

/-- How many of some items stand before the middle one. Of two middle items it is the one that is
    farther from the front of the list, from whichever side they are looked at. -/
def Side.middle : Side → Nat → Nat
  | .front, n => n / 2
  | .back, n => (n - 1) / 2

namespace Galloping

variable {α ε : Type}

/-- How many items pass a test. The middle one tells which half has the last of them. -/
def halve (side : Side) (passes : α → Except ε Bool) (items : List α) : Except ε Nat :=
  match h : items.drop (side.middle items.length) with
  | [] => .ok 0
  | a :: behind => do
    if ← passes a then return side.middle items.length + 1 + (← halve side passes behind)
    else halve side passes (items.take (side.middle items.length))
termination_by items.length
decreasing_by
  · have length_eq := congrArg List.length h
    simp only [List.length_drop, List.length_cons] at length_eq
    omega
  · have length_eq := congrArg List.length h
    simp only [List.length_drop, List.length_cons] at length_eq
    simp only [List.length_take]
    omega

/-- How many items pass a test, where `gap` items are leapt over at first, and about twice as many
    each time. The items that the last leap went over are halved. -/
def leap (side : Side) (passes : α → Except ε Bool) (gap : Nat) (items : List α) :
    Except ε Nat :=
  match h : items.drop gap with
  | [] => halve side passes items
  | a :: behind => do
    if ← passes a then return gap + 1 + (← leap side passes (2 * gap + 1) behind)
    else halve side passes (items.take gap)
termination_by items.length
decreasing_by
  have length_eq := congrArg List.length h
  simp only [List.length_drop, List.length_cons] at length_eq
  omega

/-- How many items pass a test; few items are looked at if few pass. -/
def count (side : Side) (passes : α → Except ε Bool) : List α → Except ε Nat
  | [] => .ok 0
  | a :: behind => do
    if ← passes a then return 1 + (← leap side passes 0 behind) else return 0

end Galloping

end FiniteAutomata

import FiniteAutomata.Collection.Merging

namespace FiniteAutomata

/-!
# Sorting with comparisons that may fail

A list is sorted by asking which of two items comes first, and the first question that has no
answer is the result. The list is cut into runs from its front. A run is as long as the items are in
order already, or turned around if it descends; a short one is filled up with the items behind it.
Neighbouring runs are merged, those first that lie deep in a tree of halves of the list.

* `Sorting.nextRun`: the run at the front.
* `Sorting.boundaryDepth`: where the boundary of two runs lies in the tree of halves.
* `Sorting.Runs`: the runs that are not merged yet.
* `Sorting.sort`: the sorted list.
-/

namespace Sorting

variable {α ε : Type}

/-! ### Runs -/

/-- How many of the items continue a run that ends in `last`, where a later item comes before the
    one in front of it exactly if `descends`. -/
def runFrom (before : α → α → Except ε Bool) (descends : Bool) (last : α) :
    List α → Except ε Nat
  | [] => .ok 0
  | a :: rest => do
    if (← before a last) = descends then return (← runFrom before descends a rest) + 1
    else return 0

/-- The items of the longest run at the front in ascending order, and the items behind it. -/
def run (before : α → α → Except ε Bool) : List α → Except ε (List α × List α)
  | a :: b :: rest => do
    let descends ← before b a
    let length := (← runFrom before descends b rest) + 2
    let items := a :: b :: rest
    let front := items.take length
    return (if descends then front.reverse else front, items.drop length)
  | items => .ok (items, [])

/-- Puts an item into an ascending list, behind all that do not come after it. -/
def place (before : α → α → Except ε Bool) (items : List α) (a : α) : Except ε (List α) := do
  let n ← Galloping.halve .front (fun b => return !(← before a b)) items
  return items.take n ++ a :: items.drop n

/-- The least length of a run in a list of `total` items: all of them if they are fewer than 64,
    and else 32 to 64, so that about a power of two runs make up the list. -/
def leastLength (total : Nat) : Nat :=
  let unit := Nat.pow 2 (total.log2 - 5)
  (total + unit - 1) / unit

example : leastLength 63 = 63 ∧ leastLength 64 = 32 ∧ leastLength 127 = 64 := by decide

/-- The first run of at least `least` items, if there are so many, and the items behind it. -/
def nextRun (before : α → α → Except ε Bool) (least : Nat) (items : List α) :
    Except ε (List α × List α) := do
  let (front, behind) ← run before items
  let missing := least - front.length
  return (← (behind.take missing).foldlM (place before) front, behind.drop missing)

/-! ### Merging runs -/

/-- The depth at which the tree of halves of a list of `total` items parts the middles of two
    neighbouring runs, which begin at `start` and have `left` and `right` items. It is the first
    binary digit in which the middles differ, as fractions of the list. -/
def boundaryDepth (total start left right : Nat) : Nat :=
  let a := 2 * start + left
  let b := a + left + right
  let parts (digits : Nat) : Bool := a * Nat.pow 2 digits / total != b * Nat.pow 2 digits / total
  ((List.range (total.log2 + 1)).find? parts).getD total

example : boundaryDepth 128 0 64 64 = 0 ∧ boundaryDepth 128 0 32 32 = 1 := by decide

/-- Items in ascending order, as a part of the list. -/
structure Run (α : Type) where
  items : List α
  /-- So many items of the list are in front of it. -/
  start : Nat := 0
  /-- The depth of the boundary behind it. -/
  depth : Nat := 0

/-- The runs that are not merged yet, the last one first. -/
structure Runs (α : Type) where
  runs : List (Run α) := []
  /-- How many items in a row from one run make a merge take stretches. -/
  patience : Nat := Merge.worthwhile

/-- Merges a run with those in front of it whose boundaries lie deeper than the one behind it. -/
def mergeDeeper (before : α → α → Except ε Bool) (patience : Nat) (last : Run α) :
    List (Run α) → Except ε (Runs α)
  | [] => .ok { runs := [last], patience }
  | front :: rest => do
    if last.depth < front.depth then
      let (items, patience) ← Merge.join before patience front.items last.items
      mergeDeeper before patience { last with items, start := front.start } rest
    else return { runs := last :: front :: rest, patience }

/-- Adds the next run of a list of `total` items. -/
def Runs.push (before : α → α → Except ε Bool) (total : Nat) (r : Runs α) (items : List α) :
    Except ε (Runs α) :=
  match r.runs with
  | [] => .ok { r with runs := [{ items }] }
  | last :: rest => do
    let depth := boundaryDepth total last.start last.items.length items.length
    let r ← mergeDeeper before r.patience { last with depth } rest
    return { r with runs := { items, start := last.start + last.items.length } :: r.runs }

/-- Merges all runs, the last two first, or the two in front of the last one if the first of them is
    shorter than the last. -/
def mergeAll (before : α → α → Except ε Bool) (patience : Nat) :
    List (List α) → Except ε (List α)
  | [] => .ok []
  | [a] => .ok a
  | [b, a] => return (← Merge.join before patience a b).1
  | c :: b :: a :: rest => do
    if a.length < c.length then
      let (items, patience) ← Merge.join before patience a b
      mergeAll before patience (c :: items :: rest)
    else
      let (items, patience) ← Merge.join before patience b c
      mergeAll before patience (items :: a :: rest)
termination_by runs => runs.length

/-- Cuts items, of which there are at most `bound`, into runs behind those of a list of `total`
    items. -/
def cut (before : α → α → Except ε Bool) (total : Nat) :
    Nat → List α → Runs α → Except ε (Runs α)
  | 0, _, r | _, [], r => .ok r
  | bound + 1, items, r => do
    let (front, behind) ← nextRun before (leastLength total) items
    cut before total bound behind (← r.push before total front)

/-- The items in ascending order. -/
def sort (before : α → α → Except ε Bool) (items : List α) : Except ε (List α) := do
  let r ← cut before items.length items.length items {}
  mergeAll before r.patience (r.runs.map Run.items)

end Sorting

end FiniteAutomata

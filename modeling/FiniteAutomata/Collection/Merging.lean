import FiniteAutomata.Collection.Galloping

namespace FiniteAutomata

/-!
# Merging ascending lists

Two ascending lists become one. Items are compared one by one until one list has given several
items in a row; from then on whole stretches are taken, as long as they are long enough.

* `Merge`: two lists on their way into one.
* `Merge.step`: takes the next item, or the next stretches.
* `Merge.join`: the list that two neighbouring lists become.
-/

/-- How the next items are chosen. -/
inductive Pace
  /-- One by one; so many were taken from one list in a row. -/
  | single (shorter longer : Nat)
  /-- In stretches. -/
  | stretches
deriving DecidableEq, Repr

/-- Two ascending lists on their way into one. -/
structure Merge (α : Type) where
  /-- What is left of the list that was the shorter one. -/
  shorter : List α
  /-- What is left of the other one. -/
  longer : List α
  /-- What was taken, the last item first. -/
  taken : List α := []
  pace : Pace := .single 0 0
  /-- So many items in a row from one list make the merge take stretches. -/
  patience : Nat

namespace Merge

variable {α ε : Type}

/-- Stretches of fewer items are not worth looking for. -/
def worthwhile : Nat := 7

/-- No comparison is needed any more: only the last item of the shorter list may be left, and it
    belongs to the end. -/
def isFinished (m : Merge α) : Bool :=
  match m.shorter with
  | [] | [_] => true
  | _ => m.longer.isEmpty

/-- The merged list. -/
def result (m : Merge α) : List α := m.taken.reverse ++ m.longer ++ m.shorter

/-- Takes items from the shorter list. -/
def takeShorter (m : Merge α) (n : Nat) : Merge α :=
  { m with shorter := m.shorter.drop n, taken := (m.shorter.take n).reverse ++ m.taken }

/-- Takes items from the longer list. -/
def takeLonger (m : Merge α) (n : Nat) : Merge α :=
  { m with longer := m.longer.drop n, taken := (m.longer.take n).reverse ++ m.taken }

/-- Takes the item that is next. Many in a row from one list change the pace. -/
def stepSingle (before : α → α → Except ε Bool) (m : Merge α) (fromShorter fromLonger : Nat) :
    Except ε (Merge α) :=
  match m.shorter, m.longer with
  | a :: _, b :: _ => do
    if ← before b a then
      let pace := if fromLonger + 1 < m.patience then .single 0 (fromLonger + 1) else .stretches
      return { m.takeLonger 1 with pace }
    else
      let pace := if fromShorter + 1 < m.patience then .single (fromShorter + 1) 0 else .stretches
      return { m.takeShorter 1 with pace }
  | _, _ => .ok m

/-- Takes all items of the shorter list that belong before the first one of the longer list, and
    then that one; and the number of the former. -/
def stretchOfShorter (side : Side) (before : α → α → Except ε Bool) (m : Merge α) :
    Except ε (Merge α × Nat) :=
  match m.longer with
  | [] => .ok (m, 0)
  | b :: _ => do
    let n ← Galloping.count side (fun a => return !(← before b a)) m.shorter
    let m := m.takeShorter n
    return (if m.isFinished then m else m.takeLonger 1, n)

/-- Takes all items of the longer list that belong before the first one of the shorter list, and
    then that one; and the number of the former. -/
def stretchOfLonger (side : Side) (before : α → α → Except ε Bool) (m : Merge α) :
    Except ε (Merge α × Nat) :=
  match m.shorter with
  | [] => .ok (m, 0)
  | a :: _ => do
    let n ← Galloping.count side (fun b => before b a) m.longer
    let m := m.takeLonger n
    return (if m.isFinished then m else m.takeShorter 1, n)

/-- Takes a stretch of each list. The one that is the first of the two in the order of the items
    goes first. Long stretches lessen the patience, short ones raise it and change the pace. -/
def stepStretches (side : Side) (before : α → α → Except ε Bool) (m : Merge α) :
    Except ε (Merge α) := do
  let (m, n) ← match side with
    | .front => m.stretchOfShorter side before
    | .back => m.stretchOfLonger side before
  if m.isFinished then return m
  let (m, k) ← match side with
    | .front => m.stretchOfLonger side before
    | .back => m.stretchOfShorter side before
  if m.isFinished then return m
  if worthwhile ≤ n ∨ worthwhile ≤ k then return { m with patience := max 1 (m.patience - 1) }
  else return { m with patience := m.patience + 1, pace := .single 0 0 }

/-- Takes the next item, or the next stretches. -/
def step (side : Side) (before : α → α → Except ε Bool) (m : Merge α) : Except ε (Merge α) :=
  match m.pace with
  | .single fromShorter fromLonger => m.stepSingle before fromShorter fromLonger
  | .stretches => m.stepStretches side before

/-- Takes steps until no comparison is needed any more, at most `bound`. -/
def finish (side : Side) (before : α → α → Except ε Bool) : Nat → Merge α → Except ε (Merge α)
  | 0, m => .ok m
  | bound + 1, m => do
    if m.isFinished then return m else finish side before bound (← m.step side before)

/-- Merges two lists of which the longer one has the first item. -/
def run (side : Side) (before : α → α → Except ε Bool) (patience : Nat) (shorter longer : List α) :
    Except ε (Merge α) :=
  finish side before (shorter.length + longer.length)
    (Merge.takeLonger { shorter, longer, patience } 1)

/-- The list that two neighbouring ascending lists become, and the patience that is left. The items
    at the outer ends that stay where they are take no part. The merge begins at the end where the
    shorter list is. -/
def join (before : α → α → Except ε Bool) (patience : Nat) (left right : List α) :
    Except ε (List α × Nat) :=
  match right with
  | [] => .ok (left, patience)
  | first :: _ => do
    let n ← Galloping.count .front (fun a => return !(← before first a)) left
    let inner := left.drop n
    match inner.getLast? with
    | none => return (left ++ right, patience)
    | some last =>
      let k ← Galloping.count .back (fun b => return !(← before b last)) right.reverse
      let innerRight := right.take (right.length - k)
      let outer := (left.take n, right.drop (right.length - k))
      if inner.length ≤ innerRight.length then
        let m ← run .front before patience inner innerRight
        return (outer.1 ++ m.result ++ outer.2, m.patience)
      else
        let m ← run .back (fun a b => before b a) patience innerRight.reverse inner.reverse
        return (outer.1 ++ m.result.reverse ++ outer.2, m.patience)

end Merge

end FiniteAutomata

import FiniteAutomata.Asking
import FiniteAutomata.Collection.Ascending

namespace FiniteAutomata

/-!
# Worklists

The states reachable from given ones are collected with a worklist: a state that is found for the
first time is put on a stack, and the states on the stack are visited one after the other.

* `Worklist`: the states found, those waiting on the stack, and those visited.
* `Worklist.visit`: takes one state from the stack and finds its successors.
* `Worklist.drain`: a bounded number of visits.
* `closure`: the states found when nothing waits any more.
* `Worklist.Ask.visit`, `Worklist.Ask.drain`: the same where successors are asked for.
-/

/-- A search in progress. -/
structure Worklist where
  found : List Nat := []
  waiting : List Nat := []
  /-- The states taken from the stack, the last one first. -/
  visited : List Nat := []
deriving DecidableEq, Repr

namespace Worklist

/-- Finds a state: it waits to be visited, unless it was found before. -/
def find (w : Worklist) (s : Nat) : Worklist :=
  if s ∈ w.found then w else { w with found := s :: w.found, waiting := s :: w.waiting }

/-- Finds several states. -/
def findAll (w : Worklist) (states : List Nat) : Worklist := states.foldl find w

/-- The search before its first visit. -/
def start (seeds : List Nat) : Worklist := findAll {} seeds

/-- Takes the state on top of the stack and finds its successors. -/
def visit (next : Nat → List Nat) (w : Worklist) : Worklist :=
  match w.waiting with
  | [] => w
  | s :: rest => findAll { w with waiting := rest, visited := s :: w.visited } (next s)

/-- A bounded number of visits. -/
def drain (next : Nat → List Nat) : Nat → Worklist → Worklist
  | 0, w => w
  | n + 1, w => drain next n (w.visit next)

/-! ### Searches that ask for successors -/

namespace Ask

variable {σ : Type}

/-- Takes the state on top of the stack, asks for its successors and finds them. -/
def visit (next : Nat → Asking σ (List Nat)) (w : Worklist) : Asking σ Worklist := do
  match w.waiting with
  | [] => return w
  | s :: _ =>
    let successors ← next s
    return w.visit fun _ => successors

/-- A bounded number of visits. -/
def drain (next : Nat → Asking σ (List Nat)) : Nat → Worklist → Asking σ Worklist
  | 0, w => return w
  | n + 1, w => do drain next n (← visit next w)

end Ask

end Worklist

/-- The states reachable from the seeds. At most `bound` states are visited, which is enough when
    no more than that can be found. -/
def closure (next : Nat → List Nat) (bound : Nat) (seeds : List Nat) : StateSet :=
  StateSet.ofList ((Worklist.start seeds).drain next bound).found

end FiniteAutomata

import FiniteAutomata.Event

namespace FiniteAutomata

/-!
# Construction

The calls that build an automaton, as data, so that the history of an automaton is a list.

* `Construction`: a call that changes an automaton.
* `Built`: what such a call did.
-/

/-- A call that changes an automaton. Any values may be given where states and symbols ought to
    be. -/
inductive Construction
  | addState (accepting : Value)
  | addTransition (source symbol target : Value)
  | addEpsilon (source target : Value)
  | setInitial (state : Value)
deriving DecidableEq

/-- What a call did: the automaton afterwards, the position of the state that the call is about, if
    any, or why it was refused, and what was reported. -/
structure Built (α : Type) where
  automaton : α
  result : Except Fault (Option Nat)
  report : List Event := []

namespace Built

variable {α β : Type}

/-- A call that is refused and changes nothing. -/
def refused (automaton : α) (fault : Fault) : Built α := { automaton, result := .error fault }

/-- What a call did, seen from outside. -/
def map (f : α → β) (b : Built α) : Built β :=
  { automaton := f b.automaton, result := b.result, report := b.report }

end Built

end FiniteAutomata

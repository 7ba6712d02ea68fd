import FiniteAutomata.Automaton.Basic
import FiniteAutomata.Collection.Sorting
import FiniteAutomata.Drawing
import FiniteAutomata.Value.Order

namespace FiniteAutomata

/-!
# Descriptions

An automaton described in words, one line for each transition.

* `stateSet`: a set of states as text.
* `sortedSetText`: any values that can be sorted, as the text of a set.
* `TransitionLine`: a transition as it is written in a description.
* `Listing`, `Listing.description`: what a description is made of, and the description.
* `Automaton.description`: the description of an automaton under a name.
-/

/-! ### Sets of states -/

/-- Texts in curly brackets. -/
def bracedText (items : List String) : String := "\x7b" ++ ",".intercalate items ++ "\x7d"

/-- Some states, in whatever order they are listed, as the text of a set. -/
def stateSet (states : List Nat) : String :=
  bracedText ((Ascending.sort (fun a b => a < b) states).map stateName)

/-- The items of a value in ascending order, as the text of a set. -/
def sortedSetText (states : Value) : Except Fault String := do
  let sorted ← Sorting.sort Value.less (← states.word)
  return bracedText (← sorted.mapM Value.plain)

/-! ### Transitions -/

/-- A transition with the text of its symbol. -/
structure TransitionLine where
  source : Nat
  symbol : String
  target : Nat
deriving DecidableEq, Repr

namespace TransitionLine

/-- Lines are ordered by source, then by the text of the symbol, then by target. -/
def before (a b : TransitionLine) : Bool :=
  a.source < b.source || (a.source == b.source &&
    (a.symbol < b.symbol || (a.symbol == b.symbol && a.target < b.target)))

/-- A line of a description. -/
def text (t : TransitionLine) : String :=
  "    " ++ stateName t.source ++ " -" ++ t.symbol ++ "-> " ++ stateName t.target

end TransitionLine

/-- The state of an optional position, or a word for its absence. -/
def stateOrNone : Option Nat → String
  | some index => stateName index
  | none => "None"

/-- The lines of transitions that read a symbol. -/
def transitionLinesOf (transitions : List Transition) : Except Fault (List TransitionLine) := do
  let lines ← transitions.mapM fun t => return ⟨t.source, ← t.symbol.value.plain, t.target⟩
  return Ascending.sort TransitionLine.before lines

/-- The lines of epsilon transitions. -/
def epsilonLinesOf (epsilonTransitions : List (Nat × Nat)) : List TransitionLine :=
  (Ascending.sort pairBefore epsilonTransitions).map fun (s, t) => ⟨s, epsilonLabel, t⟩

/-! ### What a description is made of -/

/-- What is listed of an automaton, in whatever order its states and transitions are gathered. -/
structure Listing where
  kind : AutomatonKind
  size : Nat
  initial? : Option Nat
  accepting : List Nat
  transitionCount : Nat
  transitions : List Transition
  epsilonCount : Nat
  epsilonTransitions : List (Nat × Nat)
deriving DecidableEq

namespace Listing

/-- The lines about epsilon transitions, which only a nondeterministic automaton has. -/
def epsilonSection (l : Listing) : List String :=
  match l.kind with
  | .dfa => []
  | .nfa =>
    ("  Epsilon transitions: " ++ l.epsilonCount.repr) ::
      (epsilonLinesOf l.epsilonTransitions).map TransitionLine.text

/-- The description under a name. -/
def description (name : String) (l : Listing) : Except Fault String := do
  let lines :=
    ["\n" ++ name ++ ":",
     "  Type: " ++ l.kind.shortName,
     "  States: " ++ l.size.repr,
     "  Start: " ++ stateOrNone l.initial?,
     "  Accepting: " ++ stateSet l.accepting,
     "  Transitions: " ++ l.transitionCount.repr] ++
    (← transitionLinesOf l.transitions).map TransitionLine.text ++ l.epsilonSection
  return "\n".intercalate lines ++ "\n"

end Listing

namespace Automaton

/-- The positions of the accepting states. -/
def acceptingStates (a : Automaton) : StateSet := a.space.indexes.filter a.space.accepts

/-- What is listed of the automaton? -/
def Ask.listing : Asking Automaton Listing := do
  let a ← get
  return {
    kind := a.kind
    size := a.space.size
    initial? := a.space.initial?
    accepting := a.acceptingStates
    transitionCount := ← transitionCount
    transitions := ← transitions
    epsilonCount := ← epsilonCount
    epsilonTransitions := ← epsilonTransitions }

/-- What is the description of the automaton under a name? -/
def Ask.description (name : String) : Asking Automaton String := do
  (← listing).description name

/-- What is listed of an automaton. -/
def listing (a : Automaton) : Listing where
  kind := a.kind
  size := a.space.size
  initial? := a.space.initial?
  accepting := a.acceptingStates
  transitionCount := a.transitionCount
  transitions := a.transitions
  epsilonCount := a.epsilonCount
  epsilonTransitions := a.epsilonTransitions

/-- The description of an automaton under a name. -/
def description (name : String) (a : Automaton) : Except Fault String :=
  (Ask.description name).answer a

end Automaton

end FiniteAutomata

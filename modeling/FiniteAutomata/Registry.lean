import FiniteAutomata.Construction

namespace FiniteAutomata

/-!
# Registries

A registry allocates states. States are numbered from zero in the order of creation; a state is
named together with the registry that allocated it, so that states of different automata are never
mistaken for one another.

* `Registry`: the owner's token and the accepting flag of each state.
* `Registry.validate`: the position of a state, or why the value names no state of this registry.
* `Registry.lookup`: the state at a position.
* `StateSpace`: a registry with the choice of an initial state.
-/

/-- The states of an automaton: the flag of each tells whether it accepts. -/
structure Registry where
  owner : Nat
  flags : List Bool := []
deriving DecidableEq, Repr

namespace Registry

/-- The number of states. -/
def size (r : Registry) : Nat := r.flags.length

/-- The name of the state at a position. -/
def id (r : Registry) (index : Nat) : StateId := ⟨index, r.owner⟩

/-- The positions of all states. -/
def indexes (r : Registry) : List Nat := List.range r.size

/-- The state at a position accepts. -/
def accepts (r : Registry) (index : Nat) : Bool := r.flags.getD index false

/-- Adds a state; the truth of the value decides whether it accepts. -/
def add (r : Registry) (accepting : Value) : Registry :=
  { r with flags := r.flags ++ [accepting.isTrue] }

/-- The report on the state that `add` is about to add. -/
def addition (r : Registry) (accepting : Value) : Event := .added r.size accepting

/-! ### Arguments that ought to name a state -/

/-- This registry allocated the state. -/
def owns (r : Registry) (id : StateId) : Bool :=
  id.owner == r.owner && 0 ≤ id.index && id.index < r.size

/-- The value names a state of this registry. -/
def contains (r : Registry) : Value → Bool
  | .state id => r.owns id
  | _ => false

/-- The position of a state. -/
def validate (r : Registry) : Value → Except Fault Nat
  | .state id =>
    if r.owns id then .ok id.index.toNat
    else .error (Value.invalid (.state id) "belongs to another automaton")
  | a => .error (a.invalid "not a state id")

/-- The positions of several states, up to the first value that names none. -/
def validateAll (r : Registry) : List Value → Except Fault (List Nat)
  | [] => .ok []
  | a :: rest => return (← r.validate a) :: (← r.validateAll rest)

/-- The state at a position, if there is one. -/
def lookup (r : Registry) (index : Int) : Except Fault Nat :=
  if 0 ≤ index ∧ index < r.size then .ok index.toNat
  else .error (Value.invalid (.int index) ("automaton has " ++ r.size.repr ++ " states"))

end Registry

/-! ### Initial states -/

/-- States with the choice of an initial state. -/
structure StateSpace extends Registry where
  chosen : Option Nat := none
deriving DecidableEq, Repr

namespace StateSpace

/-- The initial state: the one that was chosen, otherwise the first one that was added. -/
def initial? (s : StateSpace) : Option Nat :=
  match s.chosen with
  | some index => some index
  | none => if 0 < s.size then some 0 else none

/-- Adds a state. -/
def addState (s : StateSpace) (accepting : Value) : StateSpace :=
  { s with toRegistry := s.toRegistry.add accepting }

/-- Chooses the initial state. -/
def setInitial (s : StateSpace) (state : Value) : Except Fault StateSpace :=
  return { s with chosen := some (← s.validate state) }

/-- Adds a state, as a call. -/
def buildState (s : StateSpace) (accepting : Value) : Built StateSpace :=
  { automaton := s.addState accepting
    result := .ok (some s.size)
    report := [s.addition accepting] }

/-- Chooses the initial state, as a call. -/
def buildInitial (s : StateSpace) (state : Value) : Built StateSpace :=
  match s.setInitial state with
  | .ok s' => { automaton := s', result := .ok s'.initial? }
  | .error fault => .refused s fault

end StateSpace

end FiniteAutomata

import FiniteAutomata.Nfa.Worklist
import FiniteAutomata.Transition

namespace FiniteAutomata

/-!
# Nondeterministic automata

A nondeterministic automaton has any number of transitions for a state and a symbol, and epsilon
transitions that read nothing. Epsilon transitions have a table of their own, so that every value is
free to be a symbol.

* `Nfa`: the states, the table of transitions and that of epsilon transitions.
* `Nfa.addTransition`, `Nfa.addEpsilon`: add a transition. A call that is refused because of its
  target leaves an empty entry behind, which only shows in the order of later entries and in the
  spelling of their symbols.
* `Nfa.build`, `Nfa.buildAll`: make calls that change the automaton.
* `Nfa.targets`, `Nfa.epsilonTargets`, `Nfa.closureOf`, `Nfa.advance`: what is in the tables, the states
  reachable by epsilon transitions, and the states that are active after one more symbol.
* `Nfa.Ask`: the questions that can be put to an automaton.
* `Nfa.next`, `Nfa.epsilonClosure`, `Nfa.step`, `Nfa.trail`, `Nfa.simulate`, `Nfa.finish`, `Nfa.judge`:
  their answers.
-/

/-- A nondeterministic automaton with epsilon transitions. -/
structure Nfa extends StateSpace where
  edges : Ledger Departure StateSet := []
  epsilons : Ledger Nat StateSet := []
deriving DecidableEq

namespace Nfa

/-- An automaton without states. -/
def new (owner : Nat) : Nfa := { owner }

/-! ### Construction -/

/-- The automaton with an entry for a departure, empty if it is new: what is left when the table is
    asked for that entry. -/
def reserve (n : Nfa) (source : Nat) (symbol : Symbol) : Nfa :=
  { n with edges := ((Ledger.demand ⟨source, symbol⟩ []).ask n.edges).2 }

/-- The automaton with a transition put into its table. -/
def connect (n : Nfa) (source : Nat) (symbol : Symbol) (target : Nat) : Nfa :=
  { n with edges := n.edges.update ⟨source, symbol⟩ fun set => (set.getD []).insert target }

/-- Adds a transition. The source and the symbol are checked first and get an entry, then the
    target is checked. -/
def addTransition (n : Nfa) (source symbol target : Value) : Nfa × Except Fault Unit :=
  match (return (← n.validate source, ← symbol.symbol) : Except Fault (Nat × Symbol)) with
  | .error fault => (n, .error fault)
  | .ok (source, symbol) =>
    match n.validate target with
    | .error fault => (n.reserve source symbol, .error fault)
    | .ok target => (n.connect source symbol target, .ok ())

/-- The automaton with an entry for epsilon transitions from a state, empty if it is new. -/
def reserveEpsilon (n : Nfa) (source : Nat) : Nfa :=
  { n with epsilons := ((Ledger.demand source []).ask n.epsilons).2 }

/-- The automaton with an epsilon transition put into its table. -/
def connectEpsilon (n : Nfa) (source target : Nat) : Nfa :=
  { n with epsilons := n.epsilons.update source fun set => (set.getD []).insert target }

/-- Adds an epsilon transition. The source is checked first and gets an entry, then the target is
    checked. -/
def addEpsilon (n : Nfa) (source target : Value) : Nfa × Except Fault Unit :=
  match n.validate source with
  | .error fault => (n, .error fault)
  | .ok source =>
    match n.validate target with
    | .error fault => (n.reserveEpsilon source, .error fault)
    | .ok target => (n.connectEpsilon source target, .ok ())

/-- Makes a call. -/
def build (n : Nfa) : Construction → Built Nfa
  | .addState accepting => (n.buildState accepting).map fun space => { n with toStateSpace := space }
  | .addTransition source symbol target =>
    let (n', result) := n.addTransition source symbol target
    { automaton := n', result := result.map fun _ => none }
  | .addEpsilon source target =>
    let (n', result) := n.addEpsilon source target
    { automaton := n', result := result.map fun _ => none }
  | .setInitial state => (n.buildInitial state).map fun space => { n with toStateSpace := space }

/-- The automaton after several calls, whatever they result in. -/
def buildAll (n : Nfa) (calls : List Construction) : Nfa :=
  calls.foldl (fun n call => (n.build call).automaton) n

/-! ### Tables and what they tell -/

/-- Where a state goes on a symbol. -/
def targets (n : Nfa) (source : Nat) (symbol : Symbol) : StateSet :=
  (n.edges.get? ⟨source, symbol⟩).getD []

/-- Where a state goes without reading. -/
def epsilonTargets (n : Nfa) (source : Nat) : StateSet := (n.epsilons.get? source).getD []

/-- The transitions of a table, in the order in which their departures were first named. -/
def transitionsOf (edges : Ledger Departure StateSet) : List Transition :=
  edges.flatMap fun (k, set) => set.map fun target => ⟨k.source, k.symbol, target⟩

/-- The epsilon transitions of a table, in the order in which their sources were first named. -/
def epsilonTransitionsOf (epsilons : Ledger Nat StateSet) : List (Nat × Nat) :=
  epsilons.flatMap fun (source, set) => set.map fun target => (source, target)

/-- The number of all targets in a table. -/
def countOf {κ : Type} (table : Ledger κ StateSet) : Nat :=
  (table.map fun e => e.2.length).foldr (· + ·) 0

/-- All transitions. -/
def transitions (n : Nfa) : List Transition := transitionsOf n.edges

/-- All epsilon transitions. -/
def epsilonTransitions (n : Nfa) : List (Nat × Nat) := epsilonTransitionsOf n.epsilons

/-- The number of transitions. -/
def transitionCount (n : Nfa) : Nat := countOf n.edges

/-- The number of epsilon transitions. -/
def epsilonCount (n : Nfa) : Nat := countOf n.epsilons

/-- The states reachable from the given ones by epsilon transitions. Each of them is given or is the
    target of an epsilon transition, which bounds the search. -/
def closureOf (n : Nfa) (states : List Nat) : StateSet :=
  closure n.epsilonTargets (states.length + n.epsilonCount) states

/-- The states active after one more symbol. -/
def advance (n : Nfa) (active : List Nat) (symbol : Symbol) : StateSet :=
  n.closureOf (StateSet.ofList (active.flatMap (n.targets · symbol)))

/-! ### Questions -/

namespace Ask

/-- A question to the table of transitions. -/
def edges {α : Type} (q : Asking (Ledger Departure StateSet) α) : Asking Nfa α :=
  .within Nfa.edges (fun n edges => { n with edges }) q

/-- A question to the table of epsilon transitions. -/
def epsilons {α : Type} (q : Asking (Ledger Nat StateSet) α) : Asking Nfa α :=
  .within Nfa.epsilons (fun n epsilons => { n with epsilons }) q

/-- Where does a state go on a symbol? -/
def targets (source : Nat) (symbol : Symbol) : Asking Nfa StateSet :=
  return (← edges (Ledger.look ⟨source, symbol⟩)).getD []

/-- Where does a state go without reading? -/
def epsilonTargets (source : Nat) : Asking Nfa StateSet :=
  return (← epsilons (Ledger.look source)).getD []

/-- What are the direct successors of a state on a symbol? -/
def next (state symbol : Value) : Asking Nfa StateSet := do
  let source ← (← get).validate state
  let symbol ← symbol.symbol
  targets source symbol

/-- What are the direct successors of a state by epsilon transitions? -/
def nextEpsilon (state : Value) : Asking Nfa StateSet := do
  epsilonTargets (← (← get).validate state)

/-- What are the transitions? -/
def transitions : Asking Nfa (List Transition) := return transitionsOf (← edges Ledger.entries)

/-- What are the epsilon transitions? -/
def epsilonTransitions : Asking Nfa (List (Nat × Nat)) :=
  return epsilonTransitionsOf (← epsilons Ledger.entries)

/-- How many transitions are there? -/
def transitionCount : Asking Nfa Nat := return countOf (← edges Ledger.entries)

/-- How many epsilon transitions are there? -/
def epsilonCount : Asking Nfa Nat := return countOf (← epsilons Ledger.entries)

/-! #### Closures -/

/-- Which states are reachable from the given ones by epsilon transitions? -/
def closureOf (states : List Nat) : Asking Nfa StateSet := do
  let w ← Worklist.Ask.drain epsilonTargets (states.length + (← epsilonCount)) (.start states)
  return StateSet.ofList w.found

/-- What is the epsilon closure of one state or of several? -/
def epsilonClosure (states : Value) : Asking Nfa StateSet := do
  let states ← match states with
    | .state id => pure [.state id]
    | a => a.word
  closureOf (← (← get).validateAll states)

/-! #### Runs -/

/-- Which states are active after one more symbol? -/
def advance (active : List Nat) (symbol : Symbol) : Asking Nfa StateSet := do
  closureOf (StateSet.ofList (← active.mapM (targets · symbol)).flatten)

/-- Which states are active after a symbol? Where no state is active the symbol is not looked at. -/
def step (active symbol : Value) : Asking Nfa StateSet := do
  match ← (← get).validateAll (← active.word) with
  | [] => return []
  | active => advance active (← symbol.symbol)

/-- Which sets of states are active from a set on? They are cut short behind the first empty one. -/
def trail (active : StateSet) : List Value → Asking Nfa (List StateSet)
  | [] => return [active]
  | a :: rest => do
    match ← advance active (← a.symbol) with
    | [] => return [active, []]
    | active' => return active :: (← trail active' rest)

/-- Which sets of states are active while a word is read, beginning with the closure of the initial
    state? Without states the word is not looked at. -/
def simulate (word : Value) : Asking Nfa (List StateSet) := do
  match (← get).initial? with
  | none => return []
  | some start =>
    let active ← closureOf [start]
    trail active (← word.word)

/-- Which states are active at the end of a word, and how many symbols are taken? Reading stops when
    no state is active any more. -/
def finish (active : StateSet) : List Value → Asking Nfa (StateSet × Nat)
  | [] => return (active, 0)
  | a :: rest => do
    match ← advance active (← a.symbol) with
    | [] => return ([], 1)
    | active' =>
      let (last, read) ← finish active' rest
      return (last, read + 1)

/-- What is the verdict on the symbols of a word? -/
def judgeFrom (active : StateSet) (word : List Value) : Asking Nfa Verdict := do
  let (last, read) ← finish active word
  let accepted := last.any (← get).accepts
  return ⟨accepted, read, [.active accepted last.length]⟩

/-- What is the verdict on a word? It is accepted when an accepting state is active at its end. -/
def judge (word : Value) : Asking Nfa Verdict := do
  match (← get).initial? with
  | none => return .unread
  | some start =>
    let active ← closureOf [start]
    judgeFrom active (← word.word)

end Ask

/-! ### Answers -/

/-- The direct successors of a state on a symbol. -/
def next (n : Nfa) (state symbol : Value) : Except Fault StateSet :=
  (Ask.next state symbol).answer n

/-- The direct successors of a state by epsilon transitions. -/
def nextEpsilon (n : Nfa) (state : Value) : Except Fault StateSet :=
  (Ask.nextEpsilon state).answer n

/-- The epsilon closure of one state or of several. -/
def epsilonClosure (n : Nfa) (states : Value) : Except Fault StateSet :=
  (Ask.epsilonClosure states).answer n

/-- The states active after a symbol. -/
def step (n : Nfa) (active symbol : Value) : Except Fault StateSet :=
  (Ask.step active symbol).answer n

/-- The sets of active states from a set on. -/
def trail (n : Nfa) (active : StateSet) (word : List Value) : Except Fault (List StateSet) :=
  (Ask.trail active word).answer n

/-- The sets of active states while a word is read. -/
def simulate (n : Nfa) (word : Value) : Except Fault (List StateSet) := (Ask.simulate word).answer n

/-- The states active at the end of a word, and the number of symbols that are taken. -/
def finish (n : Nfa) (active : StateSet) (word : List Value) : Except Fault (StateSet × Nat) :=
  (Ask.finish active word).answer n

/-- The verdict on a word. -/
def judge (n : Nfa) (word : Value) : Except Fault Verdict := (Ask.judge word).answer n

end Nfa

end FiniteAutomata

import FiniteAutomata.Asking
import FiniteAutomata.Transition

namespace FiniteAutomata

/-!
# Deterministic automata

A deterministic automaton has at most one transition for each state and symbol. A second one
replaces the first; where there is none, the word is rejected.

* `Dfa`: the states and the table of transitions.
* `Dfa.addTransition`: adds a transition.
* `Dfa.build`, `Dfa.buildAll`: make calls that change the automaton.
* `Dfa.target?`, `Dfa.transitions`: what is in the table.
* `Dfa.Ask`: the questions that can be put to an automaton.
* `Dfa.next`, `Dfa.path`, `Dfa.simulate`, `Dfa.finish`, `Dfa.judge`: their answers.
-/

/-- A deterministic automaton. -/
structure Dfa extends StateSpace where
  edges : Ledger Departure Nat := []
deriving DecidableEq

namespace Dfa

/-- An automaton without states. -/
def new (owner : Nat) : Dfa := { owner }

/-! ### Construction -/

/-- The report on a transition that replaces another one. -/
def replacement (d : Dfa) (source : Nat) (symbol : Symbol) (target : Nat) : List Event :=
  match d.edges.get? ⟨source, symbol⟩ with
  | some previous => if previous = target then [] else [.overwrote source symbol previous target]
  | none => []

/-- The automaton with a transition put into its table. -/
def connect (d : Dfa) (source : Nat) (symbol : Symbol) (target : Nat) : Dfa :=
  { d with edges := d.edges.update ⟨source, symbol⟩ fun _ => target }

/-- Adds a transition. Both states are checked before the symbol, and nothing is changed when one
    of the three is refused. -/
def addTransition (d : Dfa) (source symbol target : Value) : Except Fault (Dfa × List Event) := do
  let source ← d.validate source
  let target ← d.validate target
  let symbol ← symbol.symbol
  return (d.connect source symbol target, d.replacement source symbol target)

/-- Makes a call. -/
def build (d : Dfa) : Construction → Built Dfa
  | .addState accepting => (d.buildState accepting).map fun space => { d with toStateSpace := space }
  | .addTransition source symbol target =>
    match d.addTransition source symbol target with
    | .ok (d', report) => { automaton := d', result := .ok none, report }
    | .error fault => .refused d fault
  | .addEpsilon .. => .refused d .nfaOnly
  | .setInitial state => (d.buildInitial state).map fun space => { d with toStateSpace := space }

/-- The automaton after several calls, whatever they result in. -/
def buildAll (d : Dfa) (calls : List Construction) : Dfa :=
  calls.foldl (fun d call => (d.build call).automaton) d

/-! ### Tables and what they tell -/

/-- Where a state goes on a symbol. -/
def target? (d : Dfa) (source : Nat) (symbol : Symbol) : Option Nat :=
  d.edges.get? ⟨source, symbol⟩

/-- The transitions of a table, in the order in which their departures were first added. -/
def transitionsOf (edges : Ledger Departure Nat) : List Transition :=
  edges.map fun (k, target) => ⟨k.source, k.symbol, target⟩

/-- All transitions. -/
def transitions (d : Dfa) : List Transition := transitionsOf d.edges

/-- The number of transitions. -/
def transitionCount (d : Dfa) : Nat := d.edges.length

/-! ### Questions -/

namespace Ask

/-- A question to the table. -/
def edges {α : Type} (q : Asking (Ledger Departure Nat) α) : Asking Dfa α :=
  .within Dfa.edges (fun d edges => { d with edges }) q

/-- Where does a state go on a symbol? -/
def target? (source : Nat) (symbol : Symbol) : Asking Dfa (Option Nat) :=
  edges (Ledger.look ⟨source, symbol⟩)

/-- What is the successor of a state on a symbol? -/
def next (state symbol : Value) : Asking Dfa (Option Nat) := do
  let source ← (← get).validate state
  let symbol ← symbol.symbol
  target? source symbol

/-- What are the transitions? -/
def transitions : Asking Dfa (List Transition) := return transitionsOf (← edges Ledger.entries)

/-- How many transitions are there? -/
def transitionCount : Asking Dfa Nat := return (← edges Ledger.entries).length

/-- Which states are visited from a state on? The path is cut short at the first symbol without a
    transition. -/
def path (state : Nat) : List Value → Asking Dfa (List Nat)
  | [] => return [state]
  | a :: rest => do
    let symbol ← a.symbol
    match ← target? state symbol with
    | none => return [state]
    | some next => return state :: (← path next rest)

/-- Which states are visited while a word is read, beginning with the initial state? Without states
    the word is not looked at. -/
def simulate (word : Value) : Asking Dfa (List Nat) := do
  match (← get).initial? with
  | none => return []
  | some start => path start (← word.word)

/-- In which state does a word end, unless it is stuck, and how many symbols are taken? -/
def finish (state : Nat) : List Value → Asking Dfa (Option Nat × Nat)
  | [] => return (some state, 0)
  | a :: rest => do
    let symbol ← a.symbol
    match ← target? state symbol with
    | none => return (none, 1)
    | some next =>
      let (last, read) ← finish next rest
      return (last, read + 1)

/-- What is the verdict on the symbols of a word? -/
def judgeFrom (start : Nat) (word : List Value) : Asking Dfa Verdict := do
  match ← finish start word with
  | (none, read) => return ⟨false, read, [.stuck]⟩
  | (some last, read) =>
    let accepted := (← get).accepts last
    return ⟨accepted, read, [.ended accepted last]⟩

/-- What is the verdict on a word? It is accepted when it ends in an accepting state. -/
def judge (word : Value) : Asking Dfa Verdict := do
  match (← get).initial? with
  | none => return .unread
  | some start => judgeFrom start (← word.word)

end Ask

/-! ### Answers -/

/-- The successor of a state on a symbol, if there is one. -/
def next (d : Dfa) (state symbol : Value) : Except Fault (Option Nat) :=
  (Ask.next state symbol).answer d

/-- The states visited from a state on. -/
def path (d : Dfa) (state : Nat) (word : List Value) : Except Fault (List Nat) :=
  (Ask.path state word).answer d

/-- The states visited while a word is read. -/
def simulate (d : Dfa) (word : Value) : Except Fault (List Nat) := (Ask.simulate word).answer d

/-- The state in which a word ends, unless it is stuck, and the number of symbols that are taken. -/
def finish (d : Dfa) (state : Nat) (word : List Value) : Except Fault (Option Nat × Nat) :=
  (Ask.finish state word).answer d

/-- The verdict on a word. -/
def judge (d : Dfa) (word : Value) : Except Fault Verdict := (Ask.judge word).answer d

end Dfa

end FiniteAutomata

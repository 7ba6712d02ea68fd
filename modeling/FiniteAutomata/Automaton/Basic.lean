import FiniteAutomata.Dfa.Basic
import FiniteAutomata.Nfa.Basic

namespace FiniteAutomata

/-!
# Automata

An automaton of either kind.

* `Automaton`: a deterministic or a nondeterministic automaton.
* `Automaton.Run`: the states or the sets of states seen while a word is read.
* `Automaton.Ask`: the questions that can be put to an automaton of either kind.
* `Automaton.simulate`, `Automaton.judge`: how words are read.
* `Automaton.build`, `Automaton.buildAll`: make calls that change the automaton.
-/

/-- The two kinds of automata. -/
inductive AutomatonKind
  | dfa | nfa
deriving DecidableEq, Repr

/-- The short name of a kind, shown to users. -/
def AutomatonKind.shortName : AutomatonKind → String
  | .dfa => "DFA"
  | .nfa => "NFA"

/-- The name of a kind in summaries. -/
def AutomatonKind.name : AutomatonKind → String
  | .dfa => "Dfa"
  | .nfa => "Nfa"

/-- An automaton of either kind. -/
inductive Automaton
  | dfa (d : Dfa)
  | nfa (n : Nfa)
deriving DecidableEq

namespace Automaton

/-- An automaton without states. -/
def new (kind : AutomatonKind) (owner : Nat) : Automaton :=
  match kind with
  | .dfa => .dfa (.new owner)
  | .nfa => .nfa (.new owner)

/-- The kind of an automaton. -/
def kind : Automaton → AutomatonKind
  | .dfa _ => .dfa
  | .nfa _ => .nfa

/-- The states and the initial state. -/
def space : Automaton → StateSpace
  | .dfa d => d.toStateSpace
  | .nfa n => n.toStateSpace

/-! ### Tables and what they tell -/

/-- All transitions that read a symbol. -/
def transitions : Automaton → List Transition
  | .dfa d => d.transitions
  | .nfa n => n.transitions

/-- All transitions that read nothing. -/
def epsilonTransitions : Automaton → List (Nat × Nat)
  | .dfa _ => []
  | .nfa n => n.epsilonTransitions

/-- The number of transitions that read a symbol. -/
def transitionCount : Automaton → Nat
  | .dfa d => d.transitionCount
  | .nfa n => n.transitionCount

/-- The number of transitions that read nothing. -/
def epsilonCount : Automaton → Nat
  | .dfa _ => 0
  | .nfa n => n.epsilonCount

/-- A one-line summary of an automaton with so many transitions. -/
def summaryOf (a : Automaton) (transitions : Nat) : String :=
  a.kind.name ++ "(states=" ++ a.space.size.repr ++ ", transitions=" ++ transitions.repr ++ ")"

/-- A one-line summary. -/
def summary (a : Automaton) : String := a.summaryOf a.transitionCount

/-- What is seen while a word is read. -/
inductive Run
  | path (states : List Nat)
  | trail (sets : List StateSet)
deriving DecidableEq

/-! ### Questions -/

namespace Ask

variable {α : Type}

/-- A question for each kind of automaton. -/
def either (toDfa : Asking Dfa α) (toNfa : Asking Nfa α) : Asking Automaton α := do
  match ← get with
  | .dfa d =>
    let (result, d) := toDfa.ask d
    set (Automaton.dfa d)
    result
  | .nfa n =>
    let (result, n) := toNfa.ask n
    set (Automaton.nfa n)
    result

/-- How many states are there? -/
def size : Asking Automaton Nat := return (← get).space.size

/-- What are the transitions that read a symbol? -/
def transitions : Asking Automaton (List Transition) :=
  either Dfa.Ask.transitions Nfa.Ask.transitions

/-- What are the transitions that read nothing? -/
def epsilonTransitions : Asking Automaton (List (Nat × Nat)) :=
  either (pure []) Nfa.Ask.epsilonTransitions

/-- How many transitions read a symbol? -/
def transitionCount : Asking Automaton Nat := either Dfa.Ask.transitionCount Nfa.Ask.transitionCount

/-- How many transitions read nothing? -/
def epsilonCount : Asking Automaton Nat := either (pure 0) Nfa.Ask.epsilonCount

/-- What is the summary? -/
def summary : Asking Automaton String := do
  let a ← get
  return a.summaryOf (← transitionCount)

/-- What is seen while a word is read? -/
def simulate (word : Value) : Asking Automaton Run :=
  either (return .path (← Dfa.Ask.simulate word)) (return .trail (← Nfa.Ask.simulate word))

/-- What is the verdict on a word? -/
def judge (word : Value) : Asking Automaton Verdict :=
  either (Dfa.Ask.judge word) (Nfa.Ask.judge word)

end Ask

/-- What is seen while a word is read. -/
def simulate (a : Automaton) (word : Value) : Except Fault Run := (Ask.simulate word).answer a

/-- The verdict on a word. -/
def judge (a : Automaton) (word : Value) : Except Fault Verdict := (Ask.judge word).answer a

end Automaton

/-! ### Construction -/

namespace Automaton

/-- Makes a call. -/
def build (a : Automaton) (call : Construction) : Built Automaton :=
  match a with
  | .dfa d => (d.build call).map .dfa
  | .nfa n => (n.build call).map .nfa

/-- Makes several calls, whatever they result in, and gathers the reports. -/
def buildAll (a : Automaton) : List Construction → Automaton × List Event
  | [] => (a, [])
  | c :: rest =>
    let built := a.build c
    let (last, report) := built.automaton.buildAll rest
    (last, built.report ++ report)

end Automaton

end FiniteAutomata

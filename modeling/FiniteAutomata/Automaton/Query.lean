import FiniteAutomata.Description
import FiniteAutomata.StateName

namespace FiniteAutomata

/-!
# Queries and calls

The questions that can be put to a registry or an automaton, and calls of any sort. A question passes
on what it was put to like any other call.

* `StateQuery`: what a registry can be asked.
* `Query`: what an automaton can be asked.
* `Answer`: the answers.
* `StateQuery.asking`, `Automaton.Ask.query`: the questions.
* `Registry.answer`, `Automaton.answer`: their answers.
* `Call`: a question or a call that changes an automaton.
* `Registry.perform?`, `Automaton.perform`: make a call.
-/

/-- What a registry can be asked about its states. -/
inductive StateQuery
  | validate (state : Value)
  | accepting (state : Value)
  | record (state : Value)
  | lookup (index : Int)
  | contains (state : Value)
  | records
  | indexes
  | size
deriving DecidableEq

/-- What an automaton can be asked. -/
inductive Query
  | states (query : StateQuery)
  | initial
  | next (state symbol : Value)
  | nextEpsilon (state : Value)
  | transitions
  | epsilonTransitions
  | transitionCount
  | epsilonCount
  | closure (states : Value)
  | step (active symbol : Value)
  | simulate (word : Value)
  | judge (word : Value)
  | summary
  | dot
  | describe (name : String)
  | resolve (token : String)
deriving DecidableEq

/-- A state with its flag. -/
structure StateRecord where
  index : Nat
  accepting : Bool
deriving DecidableEq, Repr

/-- A state with its flag as it is written in a message. -/
def StateRecord.literal (r : StateRecord) : String :=
  "State(id=StateId(index=" ++ r.index.repr ++ "), accepting=" ++
    (if r.accepting then "True" else "False") ++ ")"

/-- The answer to a question. -/
inductive Answer
  | flag (b : Bool)
  | count (n : Nat)
  | text (s : String)
  | state (index : Option Nat)
  | set (states : StateSet)
  | record (r : StateRecord)
  | records (rs : List StateRecord)
  | transitions (ts : List Transition)
  | epsilonTransitions (ts : List (Nat × Nat))
  | run (r : Automaton.Run)
  | verdict (v : Verdict)
deriving DecidableEq

/-! ### Registries -/

namespace Registry

/-- The state at a position with its flag. -/
def recordAt (r : Registry) (index : Nat) : StateRecord := ⟨index, r.accepts index⟩

/-- The answer to a question about states. -/
def answer (r : Registry) : StateQuery → Except Fault Answer
  | .validate state => return .state (some (← r.validate state))
  | .accepting state => return .flag (r.accepts (← r.validate state))
  | .record state => return .record (r.recordAt (← r.validate state))
  | .lookup index => return .state (some (← r.lookup index))
  | .contains state => .ok (.flag (r.contains state))
  | .records => .ok (.records (r.indexes.map r.recordAt))
  | .indexes => .ok (.set r.indexes)
  | .size => .ok (.count r.size)

end Registry

/-- A question about the states of a registry. -/
def StateQuery.asking (query : StateQuery) : Asking Registry Answer := do
  (← get).answer query

/-! ### Automata -/

namespace Automaton

namespace Ask

/-- A question about the states. -/
def states (query : StateQuery) : Asking Automaton Answer := do
  (← get).space.toRegistry.answer query

/-- What are the successors of a state on a symbol? -/
def next (state symbol : Value) : Asking Automaton Answer :=
  either (return .state (← Dfa.Ask.next state symbol)) (return .set (← Nfa.Ask.next state symbol))

/-- What only an automaton with epsilon transitions can be asked. -/
def onlyNfa {α : Type} (q : Asking Nfa α) : Asking Automaton α := either (throw .nfaOnly) q

/-- Any question. -/
def query : Query → Asking Automaton Answer
  | .states query => states query
  | .initial => return .state (← get).space.initial?
  | .next state symbol => next state symbol
  | .nextEpsilon state => return .set (← onlyNfa (Nfa.Ask.nextEpsilon state))
  | .transitions => return .transitions (← transitions)
  | .epsilonTransitions => return .epsilonTransitions (← onlyNfa Nfa.Ask.epsilonTransitions)
  | .transitionCount => return .count (← transitionCount)
  | .epsilonCount => return .count (← onlyNfa Nfa.Ask.epsilonCount)
  | .closure states => return .set (← onlyNfa (Nfa.Ask.epsilonClosure states))
  | .step active symbol => return .set (← onlyNfa (Nfa.Ask.step active symbol))
  | .simulate word => return .run (← simulate word)
  | .judge word => return .verdict (← judge word)
  | .summary => return .text (← summary)
  | .dot => return .text (← dot)
  | .describe name => return .text (← description name)
  | .resolve token => do return .state (some (← (← get).space.resolve token))

end Ask

/-- The successors of a state on a symbol, as an answer. -/
def next (a : Automaton) (state symbol : Value) : Except Fault Answer :=
  (Ask.next state symbol).answer a

/-- The answer to a question. -/
def answer (a : Automaton) (query : Query) : Except Fault Answer := (Ask.query query).answer a

end Automaton

/-! ### Calls -/

/-- A call on an automaton: one that changes it, or a question. -/
inductive Call
  | build (call : Construction)
  | ask (query : Query)
deriving DecidableEq

/-- What a call did: the automaton afterwards, the answer or why the call was refused, and what was
    reported. -/
structure Called (α : Type) where
  automaton : α
  result : Except Fault Answer
  report : List Event := []

/-- What is reported while a question is answered. -/
def Answer.report : Answer → List Event
  | .verdict v => v.report
  | _ => []

/-- What a call that changes an automaton did, its result as an answer. -/
def Built.called {α : Type} (b : Built α) : Called α :=
  { automaton := b.automaton, result := b.result.map .state, report := b.report }

/-- A question that was answered or refused, and what it was put to, as the question left it. -/
def Called.asked {α : Type} (asked : Except Fault Answer × α) : Called α :=
  { automaton := asked.2
    result := asked.1
    report := match asked.1 with
      | .ok answer => answer.report
      | .error _ => [] }

/-- Makes a call. -/
def Automaton.perform (a : Automaton) : Call → Called Automaton
  | .build call => (a.build call).called
  | .ask query => .asked ((Ask.query query).ask a)

/-- Makes a call. A registry only knows how to add states and answers questions about states;
    any other call is none of its own. -/
def Registry.perform? (r : Registry) : Call → Option (Called Registry)
  | .build (.addState accepting) =>
    some {
      automaton := r.add accepting
      result := .ok (.state (some r.size))
      report := [r.addition accepting] }
  | .ask (.states query) => some (.asked (query.asking.ask r))
  | _ => none

end FiniteAutomata

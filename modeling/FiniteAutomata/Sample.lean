import FiniteAutomata.Automaton.Basic

namespace FiniteAutomata

/-!
# Sample automata

Three small automata, ready to be loaded.

* `Sample`: their names.
* `Sample.steps`: the calls that build each of them.
* `Sample.automaton`, `Sample.report`: the automaton and what is reported while it is built.
-/

/-- A ready-made automaton. -/
inductive Sample
  /-- Accepts the words over `0` and `1` with an even number of zeros. -/
  | evenZeros
  /-- Accepts the words over `0` and `1` that end in `1`. -/
  | endsWithOne
  /-- Accepts the words over `a` and `b` that end in `b`. -/
  | endsWithB
deriving DecidableEq, Repr

namespace Sample

/-- All samples, in the order in which they are offered. -/
def all : List Sample := [.evenZeros, .endsWithOne, .endsWithB]

/-- The name under which a sample is loaded. -/
def name : Sample → String
  | .evenZeros => "even_zeros"
  | .endsWithOne => "ends_with_one"
  | .endsWithB => "ends_with_b"

/-- The sample with a name. -/
def ofName? (name : String) : Option Sample := all.find? (·.name == name)

/-- The kind of automaton that a sample is. -/
def kind : Sample → AutomatonKind
  | .evenZeros => .dfa
  | .endsWithOne => .nfa
  | .endsWithB => .nfa

/-- The calls that build a sample. -/
def steps (sample : Sample) (owner : Nat) : List Construction :=
  let first := Value.state ⟨0, owner⟩
  let second := Value.state ⟨1, owner⟩
  match sample with
  | .evenZeros =>
    [.addState (.truth true), .addState (.truth false),
     .addTransition first (.text "1") first, .addTransition second (.text "1") second,
     .addTransition first (.text "0") second, .addTransition second (.text "0") first]
  | .endsWithOne =>
    [.addState (.truth false), .addState (.truth true), .addEpsilon first first,
     .addTransition first (.text "0") first, .addTransition first (.text "1") first,
     .addTransition first (.text "1") second, .addTransition second (.text "0") first,
     .addTransition second (.text "1") second]
  | .endsWithB =>
    [.addState (.truth false), .addState (.truth true),
     .addTransition first (.text "a") first, .addTransition first (.text "b") first,
     .addTransition first (.text "b") second, .addEpsilon second second]

/-- The automaton of a sample. -/
def automaton (sample : Sample) (owner : Nat) : Automaton :=
  ((Automaton.new sample.kind owner).buildAll (sample.steps owner)).1

/-- What is reported while a sample is built. -/
def report (sample : Sample) (owner : Nat) : List Event :=
  ((Automaton.new sample.kind owner).buildAll (sample.steps owner)).2

end Sample

end FiniteAutomata

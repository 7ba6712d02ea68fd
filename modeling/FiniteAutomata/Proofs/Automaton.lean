import FiniteAutomata.Automaton.Basic
import FiniteAutomata.Proofs.Dfa.History
import FiniteAutomata.Proofs.Nfa.History

namespace FiniteAutomata.Automaton

/-!
# Automata of either kind

What is true of the tables of both kinds of automata, and what calls do to either.

* `Sound`, `sound_buildAll_new`: what is true of an automaton after any calls.
* `Sound.within_transitions`, `Sound.within_epsilonTransitions`, `Sound.initial_lt`: all states that
  are listed are states of the automaton.
* `result_addState`, `result_addTransition`, `result_addEpsilon`, `result_setInitial`: calls with
  states of the automaton are met.
* `kind_build`, `space_addTransition`, `space_addEpsilon`, `space_setInitial`: what calls leave alone.
-/

theorem buildAll_dfa (d : Dfa) (calls : List Construction) :
    ((Automaton.dfa d).buildAll calls).1 = .dfa (d.buildAll calls) := by
  induction calls generalizing d with
  | nil => rfl
  | cons call rest ih => exact ih (d.build call).automaton

theorem buildAll_nfa (n : Nfa) (calls : List Construction) :
    ((Automaton.nfa n).buildAll calls).1 = .nfa (n.buildAll calls) := by
  induction calls generalizing n with
  | nil => rfl
  | cons call rest ih => exact ih (n.build call).automaton

/-- A new automaton has the states of a new registry: none. -/
theorem registry_new (kind : AutomatonKind) (owner : Nat) :
    (new kind owner).space.toRegistry = { owner } := by
  cases kind <;> rfl

/-! ### Tables -/

/-- What is true of the tables of an automaton after any calls. -/
def Sound : Automaton → Prop
  | .dfa d => d.Sound
  | .nfa n => n.Sound

theorem sound_buildAll_new (kind : AutomatonKind) (owner : Nat) (calls : List Construction) :
    ((new kind owner).buildAll calls).1.Sound := by
  cases kind with
  | dfa =>
    rw [new, buildAll_dfa]
    exact Dfa.sound_buildAll_new owner calls
  | nfa =>
    rw [new, buildAll_nfa]
    exact Nfa.sound_buildAll_new owner calls

variable {a : Automaton} {s t : Nat}

theorem Sound.within_transitions (ha : a.Sound) :
    ∀ t ∈ a.transitions, t.source < a.space.size ∧ t.target < a.space.size := by
  cases a with
  | dfa d => exact Dfa.Sound.within_transitions ha
  | nfa n => exact Nfa.Sound.within_transitions ha

/-- Only a nondeterministic automaton has epsilon transitions. -/
theorem Sound.within_epsilonTransitions (ha : a.Sound) :
    ∀ e ∈ a.epsilonTransitions,
      a.kind = .nfa ∧ e.1 < a.space.size ∧ e.2 < a.space.size := by
  cases a with
  | dfa d => exact fun _ he => nomatch he
  | nfa n => exact fun e he => ⟨rfl, Nfa.Sound.within_epsilonTransitions ha e he⟩

/-- The initial state is one of the states. -/
theorem Sound.space (ha : a.Sound) : a.space.Sound := by
  cases a with
  | dfa d => exact Dfa.Sound.initial ha
  | nfa n => exact Nfa.Sound.initial ha

theorem Sound.initial_lt (ha : a.Sound) (hs : a.space.initial? = some s) :
    s < a.space.size :=
  ha.space.initial_lt hs

theorem length_epsilonTransitions (a : Automaton) : a.epsilonTransitions.length = a.epsilonCount := by
  cases a with
  | dfa d => rfl
  | nfa n => exact n.length_epsilonTransitions

theorem length_transitions (a : Automaton) : a.transitions.length = a.transitionCount := by
  cases a with
  | dfa d => exact d.length_transitions
  | nfa n => exact n.length_transitions

/-! ### Calls with states of the automaton -/

theorem result_addState (a : Automaton) (accepting : Value) :
    (a.build (.addState accepting)).result = .ok (some a.space.size) := by
  cases a <;> rfl

theorem result_addTransition (hs : s < a.space.size) (symbol : Symbol) (ht : t < a.space.size) :
    (a.build (.addTransition (a.space.state s) symbol.value (a.space.state t))).result =
      .ok none := by
  cases a with
  | dfa d => exact congrArg Built.result (Dfa.build_addTransition hs symbol ht)
  | nfa n => exact congrArg Built.result (Nfa.build_addTransition hs symbol ht)

theorem result_addEpsilon (hkind : a.kind = .nfa) (hs : s < a.space.size) (ht : t < a.space.size) :
    (a.build (.addEpsilon (a.space.state s) (a.space.state t))).result = .ok none := by
  cases a with
  | dfa d => cases hkind
  | nfa n => exact congrArg Built.result (Nfa.build_addEpsilon hs ht)

/-- A choice of an initial state results in the check of its argument. -/
theorem result_setInitial_eq (a : Automaton) (state : Value) :
    (a.build (.setInitial state)).result = (a.space.validate state).map some := by
  cases a with
  | dfa d =>
    simp only [build, Dfa.build, StateSpace.buildInitial, StateSpace.setInitial, space]
    cases d.validate state <;> rfl
  | nfa n =>
    simp only [build, Nfa.build, StateSpace.buildInitial, StateSpace.setInitial, space]
    cases n.validate state <;> rfl

theorem result_setInitial (hs : s < a.space.size) :
    (a.build (.setInitial (a.space.state s))).result = .ok (some s) := by
  rw [result_setInitial_eq, Registry.validate_state hs]
  rfl

/-! ### What calls keep -/

theorem kind_build (a : Automaton) (call : Construction) :
    (a.build call).automaton.kind = a.kind := by
  cases a <;> rfl

/-- Transitions leave the states and the initial state alone. -/
theorem space_addTransition (a : Automaton) (source symbol target : Value) :
    (a.build (.addTransition source symbol target)).automaton.space = a.space := by
  cases a with
  | dfa d =>
    simp only [build, Dfa.build]
    cases h : d.addTransition source symbol target with
    | error fault => rfl
    | ok result =>
      obtain ⟨_, _, _, -, -, -, hconnect, -⟩ := Dfa.addTransition_eq_ok_iff.1 h
      simp only [hconnect]
      rfl
  | nfa n =>
    simp only [build, Nfa.build, Nfa.addTransition]
    split
    · rfl
    · split <;> rfl

theorem space_addEpsilon (a : Automaton) (source target : Value) :
    (a.build (.addEpsilon source target)).automaton.space = a.space := by
  cases a with
  | dfa d => rfl
  | nfa n =>
    simp only [build, Nfa.build, Nfa.addEpsilon]
    split
    · rfl
    · split <;> rfl

/-- A choice of an initial state that is refused changes nothing, any other one changes the choice. -/
theorem space_setInitial (a : Automaton) (state : Value) :
    (a.build (.setInitial state)).automaton.space =
      { a.space with chosen := (a.space.validate state).toOption.or a.space.chosen } := by
  cases a with
  | dfa d =>
    simp only [build, Dfa.build, StateSpace.buildInitial, StateSpace.setInitial, space]
    cases d.validate state <;> rfl
  | nfa n =>
    simp only [build, Nfa.build, StateSpace.buildInitial, StateSpace.setInitial, space]
    cases n.validate state <;> rfl

end FiniteAutomata.Automaton

import FiniteAutomata.Automaton.Query
import FiniteAutomata.Proofs.Dfa.Asking
import FiniteAutomata.Proofs.Nfa.Asking

namespace FiniteAutomata

/-!
# Questions to automata

No question to an automaton leaves a trace, whichever of its kinds it is put to, and so none to a
registry. The answers are told by the tables.

* `Automaton.Ask.traceless_query`, `StateQuery.traceless_asking`: no question leaves a trace.
* `Automaton.perform_ask`, `Registry.perform?_ask`: what a question does as a call.
* `Automaton.simulate_dfa`, `Automaton.judge_nfa`, `Automaton.drawing_def`, `Automaton.dot_def`,
  `Automaton.description_def` and others: the answers.
-/

namespace Automaton

namespace Ask

/-! ### Questions for each kind -/

section either

variable {α : Type} {p : Asking Dfa α} {q : Asking Nfa α}

theorem ask_either_dfa (p : Asking Dfa α) (q : Asking Nfa α) (d : Dfa) :
    (either p q).ask (.dfa d) = ((p.ask d).1, .dfa (p.ask d).2) := by
  show (liftM (p.ask d).1 : Asking Automaton α).ask (.dfa (p.ask d).2) = _
  cases (p.ask d).1 <;> rfl

theorem ask_either_nfa (p : Asking Dfa α) (q : Asking Nfa α) (n : Nfa) :
    (either p q).ask (.nfa n) = ((q.ask n).1, .nfa (q.ask n).2) := by
  show (liftM (q.ask n).1 : Asking Automaton α).ask (.nfa (q.ask n).2) = _
  cases (q.ask n).1 <;> rfl

theorem traceless_either (hp : p.Traceless) (hq : q.Traceless) : (either p q).Traceless := by
  rintro (d | n)
  · rw [ask_either_dfa, hp]
  · rw [ask_either_nfa, hq]

@[simp] theorem answer_either_dfa (d : Dfa) : (either p q).answer (.dfa d) = p.answer d := by
  rw [Asking.answer, ask_either_dfa]
  rfl

@[simp] theorem answer_either_nfa (n : Nfa) : (either p q).answer (.nfa n) = q.answer n := by
  rw [Asking.answer, ask_either_nfa]
  rfl

theorem traceless_onlyNfa (hq : q.Traceless) : (onlyNfa q).Traceless :=
  traceless_either (Asking.traceless_throw .nfaOnly) hq

theorem answer_onlyNfa_nfa {β : Type} (hq : q.Traceless) (k : α → Asking Automaton β) (n : Nfa) :
    (onlyNfa q >>= k).answer (.nfa n) = q.answer n >>= fun x => (k x).answer (.nfa n) := by
  rw [(traceless_onlyNfa hq).answer_bind, onlyNfa, answer_either_nfa]

end either

/-! ### Tables -/

theorem traceless_transitions : transitions.Traceless :=
  traceless_either Dfa.Ask.traceless_transitions Nfa.Ask.traceless_transitions

@[simp] theorem answer_transitions (a : Automaton) : transitions.answer a = .ok a.transitions := by
  cases a <;> rfl

theorem traceless_epsilonTransitions : epsilonTransitions.Traceless :=
  traceless_either (Asking.traceless_pure []) Nfa.Ask.traceless_epsilonTransitions

@[simp] theorem answer_epsilonTransitions (a : Automaton) :
    epsilonTransitions.answer a = .ok a.epsilonTransitions := by
  cases a <;> rfl

theorem traceless_transitionCount : transitionCount.Traceless :=
  traceless_either Dfa.Ask.traceless_transitionCount Nfa.Ask.traceless_transitionCount

@[simp] theorem answer_transitionCount (a : Automaton) :
    transitionCount.answer a = .ok a.transitionCount := by
  cases a <;> rfl

theorem traceless_epsilonCount : epsilonCount.Traceless :=
  traceless_either (Asking.traceless_pure 0) Nfa.Ask.traceless_epsilonCount

@[simp] theorem answer_epsilonCount (a : Automaton) :
    epsilonCount.answer a = .ok a.epsilonCount := by
  cases a <;> rfl

theorem traceless_next (state symbol : Value) : (next state symbol).Traceless :=
  traceless_either ((Dfa.Ask.traceless_next state symbol).bind fun _ => Asking.traceless_pure _)
    ((Nfa.Ask.traceless_next state symbol).bind fun _ => Asking.traceless_pure _)

/-! ### Words -/

theorem traceless_simulate (word : Value) : (simulate word).Traceless :=
  traceless_either ((Dfa.Ask.traceless_simulate word).bind fun _ => Asking.traceless_pure _)
    ((Nfa.Ask.traceless_simulate word).bind fun _ => Asking.traceless_pure _)

theorem traceless_judge (word : Value) : (judge word).Traceless :=
  traceless_either (Dfa.Ask.traceless_judge word) (Nfa.Ask.traceless_judge word)

/-! ### Texts -/

theorem traceless_summary : summary.Traceless :=
  Asking.traceless_get.bind fun _ => traceless_transitionCount.bind fun _ => Asking.traceless_pure _

theorem traceless_drawing : drawing.Traceless :=
  Asking.traceless_get.bind fun _ => traceless_transitions.bind fun ts =>
    (Asking.traceless_lift (symbolEdgesOf ts)).bind fun _ =>
      traceless_epsilonTransitions.bind fun _ => Asking.traceless_pure _

theorem traceless_dot : dot.Traceless := traceless_drawing.bind fun _ => Asking.traceless_pure _

theorem traceless_listing : listing.Traceless :=
  Asking.traceless_get.bind fun _ => traceless_transitionCount.bind fun _ =>
    traceless_transitions.bind fun _ => traceless_epsilonCount.bind fun _ =>
      traceless_epsilonTransitions.bind fun _ => Asking.traceless_pure _

@[simp] theorem answer_listing (a : Automaton) : listing.answer a = .ok a.listing := by
  cases a <;> rfl

theorem traceless_description (name : String) : (description name).Traceless :=
  traceless_listing.bind fun l => Asking.traceless_lift (l.description name)

/-! ### All questions -/

theorem traceless_states (query : StateQuery) : (states query).Traceless :=
  Asking.traceless_get.bind fun a => Asking.traceless_lift (a.space.toRegistry.answer query)

/-- No question leaves a trace. -/
theorem traceless_query (q : Query) : (query q).Traceless := by
  cases q with
  | states q => exact traceless_states q
  | initial => exact Asking.traceless_get.bind fun _ => Asking.traceless_pure _
  | next state symbol => exact traceless_next state symbol
  | nextEpsilon state =>
    exact (traceless_onlyNfa (Nfa.Ask.traceless_nextEpsilon state)).bind fun _ =>
      Asking.traceless_pure _
  | transitions => exact traceless_transitions.bind fun _ => Asking.traceless_pure _
  | epsilonTransitions =>
    exact (traceless_onlyNfa Nfa.Ask.traceless_epsilonTransitions).bind fun _ =>
      Asking.traceless_pure _
  | transitionCount => exact traceless_transitionCount.bind fun _ => Asking.traceless_pure _
  | epsilonCount =>
    exact (traceless_onlyNfa Nfa.Ask.traceless_epsilonCount).bind fun _ => Asking.traceless_pure _
  | closure states =>
    exact (traceless_onlyNfa (Nfa.Ask.traceless_epsilonClosure states)).bind fun _ =>
      Asking.traceless_pure _
  | step active symbol =>
    exact (traceless_onlyNfa (Nfa.Ask.traceless_step active symbol)).bind fun _ =>
      Asking.traceless_pure _
  | simulate word => exact (traceless_simulate word).bind fun _ => Asking.traceless_pure _
  | judge word => exact (traceless_judge word).bind fun _ => Asking.traceless_pure _
  | summary => exact traceless_summary.bind fun _ => Asking.traceless_pure _
  | dot => exact traceless_dot.bind fun _ => Asking.traceless_pure _
  | describe name => exact (traceless_description name).bind fun _ => Asking.traceless_pure _
  | resolve token =>
    exact Asking.traceless_get.bind fun a => (Asking.traceless_lift (a.space.resolve token)).bind
      fun _ => Asking.traceless_pure _

end Ask

/-! ### Answers -/

@[simp] theorem simulate_dfa (d : Dfa) (word : Value) :
    (Automaton.dfa d).simulate word = do return .path (← d.simulate word) := by
  rw [simulate, Ask.simulate, Ask.answer_either_dfa]
  exact (Dfa.Ask.traceless_simulate word).answer_bind _ d

@[simp] theorem simulate_nfa (n : Nfa) (word : Value) :
    (Automaton.nfa n).simulate word = do return .trail (← n.simulate word) := by
  rw [simulate, Ask.simulate, Ask.answer_either_nfa]
  exact (Nfa.Ask.traceless_simulate word).answer_bind _ n

@[simp] theorem judge_dfa (d : Dfa) (word : Value) : (Automaton.dfa d).judge word = d.judge word :=
  Ask.answer_either_dfa d

@[simp] theorem judge_nfa (n : Nfa) (word : Value) : (Automaton.nfa n).judge word = n.judge word :=
  Ask.answer_either_nfa n

variable (a : Automaton)

/-- The edges to draw for the transitions that read a symbol. -/
def symbolEdges : Except Fault (List LabelledEdge) := symbolEdgesOf a.transitions

/-- The edges to draw for the epsilon transitions. -/
def epsilonEdges : List LabelledEdge := epsilonEdgesOf a.epsilonTransitions

theorem drawing_def :
    a.drawing = do
      return {
        kind := a.kind
        circles := a.space.flags
        initial? := a.space.initial?
        arrows := arrowsOf ((← a.symbolEdges) ++ a.epsilonEdges) } := by
  rw [drawing, Ask.drawing, Asking.answer_get_bind, Ask.traceless_transitions.answer_bind,
    Ask.answer_transitions, ok_bind, Asking.answer_lift_bind]
  refine bind_congr fun edges => ?_
  rw [Ask.traceless_epsilonTransitions.answer_bind, Ask.answer_epsilonTransitions, ok_bind]
  rfl

theorem dot_def : a.dot = do return (← a.drawing).source := Ask.traceless_drawing.answer_bind _ a

/-- The lines of the transitions that read a symbol. -/
def transitionLines : Except Fault (List TransitionLine) := transitionLinesOf a.transitions

/-- The lines of the epsilon transitions. -/
def epsilonLines : List TransitionLine := epsilonLinesOf a.epsilonTransitions

/-- The lines about the epsilon transitions, which only a nondeterministic automaton has. -/
def epsilonSection : List String := a.listing.epsilonSection

theorem description_def (name : String) : a.description name = a.listing.description name := by
  rw [description, Ask.description, Ask.traceless_listing.answer_bind, Ask.answer_listing, ok_bind]
  rfl

/-! ### Answers to all questions -/

theorem answer_states (query : StateQuery) :
    a.answer (.states query) = a.space.toRegistry.answer query := rfl

theorem answer_initial : a.answer .initial = .ok (.state a.space.initial?) := rfl

theorem answer_transitions : a.answer .transitions = .ok (.transitions a.transitions) := by
  cases a <;> rfl

theorem answer_transitionCount : a.answer .transitionCount = .ok (.count a.transitionCount) := by
  cases a <;> rfl

theorem answer_summary : a.answer .summary = .ok (.text a.summary) := by
  cases a <;> rfl

theorem answer_simulate (word : Value) :
    a.answer (.simulate word) = do return .run (← a.simulate word) :=
  (Ask.traceless_simulate word).answer_bind _ a

theorem answer_judge (word : Value) :
    a.answer (.judge word) = do return .verdict (← a.judge word) :=
  (Ask.traceless_judge word).answer_bind _ a

theorem answer_dot : a.answer .dot = do return .text (← a.dot) := Ask.traceless_dot.answer_bind _ a

theorem answer_describe (name : String) :
    a.answer (.describe name) = do return .text (← a.description name) :=
  (Ask.traceless_description name).answer_bind _ a

theorem answer_resolve (token : String) :
    a.answer (.resolve token) = do return .state (some (← a.space.resolve token)) := by
  rw [answer, Ask.query, Asking.answer_get_bind, Asking.answer_lift_bind]
  rfl

theorem answer_next (state symbol : Value) :
    a.answer (.next state symbol) = a.next state symbol := rfl

theorem next_of_dfa (d : Dfa) (state symbol : Value) :
    (Automaton.dfa d).next state symbol = do return .state (← d.next state symbol) :=
  (Ask.answer_either_dfa d).trans ((Dfa.Ask.traceless_next state symbol).answer_bind _ d)

theorem next_of_nfa (n : Nfa) (state symbol : Value) :
    (Automaton.nfa n).next state symbol = do return .set (← n.next state symbol) :=
  (Ask.answer_either_nfa n).trans ((Nfa.Ask.traceless_next state symbol).answer_bind _ n)

theorem answer_nextEpsilon (n : Nfa) (state : Value) :
    (Automaton.nfa n).answer (.nextEpsilon state) = do return .set (← n.nextEpsilon state) :=
  Ask.answer_onlyNfa_nfa (Nfa.Ask.traceless_nextEpsilon state) _ n

theorem answer_epsilonTransitions (n : Nfa) :
    (Automaton.nfa n).answer .epsilonTransitions =
      .ok (.epsilonTransitions n.epsilonTransitions) :=
  Ask.answer_onlyNfa_nfa Nfa.Ask.traceless_epsilonTransitions _ n

theorem answer_epsilonCount (n : Nfa) :
    (Automaton.nfa n).answer .epsilonCount = .ok (.count n.epsilonCount) :=
  Ask.answer_onlyNfa_nfa Nfa.Ask.traceless_epsilonCount _ n

theorem answer_closure (n : Nfa) (states : Value) :
    (Automaton.nfa n).answer (.closure states) = do return .set (← n.epsilonClosure states) :=
  Ask.answer_onlyNfa_nfa (Nfa.Ask.traceless_epsilonClosure states) _ n

theorem answer_step (n : Nfa) (active symbol : Value) :
    (Automaton.nfa n).answer (.step active symbol) = do return .set (← n.step active symbol) :=
  Ask.answer_onlyNfa_nfa (Nfa.Ask.traceless_step active symbol) _ n

end Automaton

/-! ### Questions as calls -/

theorem StateQuery.traceless_asking (query : StateQuery) : query.asking.Traceless :=
  Asking.traceless_get.bind fun r => Asking.traceless_lift (r.answer query)

/-- A question is answered, and the automaton is passed on as it was. -/
theorem Automaton.perform_ask (a : Automaton) (query : Query) :
    a.perform (.ask query) = .asked (a.answer query, a) :=
  congrArg Called.asked ((Ask.traceless_query query).ask_eq a)

theorem Registry.perform?_ask (r : Registry) (query : StateQuery) :
    r.perform? (.ask (.states query)) = some (.asked (r.answer query, r)) :=
  congrArg (fun asked => some (Called.asked asked)) (query.traceless_asking.ask_eq r)

end FiniteAutomata

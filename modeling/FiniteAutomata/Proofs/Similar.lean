import FiniteAutomata.Automaton.Query
import FiniteAutomata.Proofs.Contents

namespace FiniteAutomata

/-!
# Similar automata answer alike

Automata with the same states whose states go to the same states give the same answer to every
question, except that nondeterministic ones may list their transitions in another order and another
spelling. Where all symbols are texts they are also drawn and described alike.

* `Answer.Alike`, `ResultsAlike`, `Called.Alike`: how much of an answer is determined.
* `Automaton.Similar`: equal deterministic or similar nondeterministic automata.
* `Automaton.Similar.answer`: similar automata answer every question alike.
* `Automaton.Similar.perform`: every call does alike on them, and they stay similar.
* `Automaton.similar_of_refused`: a refused call makes no difference.
-/

/-! ### Answers that are alike -/

/-- Two answers to a call on an automaton are alike: they are equal, except for the order and the
    spelling of the listings of a nondeterministic automaton, and for its drawing and its
    description where not all symbols are texts. -/
inductive Answer.Alike : Automaton → Call → Answer → Answer → Prop
  | same {a : Automaton} {call : Call} (x : Answer) : Alike a call x x
  | transitions {n : Nfa} {ts us : List Transition} (h : SameEdges ts us) :
    Alike (.nfa n) (.ask .transitions) (.transitions ts) (.transitions us)
  | epsilonTransitions {n : Nfa} {es fs : List (Nat × Nat)} (h : es.Perm fs) :
    Alike (.nfa n) (.ask .epsilonTransitions) (.epsilonTransitions es) (.epsilonTransitions fs)
  | dot {n : Nfa} (h : ¬ OnlyTexts n.transitions) (s t : String) :
    Alike (.nfa n) (.ask .dot) (.text s) (.text t)
  | describe {n : Nfa} (h : ¬ OnlyTexts n.transitions) (name s t : String) :
    Alike (.nfa n) (.ask (.describe name)) (.text s) (.text t)

/-- Two results of a call are alike: it was refused for the same reason, or the answers are
    alike. -/
inductive ResultsAlike (a : Automaton) (call : Call) :
    Except Fault Answer → Except Fault Answer → Prop
  | refused (fault : Fault) : ResultsAlike a call (.error fault) (.error fault)
  | answered {x y : Answer} (h : Answer.Alike a call x y) : ResultsAlike a call (.ok x) (.ok y)

/-- A call did alike on two automata: its results are alike and the reports are the same. -/
structure Called.Alike (a : Automaton) (call : Call) (c d : Called Automaton) : Prop where
  result : ResultsAlike a call c.result d.result
  report : c.report = d.report

theorem ResultsAlike.of_eq {a : Automaton} {call : Call} {x y : Except Fault Answer} (h : x = y) :
    ResultsAlike a call x y := by
  subst h
  cases x with
  | error fault => exact .refused fault
  | ok answer => exact .answered (.same answer)

/-- Results that are refused together are alike if any answers to the call are. -/
theorem ResultsAlike.of_sameRefusal {a : Automaton} {call : Call} {x y : Except Fault Answer}
    (h : SameRefusal x y)
    (hanswers : ∀ answer answer', x = .ok answer → y = .ok answer' →
      Answer.Alike a call answer answer') : ResultsAlike a call x y := by
  cases x with
  | error fault =>
    rw [(h fault).1 rfl]
    exact .refused fault
  | ok answer =>
    cases y with
    | error fault => cases (h fault).2 rfl
    | ok answer' => exact .answered (hanswers answer answer' rfl rfl)

theorem ResultsAlike.isOk_eq {a : Automaton} {call : Call} {x y : Except Fault Answer}
    (h : ResultsAlike a call x y) : x.isOk = y.isOk := by
  cases h <;> rfl

/-- Questions with alike results have the same report: only verdicts are reported. -/
theorem ResultsAlike.report_eq {a a' b : Automaton} {call : Call} {x y : Except Fault Answer}
    (h : ResultsAlike a call x y) : (Called.asked (x, a')).report = (Called.asked (y, b)).report := by
  cases h with
  | refused fault => rfl
  | answered h => cases h <;> rfl

/-! ### Refused calls -/

theorem Built.result_of_called {α : Type} {b : Built α} {fault : Fault}
    (h : b.called.result = .error fault) : b.result = .error fault := by
  rw [Built.called] at h
  cases hresult : b.result with
  | error e => rw [hresult] at h; cases h; rfl
  | ok index => rw [hresult] at h; cases h

/-- A refused call does nothing to a deterministic automaton. -/
theorem Dfa.automaton_of_refused {d : Dfa} {call : Construction} {fault : Fault}
    (h : (d.build call).result = .error fault) : (d.build call).automaton = d := by
  cases call with
  | addState accepting => cases h
  | addTransition source symbol target =>
    simp only [Dfa.build] at h ⊢
    split at h
    · cases h
    · rfl
  | addEpsilon source target => rfl
  | setInitial state =>
    simp only [Dfa.build, StateSpace.buildInitial] at h ⊢
    split at h
    · cases h
    · rfl

/-! ### Drawings and descriptions of similar automata -/

namespace Nfa

variable {n m : Nfa} (hn : n.Sound) (hm : m.Sound) (h : n.Similar m)
include hn hm h

/-- The same edges have the labels of their symbols in both automata or in none. -/
theorem Similar.sameRefusal_symbolEdges :
    SameRefusal (Automaton.nfa n).symbolEdges (Automaton.nfa m).symbolEdges := by
  have hlabel : ∀ ts : List Transition,
      (ts.mapM fun t => return ⟨t.source, t.target, ← labelOf t.symbol.value⟩ :
        Except Fault (List LabelledEdge)) =
      ts.mapM fun t => return ⟨t.source, t.target, textLabel (← t.symbol.value.plain)⟩ := by
    intro ts
    congr 1
    funext t
    rw [labelOf]
    cases t.symbol.value.plain <;> rfl
  rw [Automaton.symbolEdges, Automaton.symbolEdges, Automaton.symbolEdgesOf,
    Automaton.symbolEdgesOf, hlabel, hlabel]
  exact (h.sameEdges hn hm).sameRefusal_mapM fun t s =>
    (⟨t.source, t.target, textLabel s⟩ : LabelledEdge)

theorem Similar.sameRefusal_dot : SameRefusal (Automaton.nfa n).dot (Automaton.nfa m).dot := by
  rw [Automaton.dot_def, Automaton.dot_def, Automaton.drawing_def, Automaton.drawing_def]
  exact ((h.sameRefusal_symbolEdges hn hm).bind_pure _ _).bind_pure _ _

theorem Similar.sameRefusal_description (name : String) :
    SameRefusal ((Automaton.nfa n).description name) ((Automaton.nfa m).description name) := by
  have hlines := (h.sameEdges hn hm).sameRefusal_mapM fun t s =>
    (⟨t.source, s, t.target⟩ : TransitionLine)
  rw [Automaton.description_def, Automaton.description_def]
  exact (hlines.bind_pure _ _).bind_pure _ _

/-- Similar automata on texts have the same contents. -/
theorem Similar.sameContents (htexts : OnlyTexts n.transitions) :
    (Automaton.nfa n).SameContents (.nfa m) := by
  have hflags : n.flags = m.flags := by rw [h.space]
  have hinitial : n.initial? = m.initial? := by rw [h.space]
  exact h.toSameMoves.sameContents hn hm hflags hinitial htexts

/-- The drawings are alike: they are the same where all symbols are texts, and there are drawings of
    both or of none. -/
theorem Similar.dot_alike :
    ResultsAlike (.nfa n) (.ask .dot) ((Automaton.nfa n).answer .dot)
      ((Automaton.nfa m).answer .dot) := by
  by_cases htexts : OnlyTexts n.transitions
  · refine .of_eq ?_
    rw [Automaton.answer_dot, Automaton.answer_dot, (h.sameContents hn hm htexts).dot_eq htexts]
  · have hrefusal := (h.sameRefusal_dot hn hm).bind_pure Answer.text Answer.text
    rw [Automaton.answer_dot, Automaton.answer_dot]
    refine .of_sameRefusal hrefusal fun x y hx hy => ?_
    obtain ⟨s, -, hs⟩ := bind_eq_ok_iff.1 hx
    obtain ⟨t, -, ht⟩ := bind_eq_ok_iff.1 hy
    cases hs
    cases ht
    exact .dot htexts s t

/-- The descriptions are alike in the same sense. -/
theorem Similar.description_alike (name : String) :
    ResultsAlike (.nfa n) (.ask (.describe name)) ((Automaton.nfa n).answer (.describe name))
      ((Automaton.nfa m).answer (.describe name)) := by
  by_cases htexts : OnlyTexts n.transitions
  · refine .of_eq ?_
    rw [Automaton.answer_describe, Automaton.answer_describe,
      (h.sameContents hn hm htexts).description_eq htexts]
  · have hrefusal := (h.sameRefusal_description hn hm name).bind_pure Answer.text Answer.text
    rw [Automaton.answer_describe, Automaton.answer_describe]
    refine .of_sameRefusal hrefusal fun x y hx hy => ?_
    obtain ⟨s, -, hs⟩ := bind_eq_ok_iff.1 hx
    obtain ⟨t, -, ht⟩ := bind_eq_ok_iff.1 hy
    cases hs
    cases ht
    exact .describe htexts name s t

end Nfa

/-! ### Similar automata of either kind -/

namespace Automaton

/-- Equal deterministic automata or similar nondeterministic ones, with their tables in order. -/
inductive Similar : Automaton → Automaton → Prop
  | dfa (d : Dfa) : Similar (.dfa d) (.dfa d)
  | nfa {n m : Nfa} (hn : n.Sound) (hm : m.Sound) (h : n.Similar m) : Similar (.nfa n) (.nfa m)

theorem similar_new (kind : AutomatonKind) (owner : Nat) :
    (new kind owner).Similar (new kind owner) := by
  cases kind with
  | dfa => exact .dfa _
  | nfa => exact .nfa (Nfa.sound_new owner) (Nfa.sound_new owner) (.refl _)

variable {a b : Automaton}

/-- Similar automata answer every question alike. -/
theorem Similar.answer (h : a.Similar b) (query : Query) :
    ResultsAlike a (.ask query) (a.answer query) (b.answer query) := by
  cases h with
  | dfa d => exact .of_eq rfl
  | @nfa n m hn hm h =>
    have hspace : (Automaton.nfa n).space = (Automaton.nfa m).space := h.space
    have hinitial : n.initial? = m.initial? := by rw [h.space]
    have hflags : n.flags = m.flags := by rw [h.space]
    cases query with
    -- the listings and what is made of them, which are alike and need not be equal
    | transitions =>
      rw [answer_transitions, answer_transitions]
      exact .answered (.transitions (h.sameEdges hn hm))
    | epsilonTransitions =>
      rw [answer_epsilonTransitions, answer_epsilonTransitions]
      exact .answered (.epsilonTransitions (h.perm_epsilonTransitions hn hm))
    | dot => exact h.dot_alike hn hm
    | describe name => exact h.description_alike hn hm name
    -- whatever else is asked has equal answers
    | states query => exact .of_eq (by rw [answer_states, answer_states, hspace])
    | initial => exact .of_eq (by rw [answer_initial, answer_initial, hspace])
    | resolve token => exact .of_eq (by rw [answer_resolve, answer_resolve, hspace])
    | next state symbol =>
      refine .of_eq ?_
      simp only [answer_next, next_of_nfa, Nfa.next_def, h.space, h.targets]
    | nextEpsilon state =>
      refine .of_eq ?_
      simp only [answer_nextEpsilon, Nfa.nextEpsilon_def, h.space, h.epsilonTargets]
    | transitionCount =>
      refine .of_eq ?_
      simp only [answer_transitionCount, Automaton.transitionCount, h.transitionCount_eq hn hm]
    | epsilonCount =>
      refine .of_eq ?_
      simp only [answer_epsilonCount, h.epsilonCount_eq hn hm]
    | closure states =>
      refine .of_eq ?_
      simp only [answer_closure, h.epsilonClosure_eq]
    | step active symbol =>
      refine .of_eq ?_
      simp only [answer_step, h.step_eq]
    | simulate word =>
      refine .of_eq ?_
      simp only [answer_simulate, simulate_nfa, h.simulate_eq hinitial]
    | judge word =>
      refine .of_eq ?_
      simp only [answer_judge, judge_nfa, h.judge_eq hinitial hflags]
    | summary =>
      refine .of_eq ?_
      simp only [answer_summary, Automaton.summary, summaryOf, Automaton.kind, hspace,
        Automaton.transitionCount, h.transitionCount_eq hn hm]

/-- Every call does alike on similar automata. -/
theorem Similar.perform (h : a.Similar b) (call : Call) :
    Called.Alike a call (a.perform call) (b.perform call) := by
  cases call with
  | build call =>
    cases h with
    | dfa d => exact ⟨.of_eq rfl, rfl⟩
    | @nfa n m hn hm h =>
      have hbuilt := h.build call
      refine ⟨.of_eq ?_, ?_⟩
      · simp only [Automaton.perform, Built.called, Automaton.build, Built.map, hbuilt.result]
      · simp only [Automaton.perform, Built.called, Automaton.build, Built.map, hbuilt.report]
  | ask query =>
    rw [perform_ask, perform_ask]
    exact ⟨h.answer query, (h.answer query).report_eq⟩

/-- Similar automata stay similar when the same call is made on both of them. -/
theorem Similar.perform_automaton (h : a.Similar b) (call : Call) :
    (a.perform call).automaton.Similar (b.perform call).automaton := by
  cases call with
  | ask query =>
    simp only [perform_ask]
    exact h
  | build call =>
    cases h with
    | dfa d => exact .dfa _
    | @nfa n m hn hm h =>
      exact .nfa (hn.change (Nfa.build_change n call)) (hm.change (Nfa.build_change m call))
        (h.build call).automaton

/-- A refused call makes no difference. -/
theorem similar_of_refused {call : Call} {fault : Fault} (h : a.Similar b)
    (hrefused : (a.perform call).result = .error fault) : (a.perform call).automaton.Similar b := by
  cases call with
  | ask query =>
    simp only [perform_ask]
    exact h
  | build call =>
    cases h with
    | dfa d =>
      have heq : (d.build call).automaton = d :=
        Dfa.automaton_of_refused (Built.result_of_called hrefused)
      simp only [Automaton.perform, Automaton.build, Built.called, Built.map, heq]
      exact .dfa d
    | @nfa n m hn hm h =>
      have hsimilar := Nfa.similar_of_refused (n := n) (Built.result_of_called hrefused)
      exact .nfa (hn.change (Nfa.build_change n call)) hm (hsimilar.symm.trans h)

end Automaton

end FiniteAutomata

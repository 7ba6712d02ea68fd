import FiniteAutomata.Nfa.Basic
import FiniteAutomata.Proofs.Asking

namespace FiniteAutomata

/-!
# Questions to nondeterministic automata

Both tables make an entry when they are asked for one that is missing. The questions only look into
them, in searches and in runs as well, so none leaves a trace. The answers are told by what is in the
tables.

* `Worklist.Ask.traceless_drain`, `Worklist.Ask.answer_drain`: searches that ask for successors.
* `Nfa.Ask.traceless_closureOf`, `Nfa.Ask.traceless_simulate`, `Nfa.Ask.traceless_judge` and others: no
  question leaves a trace.
* `Nfa.next_def`, `Nfa.epsilonClosure_def`, `Nfa.step_def`, `Nfa.trail_cons`, `Nfa.judge_def` and others:
  the answers.
* `Nfa.reserve_eq`, `Nfa.reserveEpsilon_eq`: what is left of the calls that ask for an entry.
-/

/-! ### Searches -/

namespace Worklist.Ask

variable {σ : Type} {next : Nat → Asking σ (List Nat)} (h : ∀ s, (next s).Traceless)
include h

theorem traceless_visit (w : Worklist) : (visit next w).Traceless := by
  rw [visit]
  cases w.waiting with
  | nil => exact Asking.traceless_pure w
  | cons s rest => exact (h s).bind fun successors => Asking.traceless_pure _

theorem traceless_drain (k : Nat) (w : Worklist) : (drain next k w).Traceless := by
  induction k generalizing w with
  | zero => exact Asking.traceless_pure w
  | succ k ih => exact (traceless_visit h w).bind fun w => ih w

/-- A visit finds the successors that are answered. -/
theorem answer_visit {x : σ} {successors : Nat → List Nat}
    (hanswer : ∀ s, (next s).answer x = .ok (successors s)) (w : Worklist) :
    (visit next w).answer x = .ok (w.visit successors) := by
  rw [visit, Worklist.visit]
  cases hwaiting : w.waiting with
  | nil => rfl
  | cons s rest =>
    rw [(h s).answer_bind, hanswer, ok_bind, Asking.answer_pure, Worklist.visit, hwaiting]

theorem answer_drain {x : σ} {successors : Nat → List Nat}
    (hanswer : ∀ s, (next s).answer x = .ok (successors s)) (k : Nat) (w : Worklist) :
    (drain next k w).answer x = .ok (w.drain successors k) := by
  induction k generalizing w with
  | zero => rfl
  | succ k ih => rw [drain, (traceless_visit h w).answer_bind, answer_visit h hanswer, ok_bind, ih]; rfl

end Worklist.Ask

namespace Nfa

/-! ### Calls that ask for an entry -/

theorem reserve_eq (n : Nfa) (s : Nat) (c : Symbol) :
    n.reserve s c = { n with edges := n.edges.update ⟨s, c⟩ (·.getD []) } := rfl

theorem reserveEpsilon_eq (n : Nfa) (s : Nat) :
    n.reserveEpsilon s = { n with epsilons := n.epsilons.update s (·.getD []) } := rfl

namespace Ask

/-! ### The tables -/

theorem traceless_edges {α : Type} {q : Asking (Ledger Departure StateSet) α} (h : q.Traceless) :
    (edges q).Traceless :=
  h.within fun _ => rfl

theorem traceless_epsilons {α : Type} {q : Asking (Ledger Nat StateSet) α} (h : q.Traceless) :
    (epsilons q).Traceless :=
  h.within fun _ => rfl

theorem traceless_targets (s : Nat) (c : Symbol) : (targets s c).Traceless :=
  (traceless_edges (Ledger.traceless_look _)).bind fun _ => Asking.traceless_pure _

@[simp] theorem answer_targets (n : Nfa) (s : Nat) (c : Symbol) :
    (targets s c).answer n = .ok (n.targets s c) := rfl

theorem traceless_epsilonTargets (s : Nat) : (epsilonTargets s).Traceless :=
  (traceless_epsilons (Ledger.traceless_look _)).bind fun _ => Asking.traceless_pure _

@[simp] theorem answer_epsilonTargets (n : Nfa) (s : Nat) :
    (epsilonTargets s).answer n = .ok (n.epsilonTargets s) := rfl

theorem traceless_next (state symbol : Value) : (next state symbol).Traceless :=
  Asking.traceless_get.bind fun n => (Asking.traceless_lift (n.validate state)).bind fun s =>
    (Asking.traceless_lift symbol.symbol).bind fun c => traceless_targets s c

theorem traceless_nextEpsilon (state : Value) : (nextEpsilon state).Traceless :=
  Asking.traceless_get.bind fun n => (Asking.traceless_lift (n.validate state)).bind fun s =>
    traceless_epsilonTargets s

theorem traceless_transitions : transitions.Traceless :=
  (traceless_edges Ledger.traceless_entries).bind fun _ => Asking.traceless_pure _

@[simp] theorem answer_transitions (n : Nfa) : transitions.answer n = .ok n.transitions := rfl

theorem traceless_epsilonTransitions : epsilonTransitions.Traceless :=
  (traceless_epsilons Ledger.traceless_entries).bind fun _ => Asking.traceless_pure _

@[simp] theorem answer_epsilonTransitions (n : Nfa) :
    epsilonTransitions.answer n = .ok n.epsilonTransitions := rfl

theorem traceless_transitionCount : transitionCount.Traceless :=
  (traceless_edges Ledger.traceless_entries).bind fun _ => Asking.traceless_pure _

@[simp] theorem answer_transitionCount (n : Nfa) : transitionCount.answer n = .ok n.transitionCount :=
  rfl

theorem traceless_epsilonCount : epsilonCount.Traceless :=
  (traceless_epsilons Ledger.traceless_entries).bind fun _ => Asking.traceless_pure _

@[simp] theorem answer_epsilonCount (n : Nfa) : epsilonCount.answer n = .ok n.epsilonCount := rfl

/-! ### Closures and steps -/

theorem traceless_closureOf (states : List Nat) : (closureOf states).Traceless :=
  traceless_epsilonCount.bind fun _ =>
    (Worklist.Ask.traceless_drain traceless_epsilonTargets _ _).bind fun _ => Asking.traceless_pure _

@[simp] theorem answer_closureOf (n : Nfa) (states : List Nat) :
    (closureOf states).answer n = .ok (n.closureOf states) := by
  rw [closureOf, traceless_epsilonCount.answer_bind, answer_epsilonCount, ok_bind,
    (Worklist.Ask.traceless_drain traceless_epsilonTargets _ _).answer_bind,
    Worklist.Ask.answer_drain traceless_epsilonTargets (answer_epsilonTargets n)]
  rfl

theorem traceless_epsilonClosure (states : Value) : (epsilonClosure states).Traceless := by
  have hclosure (items : List Value) :
      (do closureOf (← (← get).validateAll items) : Asking Nfa StateSet).Traceless :=
    Asking.traceless_get.bind fun n => (Asking.traceless_lift (n.validateAll items)).bind fun ids =>
      traceless_closureOf ids
  unfold epsilonClosure
  split
  · exact (Asking.traceless_pure _).bind hclosure
  · exact (Asking.traceless_lift _).bind hclosure

theorem traceless_advance (active : List Nat) (c : Symbol) : (advance active c).Traceless :=
  (Asking.Traceless.mapM (traceless_targets · c) active).bind fun _ => traceless_closureOf _

@[simp] theorem answer_advance (n : Nfa) (active : List Nat) (c : Symbol) :
    (advance active c).answer n = .ok (n.advance active c) := by
  have htargets : (active.mapM fun s => (targets s c).answer n) = .ok (active.map (n.targets · c)) :=
    mapM_eq_ok_iff.2 (List.forall₂_map_right_iff.2 (List.forall₂_same.2 fun _ _ => rfl))
  rw [advance, (Asking.Traceless.mapM (traceless_targets · c) active).answer_bind,
    Asking.answer_mapM (traceless_targets · c), htargets, ok_bind, answer_closureOf,
    ← List.flatMap_def]
  rfl

theorem traceless_step (active symbol : Value) : (step active symbol).Traceless := by
  refine Asking.traceless_get.bind fun n => (Asking.traceless_lift active.word).bind fun items =>
    (Asking.traceless_lift (n.validateAll items)).bind fun ids => ?_
  cases ids with
  | nil => exact Asking.traceless_pure []
  | cons s rest =>
    exact (Asking.traceless_lift symbol.symbol).bind fun c => traceless_advance (s :: rest) c

/-! ### Runs -/

theorem traceless_trail (active : StateSet) (word : List Value) : (trail active word).Traceless := by
  induction word generalizing active with
  | nil => exact Asking.traceless_pure [active]
  | cons a rest ih =>
    refine (Asking.traceless_lift a.symbol).bind fun c => (traceless_advance active c).bind fun set => ?_
    cases set with
    | nil => exact Asking.traceless_pure [active, []]
    | cons s set => exact (ih (s :: set)).bind fun sets => Asking.traceless_pure (active :: sets)

theorem traceless_finish (active : StateSet) (word : List Value) : (finish active word).Traceless := by
  induction word generalizing active with
  | nil => exact Asking.traceless_pure (active, 0)
  | cons a rest ih =>
    refine (Asking.traceless_lift a.symbol).bind fun c => (traceless_advance active c).bind fun set => ?_
    cases set with
    | nil => exact Asking.traceless_pure ([], 1)
    | cons s set => exact (ih (s :: set)).bind fun last => Asking.traceless_pure (last.1, last.2 + 1)

theorem traceless_simulate (word : Value) : (simulate word).Traceless := by
  refine Asking.traceless_get.bind fun n => ?_
  cases n.initial? with
  | none => exact Asking.traceless_pure []
  | some start =>
    exact (traceless_closureOf [start]).bind fun active =>
      (Asking.traceless_lift word.word).bind fun items => traceless_trail active items

theorem traceless_judgeFrom (active : StateSet) (word : List Value) :
    (judgeFrom active word).Traceless :=
  (traceless_finish active word).bind fun _ => Asking.traceless_get.bind fun _ =>
    Asking.traceless_pure _

theorem traceless_judge (word : Value) : (judge word).Traceless := by
  refine Asking.traceless_get.bind fun n => ?_
  cases n.initial? with
  | none => exact Asking.traceless_pure Verdict.unread
  | some start =>
    exact (traceless_closureOf [start]).bind fun active =>
      (Asking.traceless_lift word.word).bind fun items => traceless_judgeFrom active items

end Ask

/-! ### Answers -/

variable (n : Nfa)

theorem next_def (state symbol : Value) :
    n.next state symbol = do
      let source ← n.validate state
      let symbol ← symbol.symbol
      return n.targets source symbol := by
  simp only [next, Ask.next, Asking.answer_get_bind, Asking.answer_lift_bind, Ask.answer_targets,
    pure_eq_ok]

theorem nextEpsilon_def (state : Value) :
    n.nextEpsilon state = do return n.epsilonTargets (← n.validate state) := by
  simp only [nextEpsilon, Ask.nextEpsilon, Asking.answer_get_bind, Asking.answer_lift_bind,
    Ask.answer_epsilonTargets, pure_eq_ok]

theorem epsilonClosure_def (states : Value) :
    n.epsilonClosure states = do
      let states ← match states with
        | .state id => pure [.state id]
        | a => a.word
      return n.closureOf (← n.validateAll states) := by
  unfold epsilonClosure Ask.epsilonClosure
  split <;>
    simp only [pure_bind, Asking.answer_lift_bind, Asking.answer_get_bind, Ask.answer_closureOf,
      pure_eq_ok, ok_bind]

theorem step_def (active symbol : Value) :
    n.step active symbol = do
      match ← n.validateAll (← active.word) with
      | [] => return []
      | active => return n.advance active (← symbol.symbol) := by
  simp only [step, Ask.step, Asking.answer_get_bind, Asking.answer_lift_bind]
  refine bind_congr fun items => bind_congr fun ids => ?_
  cases ids with
  | nil => rfl
  | cons s rest =>
    simp only [Asking.answer_lift_bind, Ask.answer_advance, pure_eq_ok]

theorem trail_cons (active : StateSet) (a : Value) (rest : List Value) :
    n.trail active (a :: rest) = do
      match n.advance active (← a.symbol) with
      | [] => return [active, []]
      | active' => return active :: (← n.trail active' rest) := by
  rw [trail, Ask.trail, Asking.answer_lift_bind]
  refine bind_congr fun c => ?_
  rw [(Ask.traceless_advance active c).answer_bind, Ask.answer_advance, ok_bind]
  cases n.advance active c with
  | nil => rfl
  | cons s set => exact (Ask.traceless_trail (s :: set) rest).answer_bind _ n

theorem simulate_def (word : Value) :
    n.simulate word = match n.initial? with
      | none => .ok []
      | some start => (do n.trail (n.closureOf [start]) (← word.word)) := by
  rw [simulate, Ask.simulate, Asking.answer_get_bind]
  cases n.initial? with
  | none => rfl
  | some start =>
    refine ((Ask.traceless_closureOf [start]).answer_bind _ n).trans ?_
    rw [Ask.answer_closureOf, ok_bind]
    exact Asking.answer_lift_bind word.word _ n

theorem finish_nil (active : StateSet) : n.finish active [] = .ok (active, 0) := rfl

theorem finish_cons (active : StateSet) (a : Value) (rest : List Value) :
    n.finish active (a :: rest) = do
      match n.advance active (← a.symbol) with
      | [] => return ([], 1)
      | active' =>
        let (last, read) ← n.finish active' rest
        return (last, read + 1) := by
  rw [finish, Ask.finish, Asking.answer_lift_bind]
  refine bind_congr fun c => ?_
  rw [(Ask.traceless_advance active c).answer_bind, Ask.answer_advance, ok_bind]
  cases n.advance active c with
  | nil => rfl
  | cons s set => exact (Ask.traceless_finish (s :: set) rest).answer_bind _ n

theorem judge_def (word : Value) :
    n.judge word = match n.initial? with
      | none => .ok .unread
      | some start => do
        let (last, read) ← n.finish (n.closureOf [start]) (← word.word)
        return ⟨last.any n.accepts, read, [.active (last.any n.accepts) last.length]⟩ := by
  rw [judge, Ask.judge, Asking.answer_get_bind]
  cases n.initial? with
  | none => rfl
  | some start =>
    refine ((Ask.traceless_closureOf [start]).answer_bind _ n).trans ?_
    rw [Ask.answer_closureOf, ok_bind]
    refine (Asking.answer_lift_bind word.word _ n).trans (bind_congr fun items => ?_)
    exact (Ask.traceless_finish (n.closureOf [start]) items).answer_bind _ n

end Nfa

end FiniteAutomata

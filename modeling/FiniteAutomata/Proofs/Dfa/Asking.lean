import FiniteAutomata.Dfa.Basic
import FiniteAutomata.Proofs.Asking

namespace FiniteAutomata.Dfa

/-!
# Questions to deterministic automata

All of them look into the table and none asks for an entry, so none leaves a trace. The answers are told
by what is in the table.

* `Ask.traceless_next`, `Ask.traceless_simulate`, `Ask.traceless_judge` and others: no question leaves a
  trace.
* `next_def`, `path_cons`, `simulate_def`, `finish_cons`, `judge_def` and others: the answers.
-/

namespace Ask

/-! ### The table -/

theorem traceless_edges {α : Type} {q : Asking (Ledger Departure Nat) α} (h : q.Traceless) :
    (edges q).Traceless :=
  h.within fun _ => rfl

theorem traceless_target? (s : Nat) (c : Symbol) : (target? s c).Traceless :=
  traceless_edges (Ledger.traceless_look _)

@[simp] theorem answer_target? (d : Dfa) (s : Nat) (c : Symbol) :
    (target? s c).answer d = .ok (d.target? s c) := rfl

theorem traceless_next (state symbol : Value) : (next state symbol).Traceless :=
  Asking.traceless_get.bind fun d => (Asking.traceless_lift (d.validate state)).bind fun s =>
    (Asking.traceless_lift symbol.symbol).bind fun c => traceless_target? s c

theorem traceless_transitions : transitions.Traceless :=
  (traceless_edges Ledger.traceless_entries).bind fun _ => Asking.traceless_pure _

@[simp] theorem answer_transitions (d : Dfa) : transitions.answer d = .ok d.transitions := rfl

theorem traceless_transitionCount : transitionCount.Traceless :=
  (traceless_edges Ledger.traceless_entries).bind fun _ => Asking.traceless_pure _

@[simp] theorem answer_transitionCount (d : Dfa) : transitionCount.answer d = .ok d.transitionCount :=
  rfl

/-! ### Runs -/

theorem traceless_path (s : Nat) (word : List Value) : (path s word).Traceless := by
  induction word generalizing s with
  | nil => exact Asking.traceless_pure [s]
  | cons a rest ih =>
    refine (Asking.traceless_lift a.symbol).bind fun c => (traceless_target? s c).bind fun t => ?_
    cases t with
    | none => exact Asking.traceless_pure [s]
    | some t => exact (ih t).bind fun path => Asking.traceless_pure (s :: path)

theorem traceless_finish (s : Nat) (word : List Value) : (finish s word).Traceless := by
  induction word generalizing s with
  | nil => exact Asking.traceless_pure (some s, 0)
  | cons a rest ih =>
    refine (Asking.traceless_lift a.symbol).bind fun c => (traceless_target? s c).bind fun t => ?_
    cases t with
    | none => exact Asking.traceless_pure (none, 1)
    | some t => exact (ih t).bind fun last => Asking.traceless_pure (last.1, last.2 + 1)

theorem traceless_simulate (word : Value) : (simulate word).Traceless := by
  refine Asking.traceless_get.bind fun d => ?_
  cases d.initial? with
  | none => exact Asking.traceless_pure []
  | some start => exact (Asking.traceless_lift word.word).bind fun items => traceless_path start items

theorem traceless_judgeFrom (start : Nat) (word : List Value) : (judgeFrom start word).Traceless := by
  refine (traceless_finish start word).bind fun last => ?_
  obtain ⟨_ | last, read⟩ := last
  · exact Asking.traceless_pure _
  · exact Asking.traceless_get.bind fun d => Asking.traceless_pure _

theorem traceless_judge (word : Value) : (judge word).Traceless := by
  refine Asking.traceless_get.bind fun d => ?_
  cases d.initial? with
  | none => exact Asking.traceless_pure Verdict.unread
  | some start =>
    exact (Asking.traceless_lift word.word).bind fun items => traceless_judgeFrom start items

end Ask

/-! ### Answers -/

variable (d : Dfa)

theorem next_def (state symbol : Value) :
    d.next state symbol = do
      let source ← d.validate state
      let symbol ← symbol.symbol
      return d.target? source symbol := by
  simp only [next, Ask.next, Asking.answer_get_bind, Asking.answer_lift_bind, Ask.answer_target?,
    pure_eq_ok]

theorem path_cons (s : Nat) (a : Value) (rest : List Value) :
    d.path s (a :: rest) = do
      let symbol ← a.symbol
      match d.target? s symbol with
      | none => return [s]
      | some next => return s :: (← d.path next rest) := by
  rw [path, Ask.path, Asking.answer_lift_bind]
  refine bind_congr fun c => ?_
  rw [(Ask.traceless_target? s c).answer_bind, Ask.answer_target?, ok_bind]
  cases d.target? s c with
  | none => rfl
  | some t => exact (Ask.traceless_path t rest).answer_bind _ d

theorem simulate_def (word : Value) :
    d.simulate word = match d.initial? with
      | none => .ok []
      | some start => (do d.path start (← word.word)) := by
  rw [simulate, Ask.simulate, Asking.answer_get_bind]
  cases d.initial? with
  | none => rfl
  | some start => exact Asking.answer_lift_bind word.word _ d

theorem finish_nil (s : Nat) : d.finish s [] = .ok (some s, 0) := rfl

theorem finish_cons (s : Nat) (a : Value) (rest : List Value) :
    d.finish s (a :: rest) = do
      let symbol ← a.symbol
      match d.target? s symbol with
      | none => return (none, 1)
      | some next =>
        let (last, read) ← d.finish next rest
        return (last, read + 1) := by
  rw [finish, Ask.finish, Asking.answer_lift_bind]
  refine bind_congr fun c => ?_
  rw [(Ask.traceless_target? s c).answer_bind, Ask.answer_target?, ok_bind]
  cases d.target? s c with
  | none => rfl
  | some t => exact (Ask.traceless_finish t rest).answer_bind _ d

theorem judge_def (word : Value) :
    d.judge word = match d.initial? with
      | none => .ok .unread
      | some start => do
        match ← d.finish start (← word.word) with
        | (none, read) => return ⟨false, read, [.stuck]⟩
        | (some last, read) => return ⟨d.accepts last, read, [.ended (d.accepts last) last]⟩ := by
  rw [judge, Ask.judge, Asking.answer_get_bind]
  cases d.initial? with
  | none => rfl
  | some start =>
    refine (Asking.answer_lift_bind word.word _ d).trans (bind_congr fun items => ?_)
    rw [Ask.judgeFrom, (Ask.traceless_finish start items).answer_bind]
    refine bind_congr fun last => ?_
    obtain ⟨_ | last, read⟩ := last <;> rfl

end FiniteAutomata.Dfa

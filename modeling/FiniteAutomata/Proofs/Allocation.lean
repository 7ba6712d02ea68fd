import FiniteAutomata.Proofs.Automaton
import FiniteAutomata.Proofs.Automaton.Asking
import FiniteAutomata.Proofs.Terminal.Asking
import FiniteAutomata.Sample

namespace FiniteAutomata

/-!
# States that calls allocate

A state is reported when it is added. Whatever is called, asked or typed, the states of a registry
are those that it had before and those that are reported, and its owner stays the same.

* `additions`: the states that are reported as added.
* `endsRun_of_judge`, `endsRun_of_answer`: what is reported while a question is answered.
* `Registry.Grows`: the states of a registry before and after, told by a report.
* `Automaton.grows_build`, `Automaton.grows_perform`, `Registry.grows_perform`: calls.
* `Sample.grows_automaton`: samples, from nothing.
* `Terminal.grows_perform`: actions at the terminal.
-/

/-- The position of the state that is reported as added, if one is. -/
def Event.addition? : Event → Option Nat
  | .added state _ => some state
  | _ => none

/-- The positions of the states that are reported as added. -/
def additions (report : List Event) : List Nat := report.filterMap Event.addition?

theorem additions_append (report later : List Event) :
    additions (report ++ later) = additions report ++ additions later :=
  List.filterMap_append

/-! ### Registries -/

/-- The second registry has the states of the first one and behind them those that are reported as
    added, and it has the same owner. -/
structure Registry.Grows (r r' : Registry) (report : List Event) : Prop where
  owner : r'.owner = r.owner
  indexes : r'.indexes = r.indexes ++ additions report

namespace Registry.Grows

variable {r r' r'' : Registry} {report later : List Event}

/-- Nothing is added where nothing is reported as added. -/
theorem same (r : Registry) (h : additions report = []) : r.Grows r report :=
  ⟨rfl, by rw [h, List.append_nil]⟩

theorem trans (h : r.Grows r' report) (h' : r'.Grows r'' later) : r.Grows r'' (report ++ later) where
  owner := h'.owner.trans h.owner
  indexes := by rw [h'.indexes, h.indexes, additions_append, List.append_assoc]

theorem add (r : Registry) (accepting : Value) : r.Grows (r.add accepting) [r.addition accepting] where
  owner := rfl
  indexes := by
    unfold Registry.indexes Registry.add Registry.size
    rw [List.length_append, List.length_singleton, List.range_succ]
    rfl

end Registry.Grows

/-! ### Verdicts -/

/-- Tells how a run ended. -/
def Event.endsRun : Event → Bool
  | .stuck | .ended .. | .active .. => true
  | .added .. | .overwrote .. => false

/-- No state is added where all that is reported is how runs ended. -/
theorem additions_of_endsRun {report : List Event} (h : ∀ e ∈ report, e.endsRun = true) :
    additions report = [] := by
  refine List.filterMap_eq_nil_iff.2 fun e he => ?_
  have hends := h e he
  cases e with
  | added state accepting => cases hends
  | _ => rfl

/-- A verdict reports how a run ended and nothing else. -/
theorem endsRun_of_judge {a : Automaton} {word : Value} {v : Verdict} (h : a.judge word = .ok v) :
    ∀ e ∈ v.report, e.endsRun = true := by
  cases a with
  | dfa d =>
    rw [Automaton.judge_dfa, Dfa.judge_def] at h
    split at h
    · cases h
      exact nofun
    · obtain ⟨items, -, h⟩ := bind_eq_ok_iff.1 h
      obtain ⟨⟨last, read⟩, -, h⟩ := bind_eq_ok_iff.1 h
      cases last <;> cases h <;> exact List.forall_mem_singleton.2 rfl
  | nfa n =>
    rw [Automaton.judge_nfa, Nfa.judge_def] at h
    split at h
    · cases h
      exact nofun
    · obtain ⟨items, -, h⟩ := bind_eq_ok_iff.1 h
      obtain ⟨⟨last, read⟩, -, h⟩ := bind_eq_ok_iff.1 h
      cases h
      exact List.forall_mem_singleton.2 rfl

/-- A verdict only answers the question for one. -/
theorem exists_judge_of_answer {a : Automaton} {query : Query} {v : Verdict}
    (h : a.answer query = .ok (.verdict v)) : ∃ word, a.judge word = .ok v := by
  cases query with
  | judge word =>
    obtain ⟨v', hv, heq⟩ := bind_eq_ok_iff.1 ((a.answer_judge word).symm.trans h)
    cases heq
    exact ⟨word, hv⟩
  | states query =>
    rw [Automaton.answer_states] at h
    cases query <;> simp [Registry.answer, bind_eq_ok_iff] at h
  | next state symbol =>
    cases a with
    | dfa d => simp [Automaton.answer_next, Automaton.next_of_dfa, bind_eq_ok_iff] at h
    | nfa n => simp [Automaton.answer_next, Automaton.next_of_nfa, bind_eq_ok_iff] at h
  | resolve token => simp [Automaton.answer_resolve, bind_eq_ok_iff] at h
  | _ =>
    -- an answer of another form is made of what is found out
    obtain ⟨_, -, heq⟩ := bind_eq_ok_iff.1 ((Asking.answer_bind_pure _ _ a).symm.trans h)
    cases heq

/-- An answer reports how a run ended, if anything. -/
theorem endsRun_of_answer {a : Automaton} {query : Query} {answer : Answer}
    (h : a.answer query = .ok answer) : ∀ e ∈ answer.report, e.endsRun = true := by
  cases answer with
  | verdict v =>
    obtain ⟨word, hv⟩ := exists_judge_of_answer h
    exact endsRun_of_judge hv
  | _ => exact nofun

/-- What is reported while a question is answered or refused tells how a run ended. -/
theorem Automaton.endsRun_of_ask (a : Automaton) (query : Query) :
    ∀ e ∈ (a.perform (.ask query)).report, e.endsRun = true := by
  simp only [perform_ask, Called.asked]
  cases h : a.answer query with
  | error fault => exact nofun
  | ok answer => exact endsRun_of_answer h

/-! ### Calls -/

namespace Automaton

theorem grows_build (a : Automaton) (call : Construction) :
    a.space.Grows (a.build call).automaton.space.toRegistry (a.build call).report := by
  cases call with
  | addState accepting => cases a <;> exact .add _ accepting
  | addTransition source symbol target =>
    rw [space_addTransition]
    apply Registry.Grows.same
    cases a with
    | nfa n => rfl
    | dfa d =>
      simp only [build, Dfa.build]
      cases h : d.addTransition source symbol target with
      | error fault => rfl
      | ok result =>
        obtain ⟨s, x, t, -, -, -, -, hreport⟩ := Dfa.addTransition_eq_ok_iff.1 h
        simp only [Built.map, hreport, Dfa.replacement]
        -- what may be reported is a replacement, and no new state
        split
        · split <;> rfl
        · rfl
  | addEpsilon source target =>
    rw [space_addEpsilon]
    cases a <;> exact .same _ rfl
  | setInitial state =>
    cases a with
    | dfa d =>
      simp only [build, Dfa.build, StateSpace.buildInitial]
      cases h : d.setInitial state with
      | error fault => exact .same _ rfl
      | ok space =>
        obtain ⟨s, -, -, rfl⟩ := StateSpace.setInitial_eq_ok_iff.1 h
        exact .same _ rfl
    | nfa n =>
      simp only [build, Nfa.build, StateSpace.buildInitial]
      cases h : n.setInitial state with
      | error fault => exact .same _ rfl
      | ok space =>
        obtain ⟨s, -, -, rfl⟩ := StateSpace.setInitial_eq_ok_iff.1 h
        exact .same _ rfl

theorem grows_buildAll (a : Automaton) (calls : List Construction) :
    a.space.Grows (a.buildAll calls).1.space.toRegistry (a.buildAll calls).2 := by
  induction calls generalizing a with
  | nil => exact .same _ rfl
  | cons call rest ih => exact (grows_build a call).trans (ih (a.build call).automaton)

theorem grows_perform (a : Automaton) (call : Call) :
    a.space.Grows (a.perform call).automaton.space.toRegistry (a.perform call).report := by
  cases call with
  | build call => exact grows_build a call
  | ask query =>
    rw [perform_ask]
    exact .same _ (additions_of_endsRun (a.endsRun_of_ask query))

end Automaton

theorem Registry.grows_perform {r : Registry} {call : Call} {called : Called Registry}
    (h : r.perform? call = some called) : r.Grows called.automaton called.report := by
  cases call with
  | build call =>
    cases call with
    | addState accepting =>
      cases h
      exact .add r accepting
    | _ => cases h
  | ask query =>
    cases query with
    | states query =>
      cases h
      -- an automaton with the same states would report the same
      have hdfa := (Automaton.dfa { toRegistry := r }).endsRun_of_ask (.states query)
      exact .same r (additions_of_endsRun hdfa)
    | _ => cases h

/-- A sample has the states that are reported while it is built. -/
theorem Sample.grows_automaton (sample : Sample) (owner : Nat) :
    ({ owner } : Registry).Grows (sample.automaton owner).space.toRegistry
      (sample.report owner) := by
  have h := Automaton.grows_buildAll (.new sample.kind owner) (sample.steps owner)
  rwa [Automaton.registry_new] at h

/-! ### Actions -/

namespace Terminal

variable {a : Automaton}

/-- What an action does to the states of an automaton is told by what it reports. -/
def Outcome.Grows (a : Automaton) (o : Outcome) : Prop :=
  a.space.Grows o.automaton.space.toRegistry o.report

theorem grows_showing (text : Except Fault String) : (Outcome.showing a text).Grows a := by
  cases text <;> exact .same _ rfl

theorem grows_ofCall (call : Construction) (text : String) :
    (Outcome.ofCall (a.build call) text).Grows a := by
  unfold Outcome.Grows Outcome.ofCall
  split <;> exact a.grows_build call

theorem grows_withState {word : String} {next : Nat → Outcome} (h : ∀ s, (next s).Grows a) :
    (withState a word next).Grows a := by
  unfold withState
  split
  · exact h _
  · exact .same _ rfl

theorem grows_judgeWord (word shown : String) : (judgeWord a word shown).Grows a := by
  rw [judgeWord_def]
  split
  · rename_i v hv
    exact .same _ (additions_of_endsRun (endsRun_of_judge hv))
  · exact .same _ rfl

theorem grows_traceWord (arguments : List String) : (traceWord a arguments).Grows a := by
  rw [traceWord_def]
  split
  · exact .same _ rfl
  · split
    · exact .same _ rfl
    · exact grows_judgeWord _ _

theorem grows_addEpsilon (arguments : List String) : (addEpsilon a arguments).Grows a := by
  unfold addEpsilon
  split
  · exact .same _ rfl
  · split
    · exact grows_withState fun s => grows_withState fun t => grows_ofCall _ _
    · exact .same _ rfl

theorem grows_askForPicture (renderer : Renderer) (name : String) (arguments : List String) :
    (askForPicture renderer a name arguments).Grows a := by
  rw [askForPicture_def]
  split <;> exact .same _ rfl

/-- An action does nothing else to the states. -/
theorem grows_perform (renderer : Renderer) (name : String) (arguments : List String) (a : Automaton)
    (action : Action) : (action.perform renderer name arguments a).Grows a := by
  cases action with
  | state => exact grows_ofCall _ _
  | trans =>
    match arguments with
    | [] | [_] | [_, _] => exact .same _ rfl
    | source :: symbol :: target :: rest =>
      exact grows_withState fun s => grows_withState fun t => grows_ofCall _ _
  | eps => exact grows_addEpsilon arguments
  | initial =>
    match arguments with
    | [] => exact .same _ rfl
    | word :: rest => exact grows_withState fun s => grows_ofCall _ _
  | test => exact grows_judgeWord _ _
  | trace => exact grows_traceWord arguments
  | «show» =>
    rw [perform_show]
    exact grows_showing _
  | dot =>
    rw [perform_dot]
    exact grows_showing _
  | graph => exact grows_askForPicture renderer name arguments

end Terminal

end FiniteAutomata

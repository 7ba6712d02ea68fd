import FiniteAutomata.Proofs.Similar

namespace FiniteAutomata

/-!
# Refused calls can be erased

A history is a sequence of calls on one automaton, each of which succeeds or is refused. When the
refused calls are left out, the others succeed with the results they had, and nothing that is done
later tells the two automata apart.

* `Step`: one call of a history and what it did.
* `Automaton.history`, `Automaton.after`: several calls, one after the other.
* `Automaton.kept`: the calls that succeed in their turn.
* `Automaton.Similar.history_alike`: histories of similar automata.
* `Automaton.Similar.history_kept`: a history and what is kept of it.
* `Automaton.history_kept_alike`: refused calls can be erased.
-/

/-- One call of a history: the automaton it was made on and what it did. -/
structure Step where
  before : Automaton
  call : Call
  called : Called Automaton

namespace Step

/-- The call was not refused. -/
def succeeded (s : Step) : Bool := s.called.result.isOk

/-- The same call did alike on two automata. -/
structure Alike (s t : Step) : Prop where
  call : s.call = t.call
  called : Called.Alike s.before s.call s.called t.called

theorem Alike.succeeded_eq {s t : Step} (h : s.Alike t) : s.succeeded = t.succeeded :=
  h.called.result.isOk_eq

/-- A history that is alike to one in which all calls succeed is one as well. -/
theorem forall_succeeded_of_alike {ss ts : List Step} (h : List.Forall₂ Alike ss ts)
    (hss : ∀ s ∈ ss, s.succeeded = true) : ∀ t ∈ ts, t.succeeded = true := by
  induction h with
  | nil => exact hss
  | @cons s t _ _ halike _ ih =>
    rw [List.forall_mem_cons] at hss ⊢
    exact ⟨halike.succeeded_eq ▸ hss.1, ih hss.2⟩

end Step

namespace Automaton

/-- What several calls do, one after the other, whether they succeed or not. -/
def history (a : Automaton) : List Call → List Step
  | [] => []
  | call :: rest => ⟨a, call, a.perform call⟩ :: (a.perform call).automaton.history rest

/-- The automaton after several calls. -/
def after (a : Automaton) (calls : List Call) : Automaton :=
  calls.foldl (fun a call => (a.perform call).automaton) a

/-- The calls that succeed in their turn. -/
def kept (a : Automaton) (calls : List Call) : List Call :=
  ((a.history calls).filter Step.succeeded).map (·.call)

theorem kind_after (a : Automaton) (calls : List Call) : (a.after calls).kind = a.kind := by
  induction calls generalizing a with
  | nil => rfl
  | cons call rest ih =>
    have hkind : (a.perform call).automaton.kind = a.kind := by
      cases call with
      | build call => cases a <;> rfl
      | ask query => rw [a.perform_ask]; rfl
    exact (ih (a.perform call).automaton).trans hkind

variable {a b : Automaton}

/-- Similar deterministic automata are equal. -/
theorem Similar.eq_of_kind (h : a.Similar b) (hkind : a.kind = .dfa) : a = b := by
  cases h with
  | dfa d => rfl
  | nfa _ _ _ => cases hkind

/-- The same calls do alike on similar automata, and leave similar automata behind. -/
theorem Similar.history_alike (h : a.Similar b) (calls : List Call) :
    List.Forall₂ Step.Alike (a.history calls) (b.history calls) := by
  induction calls generalizing a b with
  | nil => exact .nil
  | cons call rest ih => exact .cons ⟨rfl, h.perform call⟩ (ih (h.perform_automaton call))

/-- What is kept of a history does alike on a similar automaton, and leaves a similar automaton
    behind. -/
theorem Similar.history_kept (h : a.Similar b) (calls : List Call) :
    List.Forall₂ Step.Alike ((a.history calls).filter Step.succeeded)
        (b.history (a.kept calls)) ∧
      (a.after calls).Similar (b.after (a.kept calls)) := by
  induction calls generalizing a b with
  | nil => exact ⟨.nil, h⟩
  | cons call rest ih =>
    rw [kept, history, List.filter_cons]
    cases hresult : (a.perform call).result with
    | error fault =>
      -- the call is left out, so the automaton behind it is still similar to the other one
      have hrefused : Step.succeeded ⟨a, call, a.perform call⟩ = false := by
        rw [Step.succeeded, hresult]
        rfl
      rw [hrefused, if_neg Bool.false_ne_true]
      exact ih (similar_of_refused h hresult)
    | ok answer =>
      -- the call is made on both automata, and leaves similar ones behind
      have hsucceeded : Step.succeeded ⟨a, call, a.perform call⟩ = true := by
        rw [Step.succeeded, hresult]
        rfl
      rw [hsucceeded, if_pos rfl]
      obtain ⟨halike, hafter⟩ := ih (h.perform_automaton call)
      exact ⟨.cons ⟨rfl, h.perform call⟩ halike, hafter⟩

/-- A deterministic automaton is the same after any calls and after those that are kept of them. -/
theorem after_kept_of_dfa (owner : Nat) (calls : List Call) :
    (new .dfa owner).after ((new .dfa owner).kept calls) = (new .dfa owner).after calls :=
  (((similar_new .dfa owner).history_kept calls).2.eq_of_kind (kind_after _ calls)).symm

/-- **Refused calls can be erased.** Take any calls on a new automaton and those of them that
    succeeded in their turn. Made without the others these do alike and all of them succeed, and
    whatever is called later does alike on the two automata. -/
theorem history_kept_alike (kind : AutomatonKind) (owner : Nat) (calls later : List Call) :
    List.Forall₂ Step.Alike (((new kind owner).history calls).filter Step.succeeded)
        ((new kind owner).history ((new kind owner).kept calls)) ∧
      (∀ step ∈ (new kind owner).history ((new kind owner).kept calls), step.succeeded = true) ∧
      List.Forall₂ Step.Alike (((new kind owner).after calls).history later)
        (((new kind owner).after ((new kind owner).kept calls)).history later) := by
  obtain ⟨halike, hafter⟩ := (similar_new kind owner).history_kept calls
  refine ⟨halike, ?_, hafter.history_alike later⟩
  exact Step.forall_succeeded_of_alike halike fun step hstep => (List.mem_filter.1 hstep).2

/-- The second call is refused because of its target. It still makes room for an entry, so that the
    symbol of the third one is listed as `True`. -/
example :
    (new .nfa 0).kept
        [.build (.addState (.truth true)),
         .build (.addTransition (.state ⟨0, 0⟩) (.truth true) (.state ⟨1, 0⟩)),
         .build (.addTransition (.state ⟨0, 0⟩) (.int 1) (.state ⟨0, 0⟩)),
         .ask .transitions] =
      [.build (.addState (.truth true)),
       .build (.addTransition (.state ⟨0, 0⟩) (.int 1) (.state ⟨0, 0⟩)),
       .ask .transitions] := by decide +kernel

end Automaton

end FiniteAutomata

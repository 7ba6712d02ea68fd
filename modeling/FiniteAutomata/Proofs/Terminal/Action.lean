import FiniteAutomata.Proofs.Automaton
import FiniteAutomata.Proofs.StateName
import FiniteAutomata.Proofs.Terminal.Asking
import FiniteAutomata.Proofs.Textual

namespace FiniteAutomata.Terminal

/-!
# What actions do

An action on an automaton whose symbols are texts shows something, makes one call that is met, or is
broken off because one of the words that ought to name states does not. In that case it does nothing.

* `stateWords`: the words that ought to name states.
* `Deed`: what an action can do, told by what becomes of those words.
* `perform_deed`: no action does anything else.
-/

/-! ### Actions -/

/-- The words behind the name of an automaton that ought to name its states, where there are as many
    words as the command needs. -/
def stateWords (kind : AutomatonKind) (command : String) (arguments : List String) : List String :=
  if command = "trans" then
    match arguments with
    | source :: _ :: target :: _ => [source, target]
    | _ => []
  else if command = "eps" ∧ kind = .nfa then
    match arguments with
    | source :: target :: _ => [source, target]
    | _ => []
  else if command = "initial" then arguments.take 1
  else []

/-- The actions that may change an automaton. -/
def Action.changes : Action → Bool
  | .state | .trans | .eps | .initial => true
  | .test | .trace | .show | .dot | .graph => false

/-- What an action can do, told by what becomes of the words that ought to name states. -/
inductive Deed (a : Automaton) (action : Action) : Except Fault (List Nat) → Outcome → Prop
  /-- One of the words names no state, and nothing is done. -/
  | brokenOff (fault : Fault) : Deed a action (.error fault) (.brokenOff a fault)
  /-- The automaton stays as it is. -/
  | shown (states : List Nat) (output : String) (report : List Event) (pictures : List Picture) :
    Deed a action (.ok states) { automaton := a, output, report, pictures }
  /-- A call is made and met. -/
  | built (states : List Nat) {call : Construction} {index : Option Nat} (text : String)
    (hchanges : action.changes = true) (htext : call.GivesText)
    (hresult : (a.build call).result = .ok index) :
    Deed a action (.ok states) (.ofCall (a.build call) text)

variable {a : Automaton}

theorem withState_of_ok {word : String} {s : Nat} (h : a.space.resolve word = .ok s)
    (next : Nat → Outcome) : withState a word next = next s := by
  unfold withState
  rw [h]

theorem withState_of_error {word : String} {fault : Fault} (h : a.space.resolve word = .error fault)
    (next : Nat → Outcome) : withState a word next = .brokenOff a fault := by
  unfold withState
  rw [h]

/-- An action with one word for a state does what it does with that state. -/
theorem Deed.withState {action : Action} {word : String} {next : Nat → Outcome}
    (hnext : ∀ s, a.space.resolve word = .ok s → Deed a action (.ok [s]) (next s)) :
    Deed a action ([word].mapM a.space.resolve) (withState a word next) := by
  rw [List.mapM_cons, List.mapM_nil]
  cases h : a.space.resolve word with
  | error fault =>
    rw [withState_of_error h]
    exact .brokenOff fault
  | ok s =>
    rw [withState_of_ok h]
    exact hnext s h

/-- An action with two words for states does what it does with those states. -/
theorem Deed.withStates {action : Action} {source target : String} {next : Nat → Nat → Outcome}
    (hnext : ∀ s t, a.space.resolve source = .ok s → a.space.resolve target = .ok t →
      Deed a action (.ok [s, t]) (next s t)) :
    Deed a action ([source, target].mapM a.space.resolve)
      (Terminal.withState a source fun s => Terminal.withState a target (next s)) := by
  rw [List.mapM_cons, List.mapM_cons, List.mapM_nil]
  cases hs : a.space.resolve source with
  | error fault =>
    rw [withState_of_error hs]
    exact .brokenOff fault
  | ok s =>
    rw [withState_of_ok hs]
    cases ht : a.space.resolve target with
    | error fault =>
      rw [withState_of_error ht]
      exact .brokenOff fault
    | ok t =>
      rw [withState_of_ok ht]
      exact hnext s t hs ht

theorem addTransition_deed (arguments : List String) :
    Deed a .trans ((stateWords a.kind "trans" arguments).mapM a.space.resolve)
      (addTransition a arguments) := by
  match arguments with
  | [] | [_] | [_, _] => exact .shown [] _ [] []
  | source :: symbol :: target :: rest =>
    refine .withStates fun s t hs ht => ?_
    have hresult := Automaton.result_addTransition (Registry.resolve_lt hs) ⟨.text symbol, rfl⟩
      (Registry.resolve_lt ht)
    exact .built [s, t] _ rfl ⟨symbol, rfl⟩ hresult

theorem addEpsilon_deed (arguments : List String) :
    Deed a .eps ((stateWords a.kind "eps" arguments).mapM a.space.resolve)
      (addEpsilon a arguments) := by
  cases hkind : a.kind with
  | dfa =>
    simp only [addEpsilon, hkind]
    exact .shown [] _ [] []
  | nfa =>
    simp only [addEpsilon, hkind]
    match arguments with
    | [] | [_] => exact .shown [] _ [] []
    | source :: target :: rest =>
      refine .withStates fun s t hs ht => ?_
      have hresult := Automaton.result_addEpsilon hkind (Registry.resolve_lt hs)
        (Registry.resolve_lt ht)
      exact .built [s, t] _ rfl trivial hresult

theorem setInitial_deed (arguments : List String) :
    Deed a .initial ((stateWords a.kind "initial" arguments).mapM a.space.resolve)
      (setInitial a arguments) := by
  match arguments with
  | [] => exact .shown [] _ [] []
  | word :: rest =>
    refine .withState fun s hs => ?_
    exact .built [s] _ rfl trivial (Automaton.result_setInitial (Registry.resolve_lt hs))

/-- An action that only shows a text that there is. -/
theorem Deed.showing {action : Action} {text : Except Fault String} (h : ∃ s, text = .ok s) :
    Deed a action (.ok []) (.showing a text) := by
  obtain ⟨s, rfl⟩ := h
  exact .shown [] _ [] []

theorem judgeWord_deed {action : Action} (word shown : String) :
    Deed a action (.ok []) (judgeWord a word shown) := by
  obtain ⟨v, hv⟩ := a.exists_judge_text word
  rw [judgeWord_def, hv]
  exact .shown [] _ _ []

/-- An action on an automaton whose symbols are texts does nothing but what `Deed` lists. -/
theorem perform_deed (ha : a.Textual) (renderer : Renderer) (name : String)
    (arguments : List String) (action : Action) :
    Deed a action ((stateWords a.kind action.word arguments).mapM a.space.resolve)
      (action.perform renderer name arguments a) := by
  cases action with
  | state => exact .built [] _ rfl trivial (a.result_addState _)
  | trans => exact addTransition_deed arguments
  | eps => exact addEpsilon_deed arguments
  | initial => exact setInitial_deed arguments
  | test => exact judgeWord_deed _ _
  | trace =>
    obtain ⟨run, hrun⟩ := a.exists_simulate_text (wordArgument arguments)
    simp only [Action.perform, traceWord_def, hrun]
    split
    · exact .showing ⟨_, rfl⟩
    · exact judgeWord_deed _ _
  | «show» =>
    rw [perform_show]
    exact .showing (Automaton.exists_description ha.onlyTexts name)
  | dot =>
    rw [perform_dot]
    exact .showing (Automaton.exists_dot ha.onlyTexts)
  | graph =>
    obtain ⟨drawing, hdrawing⟩ := Automaton.exists_drawing ha.onlyTexts
    rw [Action.perform, askForPicture_def, hdrawing]
    exact .shown [] _ [] _

end FiniteAutomata.Terminal

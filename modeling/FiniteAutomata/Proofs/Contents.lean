import FiniteAutomata.Proofs.Automaton
import FiniteAutomata.Proofs.Listing
import FiniteAutomata.Proofs.Nfa.Similar
import FiniteAutomata.Proofs.Textual

namespace FiniteAutomata

/-!
# Automata with the same contents

What is drawn and described of an automaton on texts are its kind, its states, its initial state and
its transitions in whatever order.

* `Automaton.SameContents`: all of that is the same in two automata.
* `Automaton.SameContents.dot_eq`, `Automaton.SameContents.description_eq`: they are drawn and
  described alike.
* `Dfa.sameContents_of_moves`, `Nfa.SameMoves.sameContents`: automata that go from every state to the
  same states have the same transitions.
* `Automaton.Copy`: such automata with the same states and initial state.
* `Automaton.Copy.simulate_eq`, `Automaton.Copy.judge_eq`: every word is read alike.
-/

namespace Automaton

/-- The two automata have the same kind, states, initial state and transitions. -/
structure SameContents (a b : Automaton) : Prop where
  kind : a.kind = b.kind
  flags : a.space.flags = b.space.flags
  initial : a.space.initial? = b.space.initial?
  transitions : a.transitions.Perm b.transitions
  epsilonTransitions : a.epsilonTransitions.Perm b.epsilonTransitions

variable {a b : Automaton}

theorem SameContents.size_eq (h : a.SameContents b) : a.space.size = b.space.size :=
  congrArg List.length h.flags

theorem SameContents.acceptingStates_eq (h : a.SameContents b) :
    a.acceptingStates = b.acceptingStates := by
  have haccepts : a.space.accepts = b.space.accepts := Registry.accepts_congr h.flags
  rw [acceptingStates, acceptingStates, Registry.indexes, Registry.indexes, h.size_eq, haccepts]

theorem SameContents.transitionCount_eq (h : a.SameContents b) :
    a.transitionCount = b.transitionCount := by
  rw [← length_transitions, ← length_transitions, h.transitions.length_eq]

theorem SameContents.onlyTexts (h : a.SameContents b) (htexts : OnlyTexts a.transitions) :
    OnlyTexts b.transitions :=
  fun t ht => htexts t (h.transitions.mem_iff.2 ht)

theorem SameContents.epsilonCount_eq (h : a.SameContents b) : a.epsilonCount = b.epsilonCount := by
  rw [← length_epsilonTransitions, ← length_epsilonTransitions, h.epsilonTransitions.length_eq]

/-- The same things are listed of automata with the same contents. -/
theorem SameContents.sameItems (h : a.SameContents b) : a.listing.SameItems b.listing where
  kind := h.kind
  size := h.size_eq
  initial := h.initial
  accepting := .of_eq h.acceptingStates_eq
  transitionCount := h.transitionCount_eq
  transitions := h.transitions
  epsilonCount := h.epsilonCount_eq
  epsilonTransitions := h.epsilonTransitions

/-- Automata with the same contents on texts are described alike. -/
theorem SameContents.description_eq (h : a.SameContents b) (htexts : OnlyTexts a.transitions)
    (name : String) : a.description name = b.description name := by
  obtain ⟨text, htext⟩ := exists_description htexts name
  have htext' : b.listing.description name = .ok text :=
    Listing.description_congr h.sameItems (a.description_def name ▸ htext)
  rw [htext, description_def, htext']

/-- Automata with the same contents on texts are drawn alike. -/
theorem SameContents.dot_eq (h : a.SameContents b) (htexts : OnlyTexts a.transitions) :
    a.dot = b.dot := by
  have hdrawing : a.drawing = b.drawing := by
    have hepsilon : a.epsilonEdges.Perm b.epsilonEdges := h.epsilonTransitions.map _
    have hedges := (h.transitions.map Transition.labelled).append hepsilon
    -- the edges come in another order, which is forgotten when the arrows are put in order
    have harrows := arrowsOf_congr fun e => hedges.mem_iff (a := e)
    simp only [drawing_def, symbolEdges_eq htexts, symbolEdges_eq (h.onlyTexts htexts), ok_bind,
      harrows, h.kind, h.flags, h.initial]
  rw [dot_def, dot_def, hdrawing]

end Automaton

/-! ### Automata with the same moves -/

namespace Dfa

variable {d d' : Dfa}

theorem sameContents_of_moves (hd : d.Sound) (hd' : d'.Sound) (hflags : d.flags = d'.flags)
    (hinitial : d.initial? = d'.initial?) (hmoves : d.target? = d'.target?)
    (htexts : OnlyTexts d.transitions) : (Automaton.dfa d).SameContents (.dfa d') where
  kind := rfl
  flags := hflags
  initial := hinitial
  transitions := by
    have hedges : SameEdges d.transitions d'.transitions := by
      rw [sameEdges_iff_perm, List.perm_ext_iff_of_nodup hd.nodup_edges hd'.nodup_edges]
      intro e
      rw [hd.mem_edges_iff, hd'.mem_edges_iff, hmoves]
    exact hedges.perm_of_onlyTexts htexts
  epsilonTransitions := .refl _

theorem path_congr (hmoves : d.target? = d'.target?) (s : Nat) (word : List Value) :
    d.path s word = d'.path s word := by
  induction word generalizing s with
  | nil => rfl
  | cons a rest ih => simp only [path_cons, hmoves, ih]

theorem simulate_congr (hinitial : d.initial? = d'.initial?) (hmoves : d.target? = d'.target?) :
    d.simulate = d'.simulate := by
  funext word
  simp only [simulate_def, hinitial, path_congr hmoves]

theorem finish_congr (hmoves : d.target? = d'.target?) (s : Nat) (word : List Value) :
    d.finish s word = d'.finish s word := by
  induction word generalizing s with
  | nil => rfl
  | cons a rest ih => simp only [finish_cons, hmoves, ih]

theorem judge_congr (hflags : d.flags = d'.flags) (hinitial : d.initial? = d'.initial?)
    (hmoves : d.target? = d'.target?) : d.judge = d'.judge := by
  have haccepts : d.accepts = d'.accepts := Registry.accepts_congr hflags
  funext word
  simp only [judge_def, hinitial, haccepts, finish_congr hmoves]

end Dfa

theorem Nfa.SameMoves.sameContents {n m : Nfa} (hn : n.Sound) (hm : m.Sound) (h : n.SameMoves m)
    (hflags : n.flags = m.flags) (hinitial : n.initial? = m.initial?)
    (htexts : OnlyTexts n.transitions) : (Automaton.nfa n).SameContents (.nfa m) where
  kind := rfl
  flags := hflags
  initial := hinitial
  transitions := (h.sameEdges hn hm).perm_of_onlyTexts htexts
  epsilonTransitions := h.perm_epsilonTransitions hn hm

namespace Automaton

/-- The two automata have the same states and the same initial state, and every state goes to the
    same states in both of them. -/
inductive Copy : Automaton → Automaton → Prop
  | dfa {d d' : Dfa} (hd : d.Sound) (hd' : d'.Sound) (hflags : d.flags = d'.flags)
    (hinitial : d.initial? = d'.initial?) (hmoves : d.target? = d'.target?) :
    Copy (.dfa d) (.dfa d')
  | nfa {n m : Nfa} (hn : n.Sound) (hm : m.Sound) (hflags : n.flags = m.flags)
    (hinitial : n.initial? = m.initial?) (hmoves : n.SameMoves m) : Copy (.nfa n) (.nfa m)

variable {a b : Automaton}

theorem Copy.sameContents (h : a.Copy b) (htexts : OnlyTexts a.transitions) :
    a.SameContents b := by
  cases h with
  | dfa hd hd' hflags hinitial hmoves =>
    exact Dfa.sameContents_of_moves hd hd' hflags hinitial hmoves htexts
  | nfa hn hm hflags hinitial hmoves => exact hmoves.sameContents hn hm hflags hinitial htexts

/-- A copy sees the same on every word. -/
theorem Copy.simulate_eq (h : a.Copy b) : a.simulate = b.simulate := by
  funext word
  cases h with
  | dfa hd hd' hflags hinitial hmoves =>
    rw [simulate_dfa, simulate_dfa, Dfa.simulate_congr hinitial hmoves]
  | nfa hn hm hflags hinitial hmoves =>
    rw [simulate_nfa, simulate_nfa, hmoves.simulate_eq hinitial]

/-- A copy has the same verdict on every word. -/
theorem Copy.judge_eq (h : a.Copy b) : a.judge = b.judge := by
  funext word
  cases h with
  | dfa hd hd' hflags hinitial hmoves =>
    rw [judge_dfa, judge_dfa, Dfa.judge_congr hflags hinitial hmoves]
  | nfa hn hm hflags hinitial hmoves =>
    rw [judge_nfa, judge_nfa, hmoves.judge_eq hinitial hflags]

end Automaton

end FiniteAutomata

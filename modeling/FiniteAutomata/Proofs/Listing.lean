import FiniteAutomata.Proofs.Drawing
import FiniteAutomata.Proofs.Outcome

namespace FiniteAutomata

/-!
# The order of a listing does not show

States and transitions are gathered for a description in the order in which the tables and the sets are
gone through. Everything is put in order before it is written, so that a description tells what is
listed and not in which order.

* `stateSet_congr`, `stateSet_of_ascends`, `Automaton.ascends_acceptingStates`: sets of states.
* `transitionLinesOf_congr`, `epsilonLinesOf_congr`: transitions.
* `Listing.SameItems`, `Listing.description_congr`: all that is listed.
-/

/-! ### Sets of states -/

theorem stateSet_congr {states states' : List Nat} (h : states.Perm states') :
    stateSet states = stateSet states' := by
  rw [stateSet, stateSet, Ascending.sort_congr Ascending.isOrder_nat h]

/-- A set of states is in order already. -/
theorem stateSet_of_ascends {set : StateSet} (h : set.Ascends) :
    stateSet set = bracedText (set.map stateName) := by
  rw [stateSet, h.sort_eq]

theorem Automaton.ascends_acceptingStates (a : Automaton) : a.acceptingStates.Ascends :=
  List.pairwise_lt_range.filter _

/-! ### Transitions -/

theorem transitionLinesOf_congr {ts ts' : List Transition} {lines : List TransitionLine}
    (h : ts.Perm ts') (hlines : transitionLinesOf ts = .ok lines) :
    transitionLinesOf ts' = .ok lines := by
  obtain ⟨found, hfound, heq⟩ := bind_eq_ok_iff.1 hlines
  obtain ⟨found', hfound', hperm⟩ := exists_mapM_perm h hfound
  cases heq
  rw [transitionLinesOf, hfound', ok_bind, Ascending.sort_congr TransitionLine.isOrder_before hperm]
  rfl

theorem epsilonLinesOf_congr {es es' : List (Nat × Nat)} (h : es.Perm es') :
    epsilonLinesOf es = epsilonLinesOf es' := by
  rw [epsilonLinesOf, epsilonLinesOf, Ascending.sort_congr isOrder_pairBefore h]

/-! ### Listings -/

namespace Listing

/-- The same things are listed, in whatever order. -/
structure SameItems (l m : Listing) : Prop where
  kind : l.kind = m.kind
  size : l.size = m.size
  initial : l.initial? = m.initial?
  accepting : l.accepting.Perm m.accepting
  transitionCount : l.transitionCount = m.transitionCount
  transitions : l.transitions.Perm m.transitions
  epsilonCount : l.epsilonCount = m.epsilonCount
  epsilonTransitions : l.epsilonTransitions.Perm m.epsilonTransitions

variable {l m : Listing}

theorem SameItems.epsilonSection_eq (h : l.SameItems m) : l.epsilonSection = m.epsilonSection := by
  rw [epsilonSection, epsilonSection, h.kind, h.epsilonCount,
    epsilonLinesOf_congr h.epsilonTransitions]

/-- **What is listed in another order is described alike.** -/
theorem description_congr {name text : String} (h : l.SameItems m)
    (htext : l.description name = .ok text) : m.description name = .ok text := by
  obtain ⟨lines, hlines, heq⟩ := bind_eq_ok_iff.1 htext
  cases heq
  rw [description, transitionLinesOf_congr h.transitions hlines, ok_bind, ← h.kind, ← h.size,
    ← h.initial, ← stateSet_congr h.accepting, ← h.transitionCount, ← h.epsilonSection_eq]
  rfl

end Listing

end FiniteAutomata

import FiniteAutomata.Description
import FiniteAutomata.Proofs.Collection.Sorting
import FiniteAutomata.Proofs.Listing
import FiniteAutomata.Proofs.Naming
import Mathlib.Data.Prod.Lex

namespace FiniteAutomata

/-!
# Sorted states

States have an order, by their positions and then by their owners, so that any states can be sorted. Those
of one automaton are sorted by position, and written as the set that they are in a description.

* `StateId.key`, `Value.less_state`: the order of states.
* `sort_states`: any states are sorted by it.
* `exists_perm_of_sortedSetText`: the text of any values tells all of them.
* `sort_ownStates`, `sortedSetText_of_states`: the states of one automaton, and their text.
-/

/-- States are put in order by their positions, and those at one position by their owners. -/
def StateId.key (id : StateId) : Int ×ₗ Nat := toLex (id.index, id.owner)

theorem StateId.order_eq_lt_iff (x y : StateId) : x.order y = .lt ↔ x.key < y.key := by
  rw [StateId.order, StateId.key, StateId.key, Prod.Lex.toLex_lt_toLex, Ordering.then_eq_lt,
    compare_lt_iff_lt, compare_eq_iff_eq, compare_lt_iff_lt]

namespace Value

/-- The key of a state; other values do not matter. -/
def stateKey : Value → Int ×ₗ Nat
  | .state id => id.key
  | _ => toLex (0, 0)

theorem less_state (x y : StateId) :
    less (.state x) (.state y) = .ok (decide (stateKey (.state x) < stateKey (.state y))) := by
  rw [less, order?, ok_bind, pure_eq_ok, Except.ok.injEq, Bool.eq_iff_iff, decide_eq_true_iff, beq_iff_eq,
    Option.some.injEq, stateKey, stateKey, StateId.order_eq_lt_iff]

end Value

/-- States are sorted by their order. -/
theorem sort_states (ids : List StateId) :
    Sorting.sort Value.less (ids.map .state) =
      .ok ((ids.mergeSort fun x y => x.key ≤ y.key).map .state) := by
  have hsort : Sorting.sort Value.less (ids.map .state) =
      .ok ((ids.map .state).mergeSort fun x y => Value.stateKey x ≤ Value.stateKey y) := by
    refine Sorting.sort_eq fun x hx y hy => ?_
    obtain ⟨id, -, rfl⟩ := List.mem_map.1 hx
    obtain ⟨id', -, rfl⟩ := List.mem_map.1 hy
    exact Value.less_state id id'
  have hmap : (ids.mergeSort fun x y => x.key ≤ y.key).map Value.state =
      (ids.map .state).mergeSort fun x y => Value.stateKey x ≤ Value.stateKey y :=
    List.map_mergeSort fun _ _ _ _ => rfl
  rw [hsort, hmap]

/-- Numbers are sorted in the one way there is. -/
theorem mergeSort_eq_sort (states : List Nat) :
    (states.mergeSort fun s t => s ≤ t) = Ascending.sort (fun s t => s < t) states := by
  have hsorted : (states.mergeSort fun s t => s ≤ t).Pairwise fun s t => s ≤ t :=
    Sorting.ascends_sorted states
  have hperm : (states.mergeSort fun s t => s ≤ t).Perm
      (Ascending.sort (fun s t => s < t) states) :=
    (List.mergeSort_perm states _).trans (Ascending.perm_sort states).symm
  have hsorted' : (Ascending.sort (fun s t => s < t) states).Pairwise fun s t => s ≤ t :=
    (Ascending.pairwise_sort Ascending.isOrder_nat states).imp fun h => not_lt.1 (of_decide_eq_false h)
  exact hperm.eq_of_pairwise (fun s t _ _ => Nat.le_antisymm) hsorted hsorted'

/-- The states of one automaton are sorted by position. -/
theorem sort_ownStates (r : Registry) (states : List Nat) :
    Sorting.sort Value.less (states.map r.state) =
      .ok ((Ascending.sort (fun s t => s < t) states).map r.state) := by
  have hkeys : ∀ s ∈ states, ∀ t ∈ states,
      decide (s ≤ t) = decide ((r.id s).key ≤ (r.id t).key) := by
    intro s _ t _
    rw [decide_eq_decide, StateId.key, StateId.key, Prod.Lex.toLex_le_toLex]
    show s ≤ t ↔ (s : Int) < t ∨ (s : Int) = t ∧ r.owner ≤ r.owner
    omega
  have hmap : states.map r.state = (states.map r.id).map .state := by
    rw [List.map_map]
    rfl
  rw [hmap, sort_states, ← List.map_mergeSort hkeys, mergeSort_eq_sort, List.map_map]
  rfl

/-- Whatever values are written as a set, each of them is written as often as it is listed, also where
    one has no place in the order, such as a number that is not equal to itself. -/
theorem exists_perm_of_sortedSetText {v : Value} {items : List Value} {text : String}
    (hitems : v.word = .ok items) (h : sortedSetText v = .ok text) :
    ∃ names names', items.mapM Value.plain = .ok names ∧ names'.Perm names ∧
      text = bracedText names' := by
  rw [sortedSetText, hitems, ok_bind] at h
  obtain ⟨sorted, hsorted, h⟩ := bind_eq_ok_iff.1 h
  obtain ⟨names', hnames', h⟩ := bind_eq_ok_iff.1 h
  cases h
  obtain ⟨names, hnames, hperm⟩ := exists_mapM_perm (Sorting.sort_perm hsorted) hnames'
  exact ⟨names, names', hnames, hperm, rfl⟩

/-- Whatever lists states of one automaton, in any order and with any repeats, is written as a set of these
    states, if their numbers can be written. -/
theorem sortedSetText_of_states {r : Registry} {v : Value} {states : List Nat}
    (hitems : v.items? = some (states.map r.state)) (h : ∀ s ∈ states, s < 10 ^ Text.maxDigits) :
    sortedSetText v = .ok (stateSet states) := by
  have hnames : ((Ascending.sort (fun s t => s < t) states).map r.state).mapM Value.plain =
      .ok ((Ascending.sort (fun s t => s < t) states).map stateName) := by
    rw [mapM_eq_ok_iff, List.forall₂_map_left_iff, List.forall₂_map_right_iff]
    refine List.forall₂_same.2 fun s hs => plain_state (h s ?_) r
    exact (Ascending.perm_sort states).mem_iff.1 hs
  simp only [sortedSetText, Value.word, hitems, sort_ownStates, ok_bind, hnames, pure_eq_ok, stateSet]

/-- States that are listed twice are written twice. -/
example : sortedSetText (.list [.state ⟨2, 0⟩, .state ⟨0, 0⟩, .state ⟨2, 0⟩]) =
    .ok "\x7bq0,q2,q2\x7d" := by decide +kernel

end FiniteAutomata

import FiniteAutomata.Proofs.Nfa.Acceptance

namespace FiniteAutomata

/-!
# Searches visit every state once

The search for an epsilon closure takes states from its stack until the stack is empty. In which order
the given states are found is left open, and so is the order of the targets of a state, which may be
another one at every visit. However that goes, each state of the closure is visited once and nothing
else is, and then the search is over.

* `Worklist.Visits`: the searches that have visited certain states.
* `Worklist.Visits.sound`, `Worklist.Visits.perm_found`: what a search has found was visited or waits,
  and no state does both.
* `Worklist.Visits.waiting_eq_nil_iff`: a search is over when all that can be reached was visited.
* `Worklist.exists_visits_drain`: a bounded number of visits is such a search.
* `Nfa.VisitsEachOnce`: what is true of all searches for an epsilon closure.
* `Nfa.closure_visits_each_once`: it is true of every table of epsilon transitions.
-/

namespace Worklist

variable {next : Nat → List Nat} {seeds path : List Nat} {w : Worklist}

/-- A search that has visited the states of the path, one after the other. The seeds are found in some
    order, and the successors of the visited states in another one at every visit. -/
inductive Visits (next : Nat → List Nat) (seeds : List Nat) : List Nat → Worklist → Prop
  | start {given : List Nat} (hgiven : ∀ s, s ∈ given ↔ s ∈ seeds) :
    Visits next seeds [] (Worklist.start given)
  | visit {path : List Nat} {w : Worklist} {s : Nat} {rest : List Nat} {order : Nat → List Nat}
    (h : Visits next seeds path w) (hwaiting : w.waiting = s :: rest)
    (horder : ∀ s t, t ∈ order s ↔ t ∈ next s) : Visits next seeds (path ++ [s]) (w.visit order)

/-! ### What was visited -/

theorem Visits.sound (h : Visits next seeds path w) : w.Sound next seeds := by
  induction h with
  | start hgiven => exact sound_start next hgiven
  | visit _ _ horder ih => exact ih.visit horder

theorem Visits.visited_eq (h : Visits next seeds path w) : w.visited = path.reverse := by
  induction h with
  | start hgiven => exact visited_findAll _
  | visit _ hwaiting _ ih =>
    rw [visited_visit hwaiting, ih, List.reverse_append]
    rfl

/-- What a search has found waits or was visited. -/
theorem Visits.perm_found (h : Visits next seeds path w) : w.found.Perm (w.waiting ++ path) := by
  have hperm := h.sound.perm
  rw [h.visited_eq] at hperm
  exact hperm.trans ((List.reverse_perm path).append_left w.waiting)

theorem Visits.nodup_append (h : Visits next seeds path w) : (w.waiting ++ path).Nodup :=
  h.perm_found.nodup_iff.1 h.sound.nodup

/-- No state is visited twice. -/
theorem Visits.nodup (h : Visits next seeds path w) : path.Nodup :=
  h.nodup_append.of_append_right

/-- Only what can be reached is visited. -/
theorem Visits.reached (h : Visits next seeds path w) : ∀ s ∈ path, Reached next seeds s := by
  intro s hs
  apply h.sound.reached s
  exact h.perm_found.mem_iff.2 (List.mem_append_right _ hs)

/-! ### When a search is over -/

/-- A search is over when all that can be reached was visited. -/
theorem Visits.waiting_eq_nil_iff (h : Visits next seeds path w) :
    w.waiting = [] ↔ ∀ t, Reached next seeds t → t ∈ path := by
  constructor
  · intro hnil t ht
    have hfound := (h.sound.mem_found_iff hnil).2 ht
    rw [h.perm_found.mem_iff, hnil] at hfound
    exact hfound
  · intro hall
    by_contra hne
    obtain ⟨s, rest, hwaiting⟩ := List.exists_cons_of_ne_nil hne
    have hs : s ∈ w.waiting := by
      rw [hwaiting]
      exact List.mem_cons_self
    -- a state that waits can be reached, but it was not visited
    have hreached : Reached next seeds s := by
      apply h.sound.reached s
      exact h.perm_found.mem_iff.2 (List.mem_append_left _ hs)
    exact List.disjoint_of_nodup_append h.nodup_append hs (hall s hreached)

/-- A search in which a state waits goes on. -/
theorem Visits.goes_on (h : Visits next seeds path w) (hne : w.waiting ≠ []) :
    ∃ s w', Visits next seeds (path ++ [s]) w' := by
  obtain ⟨s, rest, hwaiting⟩ := List.exists_cons_of_ne_nil hne
  exact ⟨s, w.visit next, h.visit hwaiting fun _ _ => Iff.rfl⟩

/-- A bounded number of visits is a search that visits no more states than that. -/
theorem exists_visits_drain (next : Nat → List Nat) (seeds : List Nat) (k : Nat) :
    ∃ path, Visits next seeds path ((start seeds).drain next k) ∧ path.length ≤ k := by
  induction k with
  | zero => exact ⟨[], .start fun _ => Iff.rfl, Nat.le_refl 0⟩
  | succ k ih =>
    obtain ⟨path, h, hle⟩ := ih
    rw [drain_succ]
    cases hwaiting : ((start seeds).drain next k).waiting with
    | nil =>
      -- the search was over before this visit
      rw [visit_of_waiting_eq_nil hwaiting]
      exact ⟨path, h, by omega⟩
    | cons s rest =>
      refine ⟨path ++ [s], h.visit hwaiting fun _ _ => Iff.rfl, ?_⟩
      rw [List.length_append, List.length_singleton]
      omega

/-- As long as a state waits, so many visits visit so many states. -/
theorem length_eq_of_visits_drain {k : Nat}
    (h : Visits next seeds path ((start seeds).drain next k))
    (hne : ((start seeds).drain next k).waiting ≠ []) : path.length = k := by
  have hlength := length_visited_drain k hne
  rw [h.visited_eq, List.length_reverse, start, visited_findAll] at hlength
  simpa using hlength

end Worklist

namespace Nfa

open Worklist (Visits)

/-- What is true of all searches for the epsilon closure of given states. -/
structure VisitsEachOnce (n : Nfa) (given : List Nat) : Prop where
  /-- A search in which a state waits goes on. -/
  goes_on : ∀ path w, Visits n.epsilonTargets given path w → w.waiting ≠ [] →
    ∃ s w', Visits n.epsilonTargets given (path ++ [s]) w'
  /-- No search makes more visits than there are states. -/
  bounded : ∀ path w, Visits n.epsilonTargets given path w → path.length ≤ n.size
  /-- No state is visited twice, and none outside the closure is visited. -/
  once : ∀ path w, Visits n.epsilonTargets given path w →
    path.Nodup ∧ ∀ s ∈ path, s ∈ n.closureOf given
  /-- A search is over when the states of the closure were visited, each of them once. -/
  ends : ∀ path w, Visits n.epsilonTargets given path w →
    (w.waiting = [] ↔ path.Perm (n.closureOf given))
  /-- Then it has found the closure, and made as many visits as the closure has states. -/
  result : ∀ path w, Visits n.epsilonTargets given path w → w.waiting = [] →
    w.found.Perm (n.closureOf given) ∧ path.length = (n.closureOf given).length
  /-- The search of the automaton is one of these. It makes so many visits, or all there are. -/
  own : ∀ k, ∃ path, Visits n.epsilonTargets given path ((Worklist.start given).drain n.epsilonTargets k) ∧
    path.length = min k (n.closureOf given).length
  /-- As many visits as the automaton allows for are enough. -/
  enough : ((Worklist.start given).drain n.epsilonTargets (given.length + n.epsilonCount)).waiting = []

variable {n : Nfa} {given path : List Nat} {w : Worklist}

theorem nodup_closureOf (n : Nfa) (given : List Nat) : (n.closureOf given).Nodup :=
  (ascends_closureOf n given).nodup

/-- Only states of the closure are visited. -/
theorem mem_closureOf_of_visits (h : Visits n.epsilonTargets given path w) :
    ∀ s ∈ path, s ∈ n.closureOf given :=
  fun s hs => mem_closureOf.2 (h.reached s hs)

/-- So the visited states are some states of the closure, none of them twice. -/
theorem subperm_closureOf (h : Visits n.epsilonTargets given path w) :
    path.Subperm (n.closureOf given) :=
  List.subperm_of_subset h.nodup (mem_closureOf_of_visits h)

/-- A search is over when each state of the closure was visited. -/
theorem waiting_eq_nil_iff_perm (h : Visits n.epsilonTargets given path w) :
    w.waiting = [] ↔ path.Perm (n.closureOf given) := by
  rw [h.waiting_eq_nil_iff]
  constructor
  · intro hall
    rw [List.perm_ext_iff_of_nodup h.nodup (nodup_closureOf n given)]
    exact fun s => ⟨mem_closureOf_of_visits h s, fun hs => hall s (mem_closureOf.1 hs)⟩
  · intro hperm t ht
    exact hperm.mem_iff.2 (mem_closureOf.2 ht)

/-- A closure has no more states than there are. -/
theorem length_closureOf_le (hgiven : ∀ s ∈ given, s < n.size)
    (htargets : ∀ s, ∀ t ∈ n.epsilonTargets s, t < n.size) : (n.closureOf given).length ≤ n.size := by
  have hsubset : n.closureOf given ⊆ List.range n.size := by
    intro t ht
    exact List.mem_range.2 ((mem_closureOf.1 ht).lt hgiven htargets)
  have hle := (List.subperm_of_subset (nodup_closureOf n given) hsubset).length_le
  rwa [List.length_range] at hle

/-- The search of the automaton makes so many visits, or one for each state of the closure. -/
theorem exists_visits_drain_length (n : Nfa) (given : List Nat) (k : Nat) :
    ∃ path, Visits n.epsilonTargets given path ((Worklist.start given).drain n.epsilonTargets k) ∧
      path.length = min k (n.closureOf given).length := by
  obtain ⟨path, h, hle⟩ := Worklist.exists_visits_drain n.epsilonTargets given k
  refine ⟨path, h, ?_⟩
  have hclosure := (subperm_closureOf h).length_le
  by_cases hnil : ((Worklist.start given).drain n.epsilonTargets k).waiting = []
  · have hlength := ((waiting_eq_nil_iff_perm h).1 hnil).length_eq
    omega
  · have hlength := Worklist.length_eq_of_visits_drain h hnil
    omega

/-- The search of the automaton is over after the visits it allows for. -/
theorem waiting_drain_eq_nil (n : Nfa) (given : List Nat) :
    ((Worklist.start given).drain n.epsilonTargets (given.length + n.epsilonCount)).waiting = [] := by
  obtain ⟨path, h, hlength⟩ :=
    exists_visits_drain_length n given (given.length + n.epsilonCount)
  have hle : (n.closureOf given).length ≤ given.length + n.epsilonCount :=
    length_le_of_reached_epsilons (nodup_closureOf n given) fun s => mem_closureOf.1
  rw [waiting_eq_nil_iff_perm h]
  -- so many different states of the closure are all of them
  apply (subperm_closureOf h).perm_of_length_le
  omega

/-- **Searches visit every state once.** Whatever the table of epsilon transitions between the states of an
    automaton is, and in whatever order it is gone through, a search for an epsilon closure is over when it
    has visited each state of the closure once and nothing else. -/
theorem closure_visits_each_once (n : Nfa) (given : List Nat) (hgiven : ∀ s ∈ given, s < n.size)
    (htargets : ∀ s, ∀ t ∈ n.epsilonTargets s, t < n.size) : n.VisitsEachOnce given where
  goes_on path w h hne := h.goes_on hne
  bounded path w h := (subperm_closureOf h).length_le.trans (length_closureOf_le hgiven htargets)
  once path w h := ⟨h.nodup, mem_closureOf_of_visits h⟩
  ends path w h := waiting_eq_nil_iff_perm h
  result path w h hnil := by
    have hperm := (waiting_eq_nil_iff_perm h).1 hnil
    have hfound := h.perm_found
    rw [hnil, List.nil_append] at hfound
    exact ⟨hfound.trans hperm, hperm.length_eq⟩
  own k := exists_visits_drain_length n given k
  enough := waiting_drain_eq_nil n given

/-- Two states that go to each other: a search from either of them visits both and is over. -/
theorem cycle_visits_each_once :
    (∀ s ∈ [1], s < ((new 0).buildAll cycleCalls).size) ∧
      (∀ s, ∀ t ∈ ((new 0).buildAll cycleCalls).epsilonTargets s,
        t < ((new 0).buildAll cycleCalls).size) ∧
      ((new 0).buildAll cycleCalls).VisitsEachOnce [1] ∧
      ∀ path w, Visits ((new 0).buildAll cycleCalls).epsilonTargets [1] path w → w.waiting = [] →
        path.length = 2 := by
  have hgiven : ∀ s ∈ [1], s < ((new 0).buildAll cycleCalls).size := by decide +kernel
  have htargets : ∀ s, ∀ t ∈ ((new 0).buildAll cycleCalls).epsilonTargets s,
      t < ((new 0).buildAll cycleCalls).size :=
    fun s => (within_epsilonTargets (sound_buildAll_new 0 cycleCalls) s).lt
  have hclosure : ((new 0).buildAll cycleCalls).closureOf [1] = [0, 1] := by decide +kernel
  have honce := closure_visits_each_once _ _ hgiven htargets
  refine ⟨hgiven, htargets, honce, fun path w h hnil => ?_⟩
  rw [(honce.result path w h hnil).2, hclosure]
  rfl

end Nfa

end FiniteAutomata

import FiniteAutomata.Proofs.Nfa.Asking
import FiniteAutomata.Proofs.Nfa.History
import FiniteAutomata.Proofs.Transition

namespace FiniteAutomata.Nfa

/-!
# Similar automata

A refused call may leave an empty entry behind, so that the tables of two automata can differ though
nothing but the order and the spelling of their listings tells them apart.

* `SameMoves`: every state goes to the same states.
* `Similar`: that, and the same states.
* `similar_reserve`, `similar_reserveEpsilon`: an entry without targets makes no difference.
* `similar_of_refused`: a refused call makes no difference.
* `Similar.build`: similar automata stay similar when the same call is made on both of them.
* `SameMoves.sameEdges`, `SameMoves.perm_epsilonTransitions`: the listings hold the same edges.
* `SameMoves.closureOf_eq`, `SameMoves.advance_eq` and those behind them: closures, steps and runs
  are the same.
-/

/-- Every state goes to the same states in both automata. -/
structure SameMoves (n m : Nfa) : Prop where
  targets : n.targets = m.targets
  epsilonTargets : n.epsilonTargets = m.epsilonTargets

/-- The two automata have the same states, and every state goes to the same states. -/
structure Similar (n m : Nfa) : Prop extends SameMoves n m where
  space : n.toStateSpace = m.toStateSpace

theorem Similar.refl (n : Nfa) : n.Similar n := ⟨⟨rfl, rfl⟩, rfl⟩

theorem Similar.symm {n m : Nfa} (h : n.Similar m) : m.Similar n :=
  ⟨⟨h.targets.symm, h.epsilonTargets.symm⟩, h.space.symm⟩

theorem Similar.trans {n m k : Nfa} (h : n.Similar m) (h' : m.Similar k) : n.Similar k :=
  ⟨⟨h.targets.trans h'.targets, h.epsilonTargets.trans h'.epsilonTargets⟩, h.space.trans h'.space⟩

/-! ### Refused calls -/

/-- An entry without targets makes no difference. -/
theorem similar_reserve (n : Nfa) (s : Nat) (a : Symbol) : n.Similar (n.reserve s a) where
  space := rfl
  targets := by
    funext s' b
    simp only [targets, reserve_eq, Ledger.get?_update]
    split
    · rename_i h
      rw [Ledger.get?_congr h, Option.getD_some]
    · rfl
  epsilonTargets := rfl

theorem similar_reserveEpsilon (n : Nfa) (s : Nat) : n.Similar (n.reserveEpsilon s) where
  space := rfl
  targets := rfl
  epsilonTargets := by
    funext s'
    simp only [epsilonTargets, reserveEpsilon_eq, Ledger.get?_update]
    split
    · rename_i h
      rw [Ledger.get?_congr h, Option.getD_some]
    · rfl

/-- A refused call makes no difference. -/
theorem similar_of_refused {n : Nfa} {call : Construction} {fault : Fault}
    (h : (n.build call).result = .error fault) : n.Similar (n.build call).automaton := by
  cases call with
  | addState accepting => cases h
  | addTransition source symbol target =>
    simp only [build, addTransition] at h ⊢
    split at h
    · exact .refl n
    · rename_i s a _
      cases ht : n.validate target with
      -- the target is checked last: by then the entry has been made
      | error fault' => exact similar_reserve n s a
      | ok t =>
        rw [ht] at h
        cases h
  | addEpsilon source target =>
    simp only [build, addEpsilon] at h ⊢
    split at h
    · exact .refl n
    · rename_i s _
      cases ht : n.validate target with
      | error fault' => exact similar_reserveEpsilon n s
      | ok t =>
        rw [ht] at h
        cases h
  | setInitial state =>
    simp only [build, StateSpace.buildInitial] at h ⊢
    cases hs : n.setInitial state with
    | error fault' => exact .refl n
    | ok space =>
      rw [hs] at h
      cases h

/-! ### The same call on similar automata -/

theorem targets_connect (n : Nfa) (s : Nat) (a : Symbol) (t : Nat) :
    (n.connect s a t).targets = fun s' b =>
      if (⟨s, a⟩ : Departure) == ⟨s', b⟩ then (n.targets s a).insert t else n.targets s' b := by
  funext s' b
  simp only [targets, connect, Ledger.get?_update]
  split <;> rfl

theorem epsilonTargets_connectEpsilon (n : Nfa) (s t : Nat) :
    (n.connectEpsilon s t).epsilonTargets = fun s' =>
      if s == s' then (n.epsilonTargets s).insert t else n.epsilonTargets s' := by
  funext s'
  simp only [epsilonTargets, connectEpsilon, Ledger.get?_update]
  split <;> rfl

variable {n m : Nfa}

theorem Similar.connect (h : n.Similar m) (s : Nat) (a : Symbol) (t : Nat) :
    (n.connect s a t).Similar (m.connect s a t) :=
  ⟨⟨by rw [targets_connect, targets_connect, h.targets], h.epsilonTargets⟩, h.space⟩

theorem Similar.connectEpsilon (h : n.Similar m) (s t : Nat) :
    (n.connectEpsilon s t).Similar (m.connectEpsilon s t) :=
  ⟨⟨h.targets,
    by rw [epsilonTargets_connectEpsilon, epsilonTargets_connectEpsilon, h.epsilonTargets]⟩, h.space⟩

theorem Similar.reserve (h : n.Similar m) (s : Nat) (a : Symbol) :
    (n.reserve s a).Similar (m.reserve s a) :=
  (similar_reserve n s a).symm.trans (h.trans (similar_reserve m s a))

theorem Similar.reserveEpsilon (h : n.Similar m) (s : Nat) :
    (n.reserveEpsilon s).Similar (m.reserveEpsilon s) :=
  (similar_reserveEpsilon n s).symm.trans (h.trans (similar_reserveEpsilon m s))

/-- What one call does to similar automata. -/
structure SimilarBuilt (b c : Built Nfa) : Prop where
  automaton : b.automaton.Similar c.automaton
  result : b.result = c.result
  report : b.report = c.report

/-- Similar automata stay similar when the same call is made on both of them, and it has the same
    result and the same report. -/
theorem Similar.build (h : n.Similar m) (call : Construction) :
    SimilarBuilt (n.build call) (m.build call) := by
  -- both automata have the same states, so arguments are refused by both or by none
  have hvalidate : n.validate = m.validate := by rw [h.space]
  cases call with
  | addState accepting =>
    simp only [Nfa.build, h.space]
    exact ⟨⟨⟨h.targets, h.epsilonTargets⟩, rfl⟩, rfl, rfl⟩
  | addTransition source symbol target =>
    simp only [Nfa.build, addTransition, hvalidate]
    split
    · exact ⟨h, rfl, rfl⟩
    · rename_i s a _
      cases m.validate target with
      | error fault => exact ⟨h.reserve s a, rfl, rfl⟩
      | ok t => exact ⟨h.connect s a t, rfl, rfl⟩
  | addEpsilon source target =>
    simp only [Nfa.build, addEpsilon, hvalidate]
    cases m.validate source with
    | error fault => exact ⟨h, rfl, rfl⟩
    | ok s =>
      cases m.validate target with
      | error fault => exact ⟨h.reserveEpsilon s, rfl, rfl⟩
      | ok t => exact ⟨h.connectEpsilon s t, rfl, rfl⟩
  | setInitial state =>
    simp only [Nfa.build, h.space]
    exact ⟨⟨⟨h.targets, h.epsilonTargets⟩, rfl⟩, rfl, rfl⟩

/-! ### Listings -/

/-- No edge is listed twice, not even in two spellings. -/
theorem Sound.nodup_edges (hn : n.Sound) : (n.transitions.map Transition.edge).Nodup := by
  have hmap : n.transitions.map Transition.edge = n.edges.flatMap fun e =>
      e.2.map fun t => (e.1.source, e.1.symbol.value.canonical, t) := by
    simp only [transitions, transitionsOf, List.map_flatMap, List.map_map]
    rfl
  rw [hmap, List.nodup_flatMap]
  constructor
  · rintro ⟨k, set⟩ hmem
    exact (hn.edges_within k set hmem).2.ascends.nodup.map fun t u h => by simpa using h
  · refine hn.edges_distinct.imp ?_
    rintro ⟨k, set⟩ ⟨k', set'⟩ hne e he he'
    obtain ⟨t, -, rfl⟩ := List.mem_map.1 he
    obtain ⟨t', -, heq⟩ := List.mem_map.1 he'
    -- an edge of both entries would make their keys the same
    simp only [Prod.mk.injEq] at heq
    have hkey : (k == k') = true := Departure.beq_iff.2 ⟨heq.1.symm, Symbol.beq_iff.2 heq.2.1.symm⟩
    exact Bool.false_ne_true (hne.symm.trans hkey)

theorem Sound.mem_edges_iff (hn : n.Sound) {e : Nat × Value × Nat} :
    e ∈ n.transitions.map Transition.edge ↔
      ∃ a : Symbol, a.value.canonical = e.2.1 ∧ e.2.2 ∈ n.targets e.1 a := by
  obtain ⟨s, v, t⟩ := e
  rw [List.mem_map]
  constructor
  · rintro ⟨⟨s', a, t'⟩, hmem, heq⟩
    cases heq
    exact ⟨a, rfl, hn.mem_targets_iff.2 ⟨a, hmem, BEq.rfl⟩⟩
  · rintro ⟨a, rfl, ht⟩
    obtain ⟨b, hmem, hb⟩ := hn.mem_targets_iff.1 ht
    exact ⟨_, hmem, by simp only [Transition.edge, Symbol.beq_iff.1 hb]⟩

theorem Sound.nodup_epsilonTransitions (hn : n.Sound) : n.epsilonTransitions.Nodup := by
  rw [epsilonTransitions, epsilonTransitionsOf, List.nodup_flatMap]
  constructor
  · rintro ⟨s, set⟩ hmem
    exact (hn.epsilons_within s set hmem).2.ascends.nodup.map fun t u h => by simpa using h
  · refine hn.epsilons_distinct.imp ?_
    rintro ⟨s, set⟩ ⟨s', set'⟩ hne e he he'
    obtain ⟨t, -, rfl⟩ := List.mem_map.1 he
    obtain ⟨t', -, heq⟩ := List.mem_map.1 he'
    simp only [Prod.mk.injEq] at heq
    exact (beq_eq_false_iff_ne.1 hne) heq.1.symm

section Sound

variable (hn : n.Sound) (hm : m.Sound) (h : n.SameMoves m)
include hn hm h

/-- Automata with the same moves list the same edges. -/
theorem SameMoves.sameEdges : SameEdges n.transitions m.transitions := by
  rw [sameEdges_iff_perm, List.perm_ext_iff_of_nodup hn.nodup_edges hm.nodup_edges]
  intro e
  rw [hn.mem_edges_iff, hm.mem_edges_iff, h.targets]

theorem SameMoves.perm_epsilonTransitions : n.epsilonTransitions.Perm m.epsilonTransitions := by
  rw [List.perm_ext_iff_of_nodup hn.nodup_epsilonTransitions hm.nodup_epsilonTransitions]
  rintro ⟨s, t⟩
  rw [← hn.mem_epsilonTargets_iff, ← hm.mem_epsilonTargets_iff, h.epsilonTargets]

theorem SameMoves.transitionCount_eq : n.transitionCount = m.transitionCount := by
  rw [← length_transitions, ← length_transitions, (h.sameEdges hn hm).length_eq]

theorem SameMoves.epsilonCount_eq : n.epsilonCount = m.epsilonCount := by
  rw [← length_epsilonTransitions, ← length_epsilonTransitions,
    (h.perm_epsilonTransitions hn hm).length_eq]

end Sound

/-! ### Closures and runs -/

section Moves

variable (h : n.SameMoves m)
include h

theorem SameMoves.closureOf_eq : n.closureOf = m.closureOf :=
  closureOf_eq_of_epsilonTargets h.epsilonTargets

theorem SameMoves.advance_eq : n.advance = m.advance := by
  funext active a
  rw [advance, advance, h.targets, h.closureOf_eq]

theorem SameMoves.trail_eq (active : StateSet) (word : List Value) :
    n.trail active word = m.trail active word := by
  induction word generalizing active with
  | nil => rfl
  | cons a rest ih => simp only [trail_cons, h.advance_eq, ih]

theorem SameMoves.simulate_eq (hinitial : n.initial? = m.initial?) : n.simulate = m.simulate := by
  funext word
  simp only [simulate_def, hinitial, h.closureOf_eq, h.trail_eq]

theorem SameMoves.finish_eq (active : StateSet) (word : List Value) :
    n.finish active word = m.finish active word := by
  induction word generalizing active with
  | nil => rfl
  | cons a rest ih => simp only [finish_cons, h.advance_eq, ih]

theorem SameMoves.judge_eq (hinitial : n.initial? = m.initial?) (hflags : n.flags = m.flags) :
    n.judge = m.judge := by
  have haccepts : n.accepts = m.accepts := Registry.accepts_congr hflags
  funext word
  simp only [judge_def, hinitial, haccepts, h.closureOf_eq, h.finish_eq]

end Moves

theorem Similar.epsilonClosure_eq (h : n.Similar m) : n.epsilonClosure = m.epsilonClosure := by
  funext states
  simp only [epsilonClosure_def, h.space, h.closureOf_eq]

theorem Similar.step_eq (h : n.Similar m) : n.step = m.step := by
  funext active a
  simp only [step_def, h.space, h.advance_eq]

end FiniteAutomata.Nfa

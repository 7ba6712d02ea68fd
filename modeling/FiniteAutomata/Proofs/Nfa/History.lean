import FiniteAutomata.Nfa.Basic
import FiniteAutomata.Proofs.Closure
import FiniteAutomata.Proofs.Collection.Ledger
import FiniteAutomata.Proofs.Registry

namespace FiniteAutomata.Nfa

/-!
# Histories of nondeterministic automata

Whatever calls were made on an automaton, refused ones included, its tables are in order: each key
has one entry, and every state in an entry is a state of the automaton. The listings of transitions
then say the same as the tables.

* `Change`: what one call can do.
* `build_addTransition`, `build_addEpsilon`: a transition between states of the automaton is added.
* `build_change`: no call does anything else.
* `Sound`: what is true of an automaton after any calls.
* `Sound.change`, `Sound.buildAll`: one call and any number of calls keep it true.
* `Sound.mem_targets_iff`, `Sound.mem_epsilonTargets_iff`: tables and listings agree.
* `mem_closureOf`: epsilon closures hold what can be reached by epsilon transitions.
-/

/-! ### One call -/

/-- What one call can do to an automaton. A refused call may still make room for an entry. -/
inductive Change (n : Nfa) : Nfa → Prop
  | unchanged : Change n n
  | addState (accepting : Value) : Change n { n with toStateSpace := n.addState accepting }
  | setInitial {s : Nat} (hs : s < n.size) : Change n { n with chosen := some s }
  | reserve {s : Nat} (hs : s < n.size) (a : Symbol) : Change n (n.reserve s a)
  | connect {s t : Nat} (hs : s < n.size) (a : Symbol) (ht : t < n.size) :
    Change n (n.connect s a t)
  | reserveEpsilon {s : Nat} (hs : s < n.size) : Change n (n.reserveEpsilon s)
  | connectEpsilon {s t : Nat} (hs : s < n.size) (ht : t < n.size) : Change n (n.connectEpsilon s t)

theorem addTransition_change (n : Nfa) (source symbol target : Value) :
    n.Change (n.addTransition source symbol target).1 := by
  rw [addTransition]
  cases hs : n.validate source with
  | error fault => exact .unchanged
  | ok s =>
    have hs' := (Registry.validate_eq_ok_iff.1 hs).1
    rw [ok_bind]
    cases ha : symbol.symbol with
    | error fault => exact .unchanged
    | ok a =>
      rw [ok_bind, pure_eq_ok]
      cases ht : n.validate target with
      | error fault => exact .reserve hs' a
      | ok t => exact .connect hs' a (Registry.validate_eq_ok_iff.1 ht).1

theorem addEpsilon_change (n : Nfa) (source target : Value) :
    n.Change (n.addEpsilon source target).1 := by
  rw [addEpsilon]
  cases hs : n.validate source with
  | error fault => exact .unchanged
  | ok s =>
    have hs' := (Registry.validate_eq_ok_iff.1 hs).1
    cases ht : n.validate target with
    | error fault => exact .reserveEpsilon hs'
    | ok t => exact .connectEpsilon hs' (Registry.validate_eq_ok_iff.1 ht).1

/-- A transition between states of the automaton is added. -/
theorem build_addTransition {n : Nfa} {s t : Nat} (hs : s < n.size) (a : Symbol)
    (ht : t < n.size) :
    n.build (.addTransition (n.state s) a.value (n.state t)) =
      { automaton := n.connect s a t, result := .ok none } := by
  simp only [build, addTransition, Registry.validate_state hs, a.symbol_value,
    Registry.validate_state ht, ok_bind, pure_eq_ok]
  rfl

/-- An epsilon transition between states of the automaton is added. -/
theorem build_addEpsilon {n : Nfa} {s t : Nat} (hs : s < n.size) (ht : t < n.size) :
    n.build (.addEpsilon (n.state s) (n.state t)) =
      { automaton := n.connectEpsilon s t, result := .ok none } := by
  simp only [build, addEpsilon, Registry.validate_state hs, Registry.validate_state ht]
  rfl

/-- A call does nothing but what `Change` lists. -/
theorem build_change (n : Nfa) (call : Construction) : n.Change (n.build call).automaton := by
  cases call with
  | addState accepting => exact .addState accepting
  | addTransition source symbol target => exact addTransition_change n source symbol target
  | addEpsilon source target => exact addEpsilon_change n source target
  | setInitial state =>
    rw [build, StateSpace.buildInitial]
    cases h : n.setInitial state with
    | error fault => exact .unchanged
    | ok space =>
      obtain ⟨s, hs, -, rfl⟩ := StateSpace.setInitial_eq_ok_iff.1 h
      exact .setInitial hs

/-! ### Any number of calls -/

/-- A set of states of an automaton of the given size. -/
structure Within (size : Nat) (set : StateSet) : Prop where
  ascends : set.Ascends
  lt : ∀ s ∈ set, s < size

theorem Within.mono {size size' : Nat} {set : StateSet} (h : Within size set) (hle : size ≤ size') :
    Within size' set :=
  ⟨h.ascends, fun s hs => Nat.lt_of_lt_of_le (h.lt s hs) hle⟩

theorem Within.getD {size : Nat} {o : Option StateSet} (h : ∀ set, o = some set → Within size set) :
    Within size (o.getD []) := by
  cases o with
  | none => exact ⟨List.Pairwise.nil, by simp⟩
  | some set => exact h set rfl

theorem Within.insert {size t : Nat} {set : StateSet} (h : Within size set) (ht : t < size) :
    Within size (set.insert t) := by
  refine ⟨h.ascends.insert t, fun s hs => ?_⟩
  rcases StateSet.mem_insert.1 hs with rfl | hs
  · exact ht
  · exact h.lt s hs

/-- What is true of an automaton after any calls. -/
structure Sound (n : Nfa) : Prop where
  initial : n.toStateSpace.Sound
  edges_distinct : n.edges.Distinct
  edges_within : ∀ d set, (d, set) ∈ n.edges → d.source < n.size ∧ Within n.size set
  epsilons_distinct : n.epsilons.Distinct
  epsilons_within : ∀ s set, (s, set) ∈ n.epsilons → s < n.size ∧ Within n.size set

theorem sound_new (owner : Nat) : (new owner).Sound where
  initial := by simp [StateSpace.Sound, new]
  edges_distinct := Ledger.distinct_nil
  edges_within := by simp [new]
  epsilons_distinct := Ledger.distinct_nil
  epsilons_within := by simp [new]

/-- One call keeps the tables in order. -/
theorem Sound.change {n m : Nfa} (h : n.Sound) (hchange : n.Change m) : m.Sound := by
  cases hchange with
  | unchanged => exact h
  | addState accepting =>
    have hsize := StateSpace.size_addState n.toStateSpace accepting
    -- a state that was there before is still below the new number of states
    refine { h with
      initial := h.initial.addState accepting
      edges_within := ?_
      epsilons_within := ?_ }
    · intro d set hmem
      obtain ⟨hlt, hset⟩ := h.edges_within d set hmem
      exact ⟨by simp only [hsize]; omega, hset.mono (by simp only [hsize]; omega)⟩
    · intro s set hmem
      obtain ⟨hlt, hset⟩ := h.epsilons_within s set hmem
      exact ⟨by simp only [hsize]; omega, hset.mono (by simp only [hsize]; omega)⟩
  | setInitial hs =>
    refine { h with initial := ?_ }
    intro index hindex
    cases hindex
    exact hs
  -- each of the other calls updates one table under a key that names a state; what is put there is
  -- the set that was kept, or that set with one more state
  | reserve hs a =>
    exact { h with
      edges_distinct := h.edges_distinct.update _ _
      edges_within := Ledger.forall_mem_update h.edges_within hs fun _ ho => Within.getD ho }
  | connect hs a ht =>
    exact { h with
      edges_distinct := h.edges_distinct.update _ _
      edges_within :=
        Ledger.forall_mem_update h.edges_within hs fun _ ho => (Within.getD ho).insert ht }
  | reserveEpsilon hs =>
    exact { h with
      epsilons_distinct := h.epsilons_distinct.update _ _
      epsilons_within := Ledger.forall_mem_update h.epsilons_within hs fun _ ho => Within.getD ho }
  | connectEpsilon hs ht =>
    exact { h with
      epsilons_distinct := h.epsilons_distinct.update _ _
      epsilons_within :=
        Ledger.forall_mem_update h.epsilons_within hs fun _ ho => (Within.getD ho).insert ht }

/-- Any number of calls keep the tables in order. -/
theorem Sound.buildAll {n : Nfa} (h : n.Sound) (calls : List Construction) :
    (n.buildAll calls).Sound := by
  rw [Nfa.buildAll]
  induction calls generalizing n with
  | nil => exact h
  | cons call rest ih => exact ih (h.change (build_change n call))

/-- An automaton that was built from nothing is in order. -/
theorem sound_buildAll_new (owner : Nat) (calls : List Construction) :
    ((new owner).buildAll calls).Sound :=
  (sound_new owner).buildAll calls

/-! ### Tables and listings -/

variable {n : Nfa}

theorem within_targets (h : n.Sound) (s : Nat) (a : Symbol) : Within n.size (n.targets s a) := by
  refine Within.getD fun set hset => ?_
  obtain ⟨d, hmem, -⟩ := Ledger.exists_mem_of_get?_eq_some hset
  exact (h.edges_within d set hmem).2

theorem within_epsilonTargets (h : n.Sound) (s : Nat) : Within n.size (n.epsilonTargets s) := by
  refine Within.getD fun set hset => ?_
  obtain ⟨s', hmem, -⟩ := Ledger.exists_mem_of_get?_eq_some hset
  exact (h.epsilons_within s' set hmem).2

/-- A state goes to another one on a symbol exactly if there is a transition between them on some
    spelling of the symbol. -/
theorem Sound.mem_targets_iff (h : n.Sound) {s t : Nat} {a : Symbol} :
    t ∈ n.targets s a ↔ ∃ b, ⟨s, b, t⟩ ∈ n.transitions ∧ (b == a) = true := by
  simp only [targets, transitions, transitionsOf, List.mem_flatMap, List.mem_map]
  constructor
  · intro ht
    cases hget : n.edges.get? ⟨s, a⟩ with
    | none => rw [hget] at ht; cases ht
    | some set =>
      rw [hget, Option.getD_some] at ht
      obtain ⟨⟨s', b⟩, hmem, hd⟩ := Ledger.exists_mem_of_get?_eq_some hget
      obtain ⟨hs, hb⟩ := Departure.beq_iff.1 hd
      simp only at hs hb
      subst hs
      exact ⟨b, ⟨(⟨s', b⟩, set), hmem, t, ht, rfl⟩, hb⟩
  · rintro ⟨b, ⟨⟨d, set⟩, hmem, t', ht', heq⟩, hb⟩
    cases heq
    have hd : (d == ⟨d.source, a⟩) = true := Departure.beq_iff.2 ⟨rfl, hb⟩
    rw [h.edges_distinct.get?_of_mem hmem hd, Option.getD_some]
    exact ht'

theorem mem_epsilonTransitions_of_mem_epsilonTargets {s t : Nat} (ht : t ∈ n.epsilonTargets s) :
    (s, t) ∈ n.epsilonTransitions := by
  simp only [epsilonTransitions, epsilonTransitionsOf, List.mem_flatMap, List.mem_map]
  rw [epsilonTargets] at ht
  cases hget : n.epsilons.get? s with
  | none => rw [hget] at ht; cases ht
  | some set =>
    rw [hget, Option.getD_some] at ht
    obtain ⟨s', hmem, hs⟩ := Ledger.exists_mem_of_get?_eq_some hget
    rw [beq_iff_eq] at hs
    subst hs
    exact ⟨(s', set), hmem, t, ht, rfl⟩

/-- A state goes to another one without reading exactly if there is an epsilon transition between
    them. -/
theorem Sound.mem_epsilonTargets_iff (h : n.Sound) {s t : Nat} :
    t ∈ n.epsilonTargets s ↔ (s, t) ∈ n.epsilonTransitions := by
  refine ⟨mem_epsilonTransitions_of_mem_epsilonTargets, fun ht => ?_⟩
  simp only [epsilonTransitions, epsilonTransitionsOf, List.mem_flatMap, List.mem_map] at ht
  obtain ⟨⟨s', set⟩, hmem, t', ht', heq⟩ := ht
  cases heq
  rw [epsilonTargets, h.epsilons_distinct.get?_of_mem hmem BEq.rfl, Option.getD_some]
  exact ht'

/-- The transitions are between states of the automaton. -/
theorem Sound.within_transitions (h : n.Sound) :
    ∀ t ∈ n.transitions, t.source < n.size ∧ t.target < n.size := by
  intro t ht
  obtain ⟨⟨k, set⟩, hmem, ht⟩ := List.mem_flatMap.1 ht
  obtain ⟨target, htarget, rfl⟩ := List.mem_map.1 ht
  obtain ⟨hlt, hset⟩ := h.edges_within k set hmem
  exact ⟨hlt, hset.lt target htarget⟩

theorem Sound.within_epsilonTransitions (h : n.Sound) :
    ∀ e ∈ n.epsilonTransitions, e.1 < n.size ∧ e.2 < n.size := by
  intro e he
  obtain ⟨⟨s, set⟩, hmem, he⟩ := List.mem_flatMap.1 he
  obtain ⟨t, ht, rfl⟩ := List.mem_map.1 he
  obtain ⟨hlt, hset⟩ := h.epsilons_within s set hmem
  exact ⟨hlt, hset.lt t ht⟩

theorem length_epsilonTransitions (n : Nfa) : n.epsilonTransitions.length = n.epsilonCount := by
  simp [epsilonTransitions, epsilonTransitionsOf, epsilonCount, countOf, List.length_flatMap,
    List.sum_eq_foldr]

theorem length_transitions (n : Nfa) : n.transitions.length = n.transitionCount := by
  simp [transitions, transitionsOf, transitionCount, countOf, List.length_flatMap, List.sum_eq_foldr]

/-! ### Epsilon closures -/

/-- No more states can be reached by epsilon transitions than there are given states and targets of
    epsilon transitions. -/
theorem length_le_of_reached_epsilons {states found : List Nat} (hnodup : found.Nodup)
    (hfound : ∀ s ∈ found, Reached n.epsilonTargets states s) :
    found.length ≤ states.length + n.epsilonCount := by
  have htargets : ∀ s t, t ∈ n.epsilonTargets s → t ∈ n.epsilonTransitions.map (·.2) := by
    intro s t ht
    exact List.mem_map.2 ⟨(s, t), mem_epsilonTransitions_of_mem_epsilonTargets ht, rfl⟩
  have hle := length_le_of_reached htargets hnodup hfound
  rwa [List.length_map, length_epsilonTransitions] at hle

/-- An epsilon closure holds what can be reached by epsilon transitions: the search for it makes
    enough visits, one for each given state and each target of an epsilon transition. -/
theorem mem_closureOf {states : List Nat} {t : Nat} :
    t ∈ n.closureOf states ↔ Reached n.epsilonTargets states t :=
  mem_closure fun _ => length_le_of_reached_epsilons

theorem ascends_closureOf (n : Nfa) (states : List Nat) : (n.closureOf states).Ascends :=
  ascends_closure _ _ _

/-- Epsilon closures do not depend on how the table of epsilon transitions is written. -/
theorem closureOf_eq_of_epsilonTargets {m : Nfa} (h : n.epsilonTargets = m.epsilonTargets) :
    n.closureOf = m.closureOf := by
  funext given
  refine (ascends_closureOf n given).eq_of_mem_iff (ascends_closureOf m given) fun t => ?_
  rw [mem_closureOf, mem_closureOf, h]

/-- Where the only epsilon transitions are loops, nothing is reached but the given states. -/
theorem closureOf_eq_ofList (h : ∀ s, ∀ t ∈ n.epsilonTargets s, t = s) (states : List Nat) :
    n.closureOf states = StateSet.ofList states := by
  refine (ascends_closureOf n states).eq_of_mem_iff (StateSet.ascends_ofList states) fun t => ?_
  rw [mem_closureOf, StateSet.mem_ofList]
  constructor
  · intro ht
    induction ht with
    | seed hs => exact hs
    | follow _ hedge ih => exact h _ _ hedge ▸ ih
  · exact .seed

/-- What can be reached from states of the automaton are states of the automaton. -/
theorem Sound.reached_lt (h : n.Sound) {states : List Nat} (hstates : ∀ s ∈ states, s < n.size)
    {t : Nat} (ht : Reached n.epsilonTargets states t) : t < n.size :=
  ht.lt hstates fun s => (within_epsilonTargets h s).lt

theorem Sound.within_closureOf (h : n.Sound) {states : List Nat}
    (hstates : ∀ s ∈ states, s < n.size) : Within n.size (n.closureOf states) :=
  ⟨ascends_closureOf n states, fun _ ht => h.reached_lt hstates (mem_closureOf.1 ht)⟩

/-- The states active after a symbol: the targets of the active states and whatever can be reached
    from those by epsilon transitions. -/
theorem mem_advance {active : List Nat} {a : Symbol} {t : Nat} :
    t ∈ n.advance active a ↔
      Reached n.epsilonTargets (StateSet.ofList (active.flatMap (n.targets · a))) t :=
  mem_closureOf

theorem Sound.within_advance (h : n.Sound) (active : List Nat) (a : Symbol) :
    Within n.size (n.advance active a) := by
  refine h.within_closureOf fun t ht => ?_
  obtain ⟨s, -, ht⟩ := List.mem_flatMap.1 (StateSet.mem_ofList.1 ht)
  exact (within_targets h s a).lt t ht

/-- Where no state is active, none is active after any symbol. -/
theorem advance_nil (n : Nfa) (a : Symbol) : n.advance [] a = [] := by
  refine List.eq_nil_iff_forall_not_mem.2 fun t ht => ?_
  -- what can be reached begins at a given state, and there is none
  have hnone : ∀ s, ¬ Reached n.epsilonTargets [] s := by
    intro s hs
    induction hs with
    | seed h => cases h
    | follow _ _ ih => exact ih
  exact hnone t (mem_advance.1 ht)

end FiniteAutomata.Nfa

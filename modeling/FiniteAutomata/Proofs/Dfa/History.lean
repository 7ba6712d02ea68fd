import FiniteAutomata.Dfa.Basic
import FiniteAutomata.Proofs.Collection.Ledger
import FiniteAutomata.Proofs.Registry
import FiniteAutomata.Proofs.Transition

namespace FiniteAutomata.Dfa

/-!
# Histories of deterministic automata

Whatever calls were made on an automaton, refused ones included, its table is in order: each
departure has one entry, and every state in an entry is a state of the automaton. The listing of
transitions then says the same as the table.

* `Change`: what one call can do. A refused call does nothing.
* `build_addTransition`: a transition between states of the automaton is added.
* `addTransition_eq_ok_iff`, `build_change`: no call does anything else.
* `Sound`: what is true of an automaton after any calls.
* `Sound.change`, `Sound.buildAll`: one call and any number of calls keep it true.
* `Sound.target?_eq_some_iff`, `Sound.mem_edges_iff`: table and listing agree.
-/

/-! ### One call -/

/-- What one call can do to an automaton. -/
inductive Change (d : Dfa) : Dfa → Prop
  | unchanged : Change d d
  | addState (accepting : Value) : Change d { d with toStateSpace := d.addState accepting }
  | setInitial {s : Nat} (hs : s < d.size) : Change d { d with chosen := some s }
  | connect {s t : Nat} (hs : s < d.size) (a : Symbol) (ht : t < d.size) :
    Change d (d.connect s a t)

/-- A transition is added exactly if the two states and the symbol are what they ought to be. -/
theorem addTransition_eq_ok_iff {d d' : Dfa} {source symbol target : Value} {report : List Event} :
    d.addTransition source symbol target = .ok (d', report) ↔
      ∃ s a t, d.validate source = .ok s ∧ symbol.symbol = .ok a ∧ d.validate target = .ok t ∧
        d' = d.connect s a t ∧ report = d.replacement s a t := by
  rw [addTransition]
  simp only [bind_eq_ok_iff, pure_eq_ok, Except.ok.injEq, Prod.mk.injEq]
  constructor
  · rintro ⟨s, hs, t, ht, a, ha, rfl, rfl⟩
    exact ⟨s, a, t, hs, ha, ht, rfl, rfl⟩
  · rintro ⟨s, a, t, hs, ha, ht, rfl, rfl⟩
    exact ⟨s, hs, t, ht, a, ha, rfl, rfl⟩

/-- A transition between states of the automaton is added. -/
theorem build_addTransition {d : Dfa} {s t : Nat} (hs : s < d.size) (a : Symbol)
    (ht : t < d.size) :
    d.build (.addTransition (d.state s) a.value (d.state t)) =
      { automaton := d.connect s a t, result := .ok none, report := d.replacement s a t } := by
  have h : d.addTransition (d.state s) a.value (d.state t) =
      .ok (d.connect s a t, d.replacement s a t) :=
    addTransition_eq_ok_iff.2 ⟨s, a, t, Registry.validate_state hs, a.symbol_value,
      Registry.validate_state ht, rfl, rfl⟩
  simp only [build, h]

/-- A call does nothing but what `Change` lists. -/
theorem build_change (d : Dfa) (call : Construction) : d.Change (d.build call).automaton := by
  cases call with
  | addState accepting => exact .addState accepting
  | addTransition source symbol target =>
    rw [build]
    cases h : d.addTransition source symbol target with
    | error fault => exact .unchanged
    | ok result =>
      obtain ⟨s, a, t, hs, -, ht, hd, -⟩ := addTransition_eq_ok_iff.1 h
      simp only [hd]
      exact .connect (Registry.validate_eq_ok_iff.1 hs).1 a (Registry.validate_eq_ok_iff.1 ht).1
  | addEpsilon source target => exact .unchanged
  | setInitial state =>
    rw [build, StateSpace.buildInitial]
    cases h : d.setInitial state with
    | error fault => exact .unchanged
    | ok space =>
      obtain ⟨s, hs, -, rfl⟩ := StateSpace.setInitial_eq_ok_iff.1 h
      exact .setInitial hs

/-! ### Any number of calls -/

/-- What is true of an automaton after any calls. -/
structure Sound (d : Dfa) : Prop where
  initial : d.toStateSpace.Sound
  edges_distinct : d.edges.Distinct
  edges_within : ∀ k t, (k, t) ∈ d.edges → k.source < d.size ∧ t < d.size

theorem sound_new (owner : Nat) : (new owner).Sound where
  initial := by simp [StateSpace.Sound, new]
  edges_distinct := Ledger.distinct_nil
  edges_within := by simp [new]

/-- One call keeps the table in order. -/
theorem Sound.change {d d' : Dfa} (h : d.Sound) (hchange : d.Change d') : d'.Sound := by
  cases hchange with
  | unchanged => exact h
  | addState accepting =>
    have hsize := StateSpace.size_addState d.toStateSpace accepting
    refine { h with
      initial := h.initial.addState accepting
      edges_within := ?_ }
    intro k t hmem
    obtain ⟨hsource, htarget⟩ := h.edges_within k t hmem
    simp only [hsize]
    omega
  | setInitial hs =>
    refine { h with initial := ?_ }
    intro index hindex
    cases hindex
    exact hs
  | connect hs a ht =>
    exact { h with
      edges_distinct := h.edges_distinct.update _ _
      edges_within := Ledger.forall_mem_update h.edges_within hs fun _ _ => ht }

/-- Any number of calls keep the table in order. -/
theorem Sound.buildAll {d : Dfa} (h : d.Sound) (calls : List Construction) :
    (d.buildAll calls).Sound := by
  rw [Dfa.buildAll]
  induction calls generalizing d with
  | nil => exact h
  | cons call rest ih => exact ih (h.change (build_change d call))

/-- An automaton that was built from nothing is in order. -/
theorem sound_buildAll_new (owner : Nat) (calls : List Construction) :
    ((new owner).buildAll calls).Sound :=
  (sound_new owner).buildAll calls

/-! ### Table and listing -/

variable {d : Dfa}

/-- A state goes to states of the automaton only. -/
theorem Sound.target?_lt (h : d.Sound) {s t : Nat} {a : Symbol} (ht : d.target? s a = some t) :
    t < d.size := by
  obtain ⟨k, hmem, -⟩ := Ledger.exists_mem_of_get?_eq_some ht
  exact (h.edges_within k t hmem).2

/-- A state goes to another one on a symbol exactly if there is a transition between them on some
    spelling of the symbol. -/
theorem Sound.target?_eq_some_iff (h : d.Sound) {s t : Nat} {a : Symbol} :
    d.target? s a = some t ↔ ∃ b, ⟨s, b, t⟩ ∈ d.transitions ∧ (b == a) = true := by
  simp only [target?, h.edges_distinct.get?_eq_some_iff, transitions, transitionsOf, List.mem_map]
  constructor
  · rintro ⟨⟨s', b⟩, hmem, hd⟩
    obtain ⟨hs, hb⟩ := Departure.beq_iff.1 hd
    simp only at hs hb
    subst hs
    exact ⟨b, ⟨_, hmem, rfl⟩, hb⟩
  · rintro ⟨b, ⟨⟨k, t'⟩, hmem, heq⟩, hb⟩
    cases heq
    exact ⟨k, hmem, Departure.beq_iff.2 ⟨rfl, hb⟩⟩

/-- No edge is listed twice, not even in two spellings. -/
theorem Sound.nodup_edges (h : d.Sound) : (d.transitions.map Transition.edge).Nodup := by
  rw [transitions, transitionsOf, List.map_map, List.Nodup, List.pairwise_map]
  refine h.edges_distinct.imp ?_
  rintro ⟨k, t⟩ ⟨k', t'⟩ hne heq
  -- one edge in two entries would make their keys the same
  simp only [Function.comp_apply, Transition.edge, Prod.mk.injEq] at heq
  have hkey : (k == k') = true := Departure.beq_iff.2 ⟨heq.1, Symbol.beq_iff.2 heq.2.1⟩
  exact Bool.false_ne_true (hne.symm.trans hkey)

/-- An edge is listed exactly if its source goes to its target on some spelling of its symbol. -/
theorem Sound.mem_edges_iff (h : d.Sound) {e : Nat × Value × Nat} :
    e ∈ d.transitions.map Transition.edge ↔
      ∃ a : Symbol, a.value.canonical = e.2.1 ∧ d.target? e.1 a = some e.2.2 := by
  obtain ⟨s, v, t⟩ := e
  rw [List.mem_map]
  constructor
  · rintro ⟨⟨s', a, t'⟩, hmem, heq⟩
    cases heq
    exact ⟨a, rfl, h.target?_eq_some_iff.2 ⟨a, hmem, BEq.rfl⟩⟩
  · rintro ⟨a, rfl, ht⟩
    obtain ⟨b, hmem, hb⟩ := h.target?_eq_some_iff.1 ht
    exact ⟨_, hmem, by simp only [Transition.edge, Symbol.beq_iff.1 hb]⟩

/-- The transitions are between states of the automaton. -/
theorem Sound.within_transitions (h : d.Sound) :
    ∀ t ∈ d.transitions, t.source < d.size ∧ t.target < d.size := by
  intro t ht
  obtain ⟨⟨k, t'⟩, hmem, rfl⟩ := List.mem_map.1 ht
  exact h.edges_within k t' hmem

theorem length_transitions (d : Dfa) : d.transitions.length = d.transitionCount :=
  List.length_map _

/-- Where a state goes on a symbol when a transition has been put into the table. -/
theorem target?_connect (d : Dfa) (s : Nat) (a : Symbol) (t : Nat) (s' : Nat) (b : Symbol) :
    (d.connect s a t).target? s' b =
      if (⟨s, a⟩ : Departure) == ⟨s', b⟩ then some t else d.target? s' b := by
  rw [target?, connect, Ledger.get?_update]
  rfl

end FiniteAutomata.Dfa

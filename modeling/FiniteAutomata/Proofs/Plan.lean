import FiniteAutomata.Proofs.Met
import FiniteAutomata.Proofs.Renumbering

namespace FiniteAutomata

/-!
# Automata built from a plan

A plan says which states and transitions an automaton has. The states may be created in any order,
the transitions may be added in any order and any number of times, and their symbols may be spelled
in any way: what was built answers alike, up to the numbers of the states.

* `Plan`, `Plan.HasEdge`, `Plan.Deterministic`: what an automaton is to be.
* `Plan.Builds`: calls that carry a plan out.
* `Plan.Realized`: an automaton that is what the plan says.
* `Plan.Builds.realized`: it is what the calls build.
* `Plan.Realized.renumbered`: there is one such automaton, up to the numbers of its states.
* `Plan.builds_alike`: whichever way a plan is carried out, the automaton answers alike.
-/

/-- The states of an automaton, each with its flag, the initial one, and the transitions between
    them. Unless there are no states, one of them is the initial state. -/
structure Plan where
  flags : List Bool
  start : Option Nat
  edges : List Transition
  epsilons : List (Nat × Nat) := []
  starts : start = none → flags = []

namespace Plan

variable {plan : Plan}

/-- The plan has an edge between two states on some spelling of a symbol. -/
def HasEdge (plan : Plan) (s : Nat) (c : Symbol) (t : Nat) : Prop :=
  ∃ b, (b == c) = true ∧ ⟨s, b, t⟩ ∈ plan.edges

/-- No state has two targets on the same symbol. -/
def Deterministic (plan : Plan) : Prop :=
  ∀ {s c t u}, plan.HasEdge s c t → plan.HasEdge s c u → t = u

/-- The calls carry the plan out, the states numbered as given: none is refused, they add the states
    in the order of their numbers, the initial state is the last one that they choose, and they add
    all edges of the plan, each at least once, and no others. -/
structure Builds (plan : Plan) (p : Equiv.Perm Nat) (kind : AutomatonKind) (owner : Nat)
    (calls : List Construction) : Prop where
  met : (Automaton.new kind owner).Met calls
  flags : ∀ s, (calls.filterMap Construction.flag?)[p s]? = plan.flags[s]?
  start : (calls.filterMap Construction.choice?).getLast? =
    plan.start.map fun s => .state ⟨p s, owner⟩
  edges : ∀ s c t, Sends owner calls (p s) c (p t) ↔ plan.HasEdge s c t
  epsilons : ∀ s t, epsilonCall owner (p s, p t) ∈ calls ↔ (s, t) ∈ plan.epsilons

/-- The automaton is what the plan says, its states numbered as given. -/
structure Realized (plan : Plan) (p : Equiv.Perm Nat) (kind : AutomatonKind) (a : Automaton) :
    Prop where
  sound : a.Sound
  kind_eq : a.kind = kind
  flags : ∀ s, a.space.flags[p s]? = plan.flags[s]?
  initial : a.space.initial? = plan.start.map p
  goes : ∀ s c t, a.Goes (p s) c (p t) ↔ plan.HasEdge s c t
  goesSilently : ∀ s t, a.GoesSilently (p s) (p t) ↔ (s, t) ∈ plan.epsilons

/-! ### Carrying a plan out -/

section Builds

variable {p : Equiv.Perm Nat} {kind : AutomatonKind} {owner : Nat} {calls : List Construction}

/-- What the calls send where, they send according to the plan. -/
theorem Builds.functional (h : plan.Builds p kind owner calls) (hone : plan.Deterministic)
    {s t u : Nat} {c : Symbol} (ht : Sends owner calls s c t) (hu : Sends owner calls s c u) :
    t = u := by
  obtain ⟨s, rfl⟩ := p.surjective s
  obtain ⟨t, rfl⟩ := p.surjective t
  obtain ⟨u, rfl⟩ := p.surjective u
  rw [hone ((h.edges s c t).1 ht) ((h.edges s c u).1 hu)]

/-- An automaton whose states are those of the plan, and which was told the initial state if there
    is any, has that initial state. -/
theorem initial_eq {space : StateSpace} (hflags : ∀ s, space.flags[p s]? = plan.flags[s]?)
    (hchosen : space.chosen = plan.start.map p) : space.initial? = plan.start.map p := by
  unfold StateSpace.initial?
  cases hstart : plan.start with
  | some s => simp only [hchosen, hstart, Option.map_some]
  | none =>
    -- there are no states, neither in the plan nor in the automaton
    have hzero : space.size = 0 := by
      by_contra hne
      obtain ⟨s, hs⟩ := p.surjective 0
      have hfirst := hflags s
      rw [hs, plan.starts hstart, List.getElem?_nil, List.getElem?_eq_none_iff] at hfirst
      unfold Registry.size at hne
      omega
    simp [hchosen, hstart, hzero]

/-- The calls build what the plan says. -/
theorem Builds.realized (h : plan.Builds p kind owner calls)
    (hone : kind = .dfa → plan.Deterministic) :
    plan.Realized p kind ((Automaton.new kind owner).buildAll calls).1 := by
  have hgrown := h.met.grown
  have hflags : ∀ s, ((Automaton.new kind owner).buildAll calls).1.space.flags[p s]? =
      plan.flags[s]? := by
    intro s
    rw [hgrown.flags_eq, h.flags]
  refine ⟨Automaton.sound_buildAll_new kind owner calls, hgrown.kind_eq, hflags, ?_, ?_, ?_⟩
  · apply initial_eq hflags
    have hchosen := hgrown.chosen_eq
    rw [h.start] at hchosen
    -- the name of a state tells its number
    generalize ((Automaton.new kind owner).buildAll calls).1.space.chosen = chosen at hchosen ⊢
    cases chosen <;> cases hstart : plan.start <;> simp_all
  · intro s c t
    rw [hgrown.goes_iff fun hkind _ _ _ _ => h.functional (hone hkind), h.edges]
  · intro s t
    rw [hgrown.goesSilently_iff, h.epsilons]

end Builds

/-! ### One automaton for a plan -/

namespace Realized

variable {p q : Equiv.Perm Nat} {kind : AutomatonKind} {a b : Automaton}

/-- Two automata that are what a plan says are the same up to the numbers of their states. -/
theorem renumbered (h : plan.Realized p kind a) (h' : plan.Realized q kind b) :
    Automaton.Renumbered (p.symm.trans q) a b := by
  -- a state is taken back to its place in the plan, and from there to the other automaton
  have hflags : ∀ s, b.space.flags[(p.symm.trans q) s]? = a.space.flags[s]? := by
    intro s
    rw [Equiv.trans_apply, h'.flags, ← h.flags, Equiv.apply_symm_apply]
  have hinitial : b.space.initial? = a.space.initial?.map (p.symm.trans q) := by
    rw [h.initial, h'.initial, Option.map_map]
    congr 1
    funext s
    simp
  have haccepts : ∀ s, b.space.accepts ((p.symm.trans q) s) = a.space.accepts s := by
    intro s
    unfold Registry.accepts
    rw [List.getD_eq_getElem?_getD, List.getD_eq_getElem?_getD, hflags]
  have hsize : ∀ s, (p.symm.trans q) s < b.space.size ↔ s < a.space.size := by
    intro s
    unfold Registry.size
    rw [← not_le, ← not_le, ← List.getElem?_eq_none_iff, ← List.getElem?_eq_none_iff, hflags]
  have hgoes : ∀ s c t, b.Goes ((p.symm.trans q) s) c ((p.symm.trans q) t) ↔ a.Goes s c t := by
    intro s c t
    rw [Equiv.trans_apply, Equiv.trans_apply, h'.goes, ← h.goes, Equiv.apply_symm_apply,
      Equiv.apply_symm_apply]
  have hsilently : ∀ s t, b.GoesSilently ((p.symm.trans q) s) ((p.symm.trans q) t) ↔
      a.GoesSilently s t := by
    intro s t
    rw [Equiv.trans_apply, Equiv.trans_apply, h'.goesSilently, ← h.goesSilently,
      Equiv.apply_symm_apply, Equiv.apply_symm_apply]
  -- two automata of a plan are of one kind
  cases a with
  | dfa d =>
    cases b with
    | nfa m => exact nomatch h.kind_eq.trans h'.kind_eq.symm
    | dfa e =>
      exact .dfa h.sound h'.sound ⟨hinitial, haccepts⟩ fun c =>
        Dfa.movesAlike_of_iff fun s t => hgoes s c t
  | nfa n =>
    cases b with
    | dfa e => exact nomatch h.kind_eq.trans h'.kind_eq.symm
    | nfa m =>
      exact .nfa h.sound h'.sound hsize ⟨hinitial, haccepts, hsilently⟩ fun c s t => hgoes s c t

end Realized

/-- Whichever way a plan is carried out, the automaton answers alike, up to the numbers of its
    states. -/
theorem builds_alike {p q : Equiv.Perm Nat} {kind : AutomatonKind} {owner owner' : Nat}
    {calls calls' : List Construction} (hone : kind = .dfa → plan.Deterministic)
    (h : plan.Builds p kind owner calls) (h' : plan.Builds q kind owner' calls') :
    Automaton.AlikeUpTo (p.symm.trans q) ((Automaton.new kind owner).buildAll calls).1
      ((Automaton.new kind owner').buildAll calls').1 :=
  ((h.realized hone).renumbered (h'.realized hone)).alikeUpTo

/-! ### One plan carried out twice -/

/-- Two states with an edge between them on the number one. -/
def bridge : Plan where
  flags := [false, true]
  start := some 0
  edges := [⟨0, ⟨.int 1, rfl⟩, 1⟩]
  starts := nofun

/-- The calls that carry it out in the order in which it is written. -/
def bridgeCalls : List Construction :=
  [.addState (.truth false), .addState (.truth true), initialCall 0 0,
    transitionCall 0 ⟨0, ⟨.int 1, rfl⟩, 1⟩]

/-- Calls that carry it out from its end, the edge added twice and its symbol spelled otherwise. -/
def bridgeCallsBack : List Construction :=
  [.addState (.truth true), initialCall 5 0, .addState (.truth false),
    transitionCall 5 ⟨1, ⟨.truth true, rfl⟩, 0⟩, initialCall 5 1,
    transitionCall 5 ⟨1, ⟨.int 1, rfl⟩, 0⟩]

theorem bridge_deterministic : bridge.Deterministic := by
  rintro s c t u ⟨b, -, hb⟩ ⟨b', -, hb'⟩
  simp only [bridge, List.mem_singleton, Transition.mk.injEq] at hb hb'
  rw [hb.2.2, hb'.2.2]

theorem bridge_builds : bridge.Builds (Equiv.refl Nat) .dfa 0 bridgeCalls where
  met := by decide
  flags _ := rfl
  start := rfl
  edges s c t := by
    simp only [Sends, HasEdge, bridgeCalls, bridge, transitionCall, initialCall]
    constructor
    · rintro ⟨⟨v, hv⟩, hb, hmem⟩
      have hcall : s = 0 ∧ v = .int 1 ∧ t = 1 := by simpa using hmem
      obtain ⟨rfl, rfl, rfl⟩ := hcall
      exact ⟨⟨.int 1, rfl⟩, hb, List.mem_singleton_self _⟩
    · rintro ⟨b, hb, hmem⟩
      rw [List.mem_singleton] at hmem
      cases hmem
      exact ⟨_, hb, by simp⟩
  epsilons s t := by simp [bridgeCalls, bridge, epsilonCall, transitionCall, initialCall]

theorem bridge_builds_back : bridge.Builds (Equiv.swap 0 1) .dfa 5 bridgeCallsBack where
  met := by decide
  flags s := by
    match s with
    | 0 => rfl
    | 1 => rfl
    | s + 2 => rfl
  start := rfl
  edges s c t := by
    simp only [Sends, HasEdge, bridgeCallsBack, bridge, transitionCall, initialCall]
    constructor
    · rintro ⟨⟨v, hv⟩, hb, hmem⟩
      have hcall : s = 0 ∧ v = .truth true ∧ t = 1 ∨ s = 0 ∧ v = .int 1 ∧ t = 1 := by
        simpa [Equiv.swap_apply_eq_iff] using hmem
      -- the truth value is another spelling of the number
      obtain ⟨rfl, rfl, rfl⟩ | ⟨rfl, rfl, rfl⟩ := hcall
      · exact ⟨⟨.int 1, rfl⟩, hb, List.mem_singleton_self _⟩
      · exact ⟨⟨.int 1, rfl⟩, hb, List.mem_singleton_self _⟩
    · rintro ⟨b, hb, hmem⟩
      rw [List.mem_singleton] at hmem
      cases hmem
      exact ⟨_, hb, by simp⟩
  epsilons s t := by simp [bridgeCallsBack, bridge, epsilonCall, transitionCall, initialCall]

theorem bridge_builds_alike :
    bridge.Deterministic ∧ bridge.Builds (Equiv.refl Nat) .dfa 0 bridgeCalls ∧
      bridge.Builds (Equiv.swap 0 1) .dfa 5 bridgeCallsBack ∧
      Automaton.AlikeUpTo ((Equiv.refl Nat).symm.trans (Equiv.swap 0 1))
        ((Automaton.new .dfa 0).buildAll bridgeCalls).1
        ((Automaton.new .dfa 5).buildAll bridgeCallsBack).1 :=
  ⟨bridge_deterministic, bridge_builds, bridge_builds_back,
    builds_alike (fun _ => bridge_deterministic) bridge_builds bridge_builds_back⟩

end Plan

end FiniteAutomata

import FiniteAutomata.Proofs.Collection.Firsts
import FiniteAutomata.Proofs.Nfa.Similar
import FiniteAutomata.Proofs.Record

namespace FiniteAutomata

/-!
# The tables of a nondeterministic automaton

The tables of a nondeterministic automaton tell its history too: whatever was added is there, once, and
nothing else is. An entry is made before the target is looked at, so the call that spells a symbol for
all later ones may be one that was refused for its target.

* `Nfa.Written`: what one call does to the tables.
* `Nfa.Recorded`: the tables and what was named and added so far.
* `Nfa.Recorded.write`: one call keeps them together.
* `Automaton.KeepsAll`, `Nfa.keepsAll_added`: what the automaton answers.
-/

namespace Nfa

/-! ### One call -/

/-- What a call does to the tables of an automaton, told by the departure that it names and by the
    transition or the epsilon transition that it adds. -/
inductive Written (n : Nfa) : Nfa → Option Departure → Option Transition → Option (Nat × Nat) → Prop
  | unchanged {m : Nfa} (hedges : m.edges = n.edges) (hepsilons : m.epsilons = n.epsilons) :
    Written n m none none none
  | reserve (k : Departure) : Written n (n.reserve k.source k.symbol) (some k) none none
  | connect (e : Transition) :
    Written n (n.connect e.source e.symbol e.target) (some e.departure) (some e) none
  | reserveEpsilon (s : Nat) : Written n (n.reserveEpsilon s) none none none
  | connectEpsilon (s t : Nat) : Written n (n.connectEpsilon s t) none none (some (s, t))

/-- The tables of an automaton after a step are the old ones and what the step tells. -/
def WrittenBy (n : Nfa) (step : Step) (m : Nfa) : Prop :=
  n.Written m step.departure? step.transition? step.epsilon?

theorem written_addTransition (n : Nfa) (source symbol target : Value) :
    n.WrittenBy ((Automaton.nfa n).step (.build (.addTransition source symbol target)))
      (n.addTransition source symbol target).1 := by
  have hresult : ((Automaton.nfa n).build (.addTransition source symbol target)).result =
      (n.addTransition source symbol target).2.map fun _ => none := rfl
  rw [WrittenBy]
  rw [addTransition] at hresult ⊢
  cases hnamed : (return (← n.validate source, ← symbol.symbol) : Except Fault (Nat × Symbol)) with
  | error fault =>
    simp only [hnamed] at hresult
    rw [Automaton.departure?_step_of_error (a := .nfa n) hnamed,
      Automaton.transition?_step_of_error hresult]
    exact .unchanged rfl rfl
  | ok k =>
    obtain ⟨s, hs, hrest⟩ := bind_eq_ok_iff.1 hnamed
    obtain ⟨c, hc, hk⟩ := bind_eq_ok_iff.1 hrest
    cases hk
    rw [Automaton.departure?_step (a := .nfa n) hs hc]
    cases ht : n.validate target with
    | error fault =>
      -- the entry was made before the target was refused
      simp only [hnamed, ht] at hresult
      rw [Automaton.transition?_step_of_error hresult]
      exact .reserve ⟨s, c⟩
    | ok t =>
      simp only [hnamed, ht] at hresult
      rw [Automaton.transition?_step (a := .nfa n) hs hc ht (by rw [hresult]; rfl)]
      exact .connect ⟨s, c, t⟩

theorem written_addEpsilon (n : Nfa) (source target : Value) :
    n.WrittenBy ((Automaton.nfa n).step (.build (.addEpsilon source target)))
      (n.addEpsilon source target).1 := by
  have hresult : ((Automaton.nfa n).build (.addEpsilon source target)).result =
      (n.addEpsilon source target).2.map fun _ => none := rfl
  show n.Written _ none none _
  rw [addEpsilon] at hresult ⊢
  cases hs : n.validate source with
  | error fault =>
    simp only [hs] at hresult
    rw [Automaton.epsilon?_step_of_error hresult]
    exact .unchanged rfl rfl
  | ok s =>
    cases ht : n.validate target with
    | error fault =>
      simp only [hs, ht] at hresult
      rw [Automaton.epsilon?_step_of_error hresult]
      exact .reserveEpsilon s
    | ok t =>
      simp only [hs, ht] at hresult
      rw [Automaton.epsilon?_step (a := .nfa n) hs ht (by rw [hresult]; rfl)]
      exact .connectEpsilon s t

/-- A call puts what it names and what it adds into the tables, and does nothing else to them. -/
theorem written_perform (n : Nfa) (call : Call) :
    ∃ m, ((Automaton.nfa n).perform call).automaton = .nfa m ∧
      n.WrittenBy ((Automaton.nfa n).step call) m := by
  cases call with
  | ask query =>
    rw [Automaton.perform_ask]
    exact ⟨n, rfl, .unchanged rfl rfl⟩
  | build call =>
    refine ⟨(n.build call).automaton, rfl, ?_⟩
    cases call with
    | addState accepting => exact .unchanged rfl rfl
    | addTransition source symbol target => exact written_addTransition n source symbol target
    | addEpsilon source target => exact written_addEpsilon n source target
    | setInitial state =>
      rw [build, StateSpace.buildInitial]
      cases n.setInitial state with
      | error fault => exact .unchanged rfl rfl
      | ok space => exact .unchanged rfl rfl

/-! ### Any number of calls -/

/-- The tables of an automaton say what was added so far, under the departures as they were first
    named. -/
structure Recorded (n : Nfa) (named : List Departure) (added : List Transition)
    (silent : List (Nat × Nat)) : Prop where
  keys : n.edges.keys = named.eraseDups
  mem_targets : ∀ s c t,
    t ∈ n.targets s c ↔ ∃ e ∈ added, (e.departure == ⟨s, c⟩) = true ∧ e.target = t
  mem_epsilonTargets : ∀ s t, t ∈ n.epsilonTargets s ↔ (s, t) ∈ silent

theorem recorded_new (owner : Nat) : (new owner).Recorded [] [] [] where
  keys := rfl
  mem_targets s c t := by simp [targets, new, Ledger.get?]
  mem_epsilonTargets s t := by simp [epsilonTargets, new, Ledger.get?]

/-- What leaves a state on a symbol after one more transition was added. -/
theorem mem_targets_connect {n : Nfa} {e : Transition} {s t : Nat} {c : Symbol} :
    t ∈ (n.connect e.source e.symbol e.target).targets s c ↔
      t ∈ n.targets s c ∨ (e.departure == ⟨s, c⟩) = true ∧ e.target = t := by
  have hdeparture : e.departure = ⟨e.source, e.symbol⟩ := rfl
  rw [targets_connect, hdeparture]
  beta_reduce
  split
  · rename_i h
    -- the old set is found under either spelling of the departure
    rw [targets, Ledger.get?_congr h, ← targets, StateSet.mem_insert]
    simp only [h, true_and]
    rw [or_comm, eq_comm (a := t)]
  · rename_i h
    simp only [h, Bool.false_eq_true, false_and, or_false]

theorem mem_epsilonTargets_connectEpsilon {n : Nfa} {s t s' t' : Nat} :
    t' ∈ (n.connectEpsilon s t).epsilonTargets s' ↔
      t' ∈ n.epsilonTargets s' ∨ (s', t') = (s, t) := by
  rw [epsilonTargets_connectEpsilon, Prod.mk.injEq]
  simp only [beq_iff_eq]
  split
  · rename_i h
    subst h
    rw [StateSet.mem_insert, or_comm]
    simp only [true_and]
  · rename_i h
    simp only [Ne.symm h, false_and, or_false]

/-- One call keeps the tables and what was named and added together. -/
theorem Recorded.write {n m : Nfa} {named : List Departure} {added : List Transition}
    {silent : List (Nat × Nat)} {k : Option Departure} {e : Option Transition}
    {s : Option (Nat × Nat)} (h : n.Recorded named added silent) (hwritten : n.Written m k e s) :
    m.Recorded (named ++ k.toList) (added ++ e.toList) (silent ++ s.toList) := by
  cases hwritten with
  | unchanged hedges hepsilons =>
    simp only [Option.toList_none, List.append_nil]
    have htargets : m.targets = n.targets := by
      funext s c
      rw [targets, targets, hedges]
    have hepsilonTargets : m.epsilonTargets = n.epsilonTargets := by
      funext s
      rw [epsilonTargets, epsilonTargets, hepsilons]
    exact ⟨hedges ▸ h.keys, htargets ▸ h.mem_targets, hepsilonTargets ▸ h.mem_epsilonTargets⟩
  | reserve k =>
    simp only [Option.toList_none, Option.toList_some, List.append_nil]
    -- the entry is listed from now on, but there is no transition in it
    refine ⟨Ledger.keys_update_of_keys h.keys _, ?_, h.mem_epsilonTargets⟩
    rw [← (similar_reserve n k.source k.symbol).targets]
    exact h.mem_targets
  | connect e =>
    simp only [Option.toList_none, Option.toList_some, List.append_nil]
    refine ⟨Ledger.keys_update_of_keys h.keys _, fun s c t => ?_, h.mem_epsilonTargets⟩
    rw [mem_targets_connect, h.mem_targets]
    simp only [List.mem_append, List.mem_singleton, or_and_right, exists_or, exists_eq_left]
  | reserveEpsilon s =>
    simp only [Option.toList_none, List.append_nil]
    refine ⟨h.keys, h.mem_targets, ?_⟩
    rw [← (similar_reserveEpsilon n s).epsilonTargets]
    exact h.mem_epsilonTargets
  | connectEpsilon s t =>
    simp only [Option.toList_none, Option.toList_some, List.append_nil]
    refine ⟨h.keys, h.mem_targets, fun s' t' => ?_⟩
    rw [mem_epsilonTargets_connectEpsilon, h.mem_epsilonTargets, List.mem_append,
      List.mem_singleton]

theorem recorded_after (owner : Nat) (calls : List Call) :
    ∃ n, (Automaton.new .nfa owner).after calls = .nfa n ∧
      n.Recorded ((Automaton.new .nfa owner).named calls) ((Automaton.new .nfa owner).added calls)
        ((Automaton.new .nfa owner).addedSilently calls) := by
  refine Automaton.history_induction
    (P := fun a steps => ∃ n, a = .nfa n ∧ n.Recorded (steps.filterMap Step.departure?)
      (steps.filterMap Step.transition?) (steps.filterMap Step.epsilon?))
    ⟨_, rfl, recorded_new owner⟩ ?_ calls
  rintro _ steps call ⟨n, rfl, h⟩
  obtain ⟨m, hm, hwritten⟩ := n.written_perform call
  refine ⟨m, hm, ?_⟩
  simp only [filterMap_append_singleton]
  exact h.write hwritten

end Nfa

/-! ### What is answered -/

namespace Automaton

/-- What an automaton answers about transitions when all that are added are kept. -/
structure KeepsAll (a : Automaton) (named : List Departure) (added : List Transition)
    (silent : List (Nat × Nat)) : Prop where
  /-- A state goes to the targets of the transitions that were added for it and the symbol. -/
  next : ∀ s < a.space.size, ∀ c : Symbol, ∃ set : StateSet,
    a.answer (.next (a.space.state s) c.value) = .ok (.set set) ∧ set.Ascends ∧
      ∀ t, t ∈ set ↔ ∃ e ∈ added, (e.departure == ⟨s, c⟩) = true ∧ e.target = t
  /-- A state goes to the targets of the epsilon transitions that were added for it. -/
  nextEpsilon : ∀ s < a.space.size, ∃ set : StateSet,
    a.answer (.nextEpsilon (a.space.state s)) = .ok (.set set) ∧ set.Ascends ∧
      ∀ t, t ∈ set ↔ (s, t) ∈ silent
  /-- The edges that were added are listed, each of them once, under the departure as it was first
      named, and they are counted. -/
  transitions : ∃ ts, a.answer .transitions = .ok (.transitions ts) ∧
    (ts.map Transition.edge).Nodup ∧
    (∀ e, e ∈ ts.map Transition.edge ↔ e ∈ added.map Transition.edge) ∧
    (∀ t ∈ ts, named.find? (· == t.departure) = some t.departure) ∧
    a.answer .transitionCount = .ok (.count ts.length)
  /-- The epsilon transitions that were added are listed, each of them once, and they are counted. -/
  epsilonTransitions : ∃ es, a.answer .epsilonTransitions = .ok (.epsilonTransitions es) ∧
    es.Nodup ∧ (∀ e, e ∈ es ↔ e ∈ silent) ∧ a.answer .epsilonCount = .ok (.count es.length)

end Automaton

namespace Nfa

variable {n : Nfa} {named : List Departure} {added : List Transition} {silent : List (Nat × Nat)}

/-- The edges in the tables are those that were added, in whatever spelling. -/
theorem Recorded.mem_edges_iff (h : n.Recorded named added silent) (hn : n.Sound)
    {e : Nat × Value × Nat} :
    e ∈ n.transitions.map Transition.edge ↔ e ∈ added.map Transition.edge := by
  rw [hn.mem_edges_iff, List.mem_map]
  simp only [h.mem_targets]
  constructor
  · rintro ⟨c, hc, u, hu, hdeparture, htarget⟩
    obtain ⟨hsource, hsymbol⟩ := Departure.beq_iff.1 hdeparture
    exact ⟨u, hu, Prod.ext hsource (Prod.ext ((Symbol.beq_iff.1 hsymbol).trans hc) htarget)⟩
  · rintro ⟨u, hu, rfl⟩
    exact ⟨u.symbol, rfl, u, hu, BEq.rfl, rfl⟩

/-- A listed transition has the spelling that was named first. -/
theorem Recorded.find?_named (h : n.Recorded named added silent) {t : Transition}
    (ht : t ∈ n.transitions) : named.find? (· == t.departure) = some t.departure := by
  obtain ⟨⟨k, set⟩, hmem, ht⟩ := List.mem_flatMap.1 ht
  obtain ⟨target, -, rfl⟩ := List.mem_map.1 ht
  have hkey : k ∈ n.edges.keys := List.mem_map_of_mem hmem
  rw [h.keys] at hkey
  exact find?_beq_of_mem_eraseDups hkey

/-- **Nothing is lost and nothing is doubled.** After any calls, refused ones and questions included, a
    nondeterministic automaton goes to all targets that were added and lists what was added once. -/
theorem keepsAll_added (owner : Nat) (calls : List Call) :
    ((Automaton.new .nfa owner).after calls).KeepsAll ((Automaton.new .nfa owner).named calls)
      ((Automaton.new .nfa owner).added calls) ((Automaton.new .nfa owner).addedSilently calls) := by
  have hsound := Automaton.sound_after_new .nfa owner calls
  obtain ⟨n, hn, h⟩ := recorded_after owner calls
  rw [hn] at hsound ⊢
  have hsound : n.Sound := hsound
  refine ⟨fun s hs c => ?_, fun s hs => ?_, ?_, ?_⟩
  · have hs : s < n.size := hs
    exact ⟨n.targets s c, Automaton.next_nfa hs c, (within_targets hsound s c).ascends,
      h.mem_targets s c⟩
  · have hs : s < n.size := hs
    exact ⟨n.epsilonTargets s, Automaton.nextEpsilon_nfa hs,
      (within_epsilonTargets hsound s).ascends, h.mem_epsilonTargets s⟩
  · refine ⟨n.transitions, rfl, hsound.nodup_edges, fun e => h.mem_edges_iff hsound,
      fun t ht => h.find?_named ht, ?_⟩
    rw [length_transitions]
    rfl
  · refine ⟨n.epsilonTransitions, rfl, hsound.nodup_epsilonTransitions, fun e => ?_, ?_⟩
    · rw [← hsound.mem_epsilonTargets_iff, h.mem_epsilonTargets]
    · rw [length_epsilonTransitions]
      rfl

/-- The first call is refused for its target, but it spells the symbol of the transition that the
    second one adds. -/
example :
    ((Automaton.new .nfa 0).after
        [.build (.addState (.truth true)),
         .build (.addTransition (.state ⟨0, 0⟩) (.truth true) (.state ⟨7, 0⟩)),
         .build (.addTransition (.state ⟨0, 0⟩) (.int 1) (.state ⟨0, 0⟩))]).answer .transitions =
      .ok (.transitions [⟨0, ⟨.truth true, rfl⟩, 0⟩]) := by
  decide +kernel

end Nfa

end FiniteAutomata

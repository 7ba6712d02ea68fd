import FiniteAutomata.Proofs.Collection.Firsts
import FiniteAutomata.Proofs.Record

namespace FiniteAutomata

/-!
# The table of a deterministic automaton

The table of a deterministic automaton tells its history: under a state and a symbol it keeps the
target that was added last, and it lists the departures in the order in which they were first added,
each in its first spelling.

* `lastTarget?`: the target that was added last.
* `Dfa.addTransition_step`: what a call for a transition results in.
* `Dfa.Written`: what one call does to the table.
* `Dfa.Recorded`: the table and the transitions that were added so far.
* `Dfa.Recorded.write`: one call keeps them together.
* `Automaton.KeepsLast`, `Dfa.keepsLast_added`: what the automaton answers.
-/

/-- The target of the last of several transitions that leave a state on a symbol. -/
def lastTarget? (added : List Transition) (k : Departure) : Option Nat :=
  (added.filter fun e => e.departure == k).getLast?.map (·.target)

theorem lastTarget?_append_singleton (added : List Transition) (e : Transition) (k : Departure) :
    lastTarget? (added ++ [e]) k =
      if e.departure == k then some e.target else lastTarget? added k := by
  rw [lastTarget?, List.filter_append, List.getLast?_append]
  split
  · rename_i h
    simp [h]
  · rename_i h
    simp [h, lastTarget?]

namespace Dfa

/-! ### One call -/

/-- What a call does to the table of an automaton, told by the transition that it adds. -/
inductive Written (d : Dfa) : Dfa → Option Transition → Prop
  | unchanged {d' : Dfa} (h : d'.edges = d.edges) : Written d d' none
  | connect (e : Transition) : Written d (d.connect e.source e.symbol e.target) (some e)

/-- A call for a transition is refused and adds none, or it puts the one that it adds into the
    table. -/
theorem addTransition_step (d : Dfa) (source symbol target : Value) :
    (∃ fault, d.addTransition source symbol target = .error fault ∧
      ((Automaton.dfa d).step (.build (.addTransition source symbol target))).transition? = none) ∨
    ∃ e : Transition, d.addTransition source symbol target =
        .ok (d.connect e.source e.symbol e.target, d.replacement e.source e.symbol e.target) ∧
      ((Automaton.dfa d).step (.build (.addTransition source symbol target))).transition? = some e := by
  cases h : d.addTransition source symbol target with
  | error fault =>
    have hrefused : ((Automaton.dfa d).build (.addTransition source symbol target)).result =
        .error fault := by
      simp only [Automaton.build, build, h]
      rfl
    exact .inl ⟨fault, rfl, Automaton.transition?_step_of_error hrefused⟩
  | ok result =>
    obtain ⟨s, c, t, hs, hc, ht, hconnect, hreport⟩ := addTransition_eq_ok_iff.1 h
    have hok : ((Automaton.dfa d).build (.addTransition source symbol target)).result.isOk =
        true := by
      simp only [Automaton.build, build, h]
      rfl
    exact .inr ⟨⟨s, c, t⟩, by rw [← hconnect, ← hreport],
      Automaton.transition?_step (a := .dfa d) hs hc ht hok⟩

theorem written_addTransition (d : Dfa) (source symbol target : Value) :
    d.Written (d.build (.addTransition source symbol target)).automaton
      ((Automaton.dfa d).step (.build (.addTransition source symbol target))).transition? := by
  obtain ⟨fault, h, hnone⟩ | ⟨e, h, hsome⟩ := d.addTransition_step source symbol target
  · rw [hnone]
    simp only [build, h]
    exact .unchanged rfl
  · rw [hsome]
    simp only [build, h]
    exact .connect e

/-- A call puts the transition that it adds into the table, and does nothing else to the table. -/
theorem written_perform (d : Dfa) (call : Call) :
    ∃ d', ((Automaton.dfa d).perform call).automaton = .dfa d' ∧
      d.Written d' ((Automaton.dfa d).step call).transition? := by
  cases call with
  | ask query =>
    rw [Automaton.perform_ask]
    exact ⟨d, rfl, .unchanged rfl⟩
  | build call =>
    refine ⟨(d.build call).automaton, rfl, ?_⟩
    cases call with
    | addState accepting => exact .unchanged rfl
    | addTransition source symbol target => exact written_addTransition d source symbol target
    | addEpsilon source target => exact .unchanged rfl
    | setInitial state =>
      rw [build, StateSpace.buildInitial]
      cases d.setInitial state with
      | error fault => exact .unchanged rfl
      | ok space => exact .unchanged rfl

/-! ### Any number of calls -/

/-- The table of an automaton says of the transitions that were added so far in which order their
    departures first came, and where each of them leads now. -/
structure Recorded (d : Dfa) (added : List Transition) : Prop where
  keys : d.edges.keys = (added.map Transition.departure).eraseDups
  get? : ∀ k, d.edges.get? k = lastTarget? added k

theorem recorded_new (owner : Nat) : (new owner).Recorded [] where
  keys := rfl
  get? _ := rfl

/-- One call keeps the table and what was added together. -/
theorem Recorded.write {d d' : Dfa} {added : List Transition} {o : Option Transition}
    (h : d.Recorded added) (hwritten : d.Written d' o) : d'.Recorded (added ++ o.toList) := by
  cases hwritten with
  | unchanged hedges =>
    rw [Option.toList_none, List.append_nil]
    exact ⟨hedges ▸ h.keys, hedges ▸ h.get?⟩
  | connect e =>
    rw [Option.toList_some]
    refine ⟨?_, fun k => ?_⟩
    · rw [List.map_append]
      exact Ledger.keys_update_of_keys h.keys _
    · rw [connect, Ledger.get?_update, lastTarget?_append_singleton, h.get?]
      rfl

theorem recorded_after (owner : Nat) (calls : List Call) :
    ∃ d, (Automaton.new .dfa owner).after calls = .dfa d ∧
      d.Recorded ((Automaton.new .dfa owner).added calls) := by
  refine Automaton.history_induction
    (P := fun a steps => ∃ d, a = .dfa d ∧ d.Recorded (steps.filterMap Step.transition?))
    ⟨_, rfl, recorded_new owner⟩ ?_ calls
  rintro _ steps call ⟨d, rfl, h⟩
  obtain ⟨d', hd', hwritten⟩ := d.written_perform call
  refine ⟨d', hd', ?_⟩
  rw [filterMap_append_singleton]
  exact h.write hwritten

end Dfa

/-! ### What is answered -/

namespace Automaton

/-- What an automaton answers about transitions when the last one that is added for a state and a
    symbol replaces the others. -/
structure KeepsLast (a : Automaton) (added : List Transition) : Prop where
  /-- A state goes where the last transition leads that was added for it and the symbol. -/
  next : ∀ s < a.space.size, ∀ c : Symbol,
    a.answer (.next (a.space.state s) c.value) = .ok (.state (lastTarget? added ⟨s, c⟩))
  /-- There is one entry for each departure that was ever added, in its first spelling, in the order in
      which they were first added and with the last target. The entries are counted. -/
  transitions : ∃ ts, a.answer .transitions = .ok (.transitions ts) ∧
    ts.map Transition.departure = (added.map Transition.departure).eraseDups ∧
    (∀ t ∈ ts, lastTarget? added t.departure = some t.target) ∧
    a.answer .transitionCount = .ok (.count ts.length)

end Automaton

namespace Dfa

theorem departures_transitions (d : Dfa) :
    d.transitions.map Transition.departure = d.edges.keys := by
  rw [transitions, transitionsOf, List.map_map]
  rfl

/-- **The last write wins.** After any calls, refused ones and questions included, a deterministic
    automaton goes where the last transition leads that was added, and lists one transition for each
    departure in the order of their first additions. -/
theorem keepsLast_added (owner : Nat) (calls : List Call) :
    ((Automaton.new .dfa owner).after calls).KeepsLast
      ((Automaton.new .dfa owner).added calls) := by
  have hsound := Automaton.sound_after_new .dfa owner calls
  obtain ⟨d, hd, h⟩ := recorded_after owner calls
  rw [hd] at hsound ⊢
  refine ⟨fun s hs c => ?_, d.transitions, rfl, ?_, fun t ht => ?_, ?_⟩
  · have hnext : (Automaton.dfa d).next (d.state s) c.value = .ok (.state (d.target? s c)) :=
      Automaton.next_dfa hs c
    rw [Automaton.answer_next, ← h.get?]
    exact hnext
  · rw [departures_transitions, h.keys]
  · obtain ⟨⟨k, target⟩, hmem, rfl⟩ := List.mem_map.1 ht
    rw [← h.get?]
    exact (Dfa.Sound.edges_distinct hsound).get?_of_mem hmem BEq.rfl
  · rw [length_transitions]
    rfl

/-- The third transition replaces the target of the first one, and leaves its place and the spelling of
    its symbol alone. -/
example :
    ((Automaton.new .dfa 0).after
        [.build (.addState (.truth true)), .build (.addState (.truth false)),
         .build (.addTransition (.state ⟨0, 0⟩) (.int 1) (.state ⟨0, 0⟩)),
         .build (.addTransition (.state ⟨1, 0⟩) (.text "a") (.state ⟨0, 0⟩)),
         .build (.addTransition (.state ⟨0, 0⟩) (.truth true) (.state ⟨1, 0⟩))]).answer .transitions =
      .ok (.transitions [⟨0, ⟨.int 1, rfl⟩, 1⟩, ⟨1, ⟨.text "a", rfl⟩, 0⟩]) := by
  decide +kernel

end Dfa

end FiniteAutomata

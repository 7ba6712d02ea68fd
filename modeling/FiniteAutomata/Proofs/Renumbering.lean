import FiniteAutomata.Proofs.Automaton
import FiniteAutomata.Proofs.Automaton.Asking
import FiniteAutomata.Proofs.Dfa.Renumbering
import FiniteAutomata.Proofs.Nfa.Renumbering
import FiniteAutomata.Proofs.Nfa.Similar
import FiniteAutomata.Proofs.Nfa.Simulation
import Mathlib.Logic.Equiv.Prod

namespace FiniteAutomata

/-!
# Automata with their states renumbered

What can be asked of an automaton does not depend on the numbers of its states, except that the
answers show them.

* `Registry.Names`: a value names states, as it is given to a closure.
* `Automaton.ReadAlike`: two words are read alike up to the numbers.
* `Automaton.Renumbered`: two automata are the same up to the numbers, moves on all symbols included.
* `Automaton.AlikeUpTo`: what follows from that for words, closures, steps and counts.
* `Automaton.Renumbered.alikeUpTo`: it does follow.
-/

/-! ### Values that name states -/

/-- The value is the name of a state, or it lists the names of several ones in order. -/
inductive Registry.Names (r : Registry) : Value → List Nat → Prop
  | one (s : Nat) : Names r (r.state s) [s]
  | several {v : Value} {states : List Nat} (h : v.items? = some (states.map r.state)) :
    Names r v states

namespace Nfa

variable {n : Nfa} {v : Value} {states : List Nat}

/-- The epsilon closure of the states that a value names. -/
theorem epsilonClosure_of_names (hv : n.Names v states) (hstates : ∀ s ∈ states, s < n.size) :
    n.epsilonClosure v = .ok (n.closureOf states) := by
  cases hv with
  | one s => exact epsilonClosure_state (hstates s (List.mem_singleton_self s))
  | several hitems =>
    have hvalid : n.validateAll (states.map n.state) = .ok states :=
      Registry.validateAll_map_state hstates
    cases v with
    | state id => cases hitems
    | _ => simp only [epsilonClosure_def, Value.word, hitems, ok_bind, hvalid, pure_eq_ok]

/-- A step from the states that a value lists. -/
theorem step_of_items (hv : v.items? = some (states.map n.state))
    (hstates : ∀ s ∈ states, s < n.size) (a : Symbol) :
    n.step v a.value = .ok (n.advance states a) := by
  have hmem : ∀ s, s ∈ states ↔ s ∈ StateSet.ofList states := fun _ => StateSet.mem_ofList.symm
  have hwithin : Within n.size (StateSet.ofList states) :=
    ⟨StateSet.ascends_ofList states, fun s hs => hstates s ((hmem s).2 hs)⟩
  rw [step_eq_advance hwithin ⟨states, hv, hmem⟩, advance_congr hmem]

end Nfa

/-! ### Counting -/

/-- Two lists without repeats are equally long if one holds the images of what the other one holds. -/
theorem length_eq_of_apply_mem_iff {α : Type} (f : Equiv.Perm α) {l l' : List α} (hl : l.Nodup)
    (hl' : l'.Nodup) (h : ∀ x, f x ∈ l' ↔ x ∈ l) : l'.length = l.length := by
  have hperm : (l.map f).Perm l' := by
    rw [List.perm_ext_iff_of_nodup (hl.map f.injective) hl']
    intro y
    obtain ⟨x, rfl⟩ := f.surjective y
    rw [h, List.mem_map_of_injective f.injective]
  rw [← hperm.length_eq, List.length_map]

/-- An edge with new numbers for its states. -/
def renumberEdge (p : Equiv.Perm Nat) : Equiv.Perm (Nat × Value × Nat) :=
  p.prodCongr ((Equiv.refl Value).prodCongr p)

theorem Dfa.transitionCount_image {p : Equiv.Perm Nat} {d e : Dfa} (hd : d.Sound) (he : e.Sound)
    (hmoves : ∀ a, MovesAlike p d e a a) : e.transitionCount = d.transitionCount := by
  have hedges := length_eq_of_apply_mem_iff (renumberEdge p) hd.nodup_edges he.nodup_edges <| by
    rintro ⟨s, v, t⟩
    rw [hd.mem_edges_iff, he.mem_edges_iff]
    show (∃ a : Symbol, a.value.canonical = v ∧ e.target? (p s) a = some (p t)) ↔ _
    simp [hmoves _ s]
  simpa [length_transitions] using hedges

namespace Nfa

variable {p : Equiv.Perm Nat} {n m : Nfa} (hn : n.Sound) (hm : m.Sound)
include hn hm

theorem transitionCount_image (hmoves : ∀ a, MovesAlike p n m a a) :
    m.transitionCount = n.transitionCount := by
  have hedges := length_eq_of_apply_mem_iff (renumberEdge p) hn.nodup_edges hm.nodup_edges <| by
    rintro ⟨s, v, t⟩
    rw [hn.mem_edges_iff, hm.mem_edges_iff]
    show (∃ a : Symbol, a.value.canonical = v ∧ p t ∈ m.targets (p s) a) ↔ _
    simp only [hmoves _ s t]
  simpa [length_transitions] using hedges

theorem Renumbered.epsilonCount_eq (h : n.Renumbered p m) : m.epsilonCount = n.epsilonCount := by
  have hedges := length_eq_of_apply_mem_iff (p.prodCongr p) hn.nodup_epsilonTransitions
    hm.nodup_epsilonTransitions <| by
      rintro ⟨s, t⟩
      rw [← hn.mem_epsilonTargets_iff, ← h.epsilonTargets]
      exact hm.mem_epsilonTargets_iff.symm
  simpa [length_epsilonTransitions] using hedges

end Nfa

namespace Automaton

/-! ### Words -/

/-- What is seen while a word is read, with new numbers for the states. -/
def Run.image (p : Equiv.Perm Nat) : Run → Run
  | .path states => .path (states.map p)
  | .trail sets => .trail (sets.map (StateSet.image p))

/-- Each of the two automata reads its word. What they see is the same up to the numbers of the
    states, and so are the verdict and the number of symbols that are taken. -/
def ReadAlike (p : Equiv.Perm Nat) (a b : Automaton) (word word' : Value) : Prop :=
  ∃ run v v', a.simulate word = .ok run ∧ b.simulate word' = .ok (run.image p) ∧
    a.judge word = .ok v ∧ b.judge word' = .ok v' ∧ v'.accepted = v.accepted ∧ v'.read = v.read

section Words

variable {p : Equiv.Perm Nat} {word word' : Value} {symbols symbols' : List Symbol}
  (hword : word.items? = some (symbols.map (·.value)))
  (hword' : word'.items? = some (symbols'.map (·.value)))
include hword hword'

theorem readAlike_dfa {d e : Dfa} (h : d.Renumbered p e)
    (halike : List.Forall₂ (Dfa.MovesAlike p d e) symbols symbols') :
    ReadAlike p (.dfa d) (.dfa e) word word' := by
  obtain ⟨path, hpath, hpath'⟩ := h.exists_simulate hword hword' halike
  obtain ⟨v, v', hv, hv', hsame⟩ := h.exists_judge hword hword' halike
  refine ⟨.path path, v, v', ?_, ?_, (judge_dfa d word).trans hv, (judge_dfa e word').trans hv', hsame⟩
  · rw [simulate_dfa, hpath, ok_bind, pure_eq_ok]
  · rw [simulate_dfa, hpath', ok_bind, pure_eq_ok, Run.image]

theorem readAlike_nfa {n m : Nfa} (h : n.Renumbered p m)
    (halike : List.Forall₂ (Nfa.MovesAlike p n m) symbols symbols') :
    ReadAlike p (.nfa n) (.nfa m) word word' := by
  obtain ⟨sets, hsets, hsets'⟩ := h.exists_simulate hword hword' halike
  obtain ⟨v, v', hv, hv', hsame⟩ := h.exists_judge hword hword' halike
  refine ⟨.trail sets, v, v', ?_, ?_, (judge_nfa n word).trans hv, (judge_nfa m word').trans hv', hsame⟩
  · rw [simulate_nfa, hsets, ok_bind, pure_eq_ok]
  · rw [simulate_nfa, hsets', ok_bind, pure_eq_ok, Run.image]

end Words

/-! ### Renumbered automata -/

/-- The second automaton is the first one with new numbers for its states. -/
inductive Renumbered (p : Equiv.Perm Nat) : Automaton → Automaton → Prop
  | dfa {d e : Dfa} (hd : d.Sound) (he : e.Sound) (h : d.Renumbered p e)
    (hmoves : ∀ a, Dfa.MovesAlike p d e a a) : Renumbered p (.dfa d) (.dfa e)
  | nfa {n m : Nfa} (hn : n.Sound) (hm : m.Sound) (hsize : ∀ s, p s < m.size ↔ s < n.size)
    (h : n.Renumbered p m) (hmoves : ∀ a, Nfa.MovesAlike p n m a a) :
    Renumbered p (.nfa n) (.nfa m)

/-- The second automaton answers like the first one, up to the numbers of the states. -/
structure AlikeUpTo (p : Equiv.Perm Nat) (a b : Automaton) : Prop where
  /-- Every word of symbols is read alike. -/
  reads : ∀ (word : Value) (symbols : List Symbol),
    word.items? = some (symbols.map (·.value)) → ReadAlike p a b word word
  /-- The closure of the states with the new numbers has the new numbers. -/
  closures : a.kind = .nfa → ∀ (states states' : List Nat) (v v' : Value),
    a.space.Names v states → b.space.Names v' states' → (∀ s ∈ states, s < a.space.size) →
      (∀ s, p s ∈ states' ↔ s ∈ states) →
        ∃ set : StateSet, a.answer (.closure v) = .ok (.set set) ∧
          b.answer (.closure v') = .ok (.set (set.image p))
  /-- So has what a step leads to. -/
  steps : a.kind = .nfa → ∀ (states states' : List Nat) (v v' : Value) (c : Symbol),
    v.items? = some (states.map a.space.state) → v'.items? = some (states'.map b.space.state) →
      (∀ s ∈ states, s < a.space.size) → (∀ s, p s ∈ states' ↔ s ∈ states) →
        ∃ set : StateSet, a.answer (.step v c.value) = .ok (.set set) ∧
          b.answer (.step v' c.value) = .ok (.set (set.image p))
  transitionCount : b.transitionCount = a.transitionCount
  epsilonCount : b.answer .epsilonCount = a.answer .epsilonCount

variable {p : Equiv.Perm Nat} {a b : Automaton}

/-- Automata that are the same up to the numbers of their states answer alike up to these. -/
theorem Renumbered.alikeUpTo (h : Renumbered p a b) : AlikeUpTo p a b := by
  cases h with
  | @dfa d e hd he h hmoves =>
    refine ⟨?_, nofun, nofun, Dfa.transitionCount_image hd he hmoves, rfl⟩
    intro word symbols hword
    exact readAlike_dfa hword hword h (List.forall₂_same.2 fun c _ => hmoves c)
  | @nfa n m hn hm hsize h hmoves =>
    -- the new numbers of states of one automaton are numbers of states of the other one
    have hlt : ∀ {states states' : List Nat}, (∀ s ∈ states, s < n.size) →
        (∀ s, p s ∈ states' ↔ s ∈ states) → ∀ t ∈ states', t < m.size := by
      intro states states' hstates hmem t ht
      obtain ⟨s, rfl⟩ := p.surjective t
      exact (hsize s).2 (hstates s ((hmem s).1 ht))
    refine ⟨?_, ?_, ?_, Nfa.transitionCount_image hn hm hmoves, ?_⟩
    · intro word symbols hword
      exact readAlike_nfa hword hword h (List.forall₂_same.2 fun c _ => hmoves c)
    · intro _ states states' v v' hv hv' hstates hmem
      refine ⟨n.closureOf states, ?_, ?_⟩
      · simp only [answer_closure, Nfa.epsilonClosure_of_names hv hstates, ok_bind, pure_eq_ok]
      · simp only [answer_closure, Nfa.epsilonClosure_of_names hv' (hlt hstates hmem), ok_bind,
          pure_eq_ok, h.closureOf_eq hmem]
    · intro _ states states' v v' c hv hv' hstates hmem
      refine ⟨n.advance states c, ?_, ?_⟩
      · simp only [answer_step, Nfa.step_of_items hv hstates, ok_bind, pure_eq_ok]
      · simp only [answer_step, Nfa.step_of_items hv' (hlt hstates hmem), ok_bind, pure_eq_ok,
          h.advance_eq hmem (hmoves c)]
    · simp only [answer_epsilonCount, h.epsilonCount_eq hn hm]

end Automaton

end FiniteAutomata

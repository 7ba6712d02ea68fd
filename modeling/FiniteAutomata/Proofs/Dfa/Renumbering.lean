import FiniteAutomata.Proofs.Dfa.Run
import Mathlib.Logic.Equiv.Defs

namespace FiniteAutomata.Dfa

/-!
# Deterministic automata with their states renumbered

Two automata may be the same up to the numbers of their states. Then the path of one is that of the
other with the new numbers, on any two words on whose symbols they move alike.

* `Renumbered`: the initial state and the accepting states are the same up to the numbers.
* `MovesAlike`: so are the moves of the two automata, each on a symbol of its own.
* `Renumbered.exists_simulate`, `Renumbered.exists_judge`: runs and verdicts.
-/

variable {p : Equiv.Perm Nat} {d e : Dfa}

/-- The second automaton moves on its symbol as the first one does on its own, with the new numbers. -/
def MovesAlike (p : Equiv.Perm Nat) (d e : Dfa) (a b : Symbol) : Prop :=
  ∀ s, e.target? (p s) b = (d.target? s a).map p

/-- They move alike if the targets of the one are those of the other with the new numbers. -/
theorem movesAlike_of_iff {a b : Symbol}
    (h : ∀ s t, e.target? (p s) b = some (p t) ↔ d.target? s a = some t) : MovesAlike p d e a b := by
  intro s
  ext t
  obtain ⟨t, rfl⟩ := p.surjective t
  rw [h, Option.map_eq_some_iff]
  constructor
  · intro ht
    exact ⟨t, ht, rfl⟩
  · rintro ⟨u, hu, heq⟩
    rw [← p.injective heq]
    exact hu

/-- The second automaton is the first one with new numbers for its states, as far as moves are left
    aside. -/
structure Renumbered (p : Equiv.Perm Nat) (d e : Dfa) : Prop where
  initial : e.initial? = d.initial?.map p
  accepts : ∀ s, e.accepts (p s) = d.accepts s

/-! ### Runs -/

section Words

variable {word word' : List Symbol} (hword : List.Forall₂ (MovesAlike p d e) word word')
include hword

theorem stateAfter_image (s : Nat) : e.stateAfter (p s) word' = (d.stateAfter s word).map p := by
  induction hword generalizing s with
  | nil => rfl
  | cons hab _ ih =>
    rw [stateAfter_cons, stateAfter_cons, hab s]
    cases d.target? s _ with
    | none => rfl
    | some t => exact ih t

theorem visited_image (s : Nat) : e.visited (p s) word' = (d.visited s word).map p := by
  induction hword generalizing s with
  | nil => rfl
  | cons hab _ ih =>
    rw [visited, visited, hab s]
    cases d.target? s _ with
    | none => rfl
    | some t => exact congrArg (p s :: ·) (ih t)

end Words

namespace Renumbered

variable (h : d.Renumbered p e) {word word' : Value} {symbols symbols' : List Symbol}
  (hword : word.items? = some (symbols.map (·.value)))
  (hword' : word'.items? = some (symbols'.map (·.value)))
  (halike : List.Forall₂ (MovesAlike p d e) symbols symbols')
include h hword hword' halike

/-- The states that are visited while the words are read. -/
theorem exists_simulate :
    ∃ path, d.simulate word = .ok path ∧ e.simulate word' = .ok (path.map p) := by
  cases hstart : d.initial? with
  | none =>
    have hstart' : e.initial? = none := by rw [h.initial, hstart, Option.map_none]
    exact ⟨[], simulate_of_initial_eq_none hstart word, simulate_of_initial_eq_none hstart' word'⟩
  | some start =>
    have hstart' : e.initial? = some (p start) := by rw [h.initial, hstart, Option.map_some]
    refine ⟨_, simulate_eq hstart hword, ?_⟩
    rw [simulate_eq hstart' hword', visited_image halike]

/-- The verdicts on the words. -/
theorem exists_judge :
    ∃ v v', d.judge word = .ok v ∧ e.judge word' = .ok v' ∧ v'.accepted = v.accepted ∧
      v'.read = v.read := by
  cases hstart : d.initial? with
  | none =>
    have hstart' : e.initial? = none := by rw [h.initial, hstart, Option.map_none]
    exact ⟨_, _, judge_of_initial_eq_none hstart word, judge_of_initial_eq_none hstart' word', rfl,
      rfl⟩
  | some start =>
    have hstart' : e.initial? = some (p start) := by rw [h.initial, hstart, Option.map_some]
    refine ⟨_, _, judge_eq hstart hword, judge_eq hstart' hword', ?_, ?_⟩
    · rw [stateAfter_image halike]
      cases d.stateAfter start symbols with
      | none => rfl
      | some last => exact h.accepts last
    · rw [read_verdict, read_verdict, visited_image halike, List.length_map, halike.length_eq]

end Renumbered

end FiniteAutomata.Dfa

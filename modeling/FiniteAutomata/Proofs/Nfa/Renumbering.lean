import FiniteAutomata.Proofs.Nfa.Run
import Mathlib.Logic.Equiv.Defs

namespace FiniteAutomata

/-!
# Nondeterministic automata with their states renumbered

Two automata may be the same up to the numbers of their states. Then closures, steps and runs of one
are those of the other with the new numbers, on any two words on whose symbols they move alike.

* `StateSet.image`: a set of states with their new numbers.
* `Nfa.Renumbered`: the initial state, the accepting states and the epsilon transitions are the same
  up to the numbers.
* `Nfa.MovesAlike`: so are the moves of the two automata, each on a symbol of its own.
* `Nfa.Renumbered.closureOf_eq`, `Nfa.Renumbered.advance_eq`: closures and steps.
* `Nfa.Renumbered.exists_simulate`, `Nfa.Renumbered.exists_judge`: runs and verdicts.
-/

/-! ### Sets of states -/

namespace StateSet

variable {p : Equiv.Perm Nat} {set set' : StateSet}

/-- The set of the new numbers of some states. -/
def image (p : Equiv.Perm Nat) (set : StateSet) : StateSet := ofList (set.map p)

theorem apply_mem_image {s : Nat} : p s ∈ image p set ↔ s ∈ set := by
  unfold image
  rw [mem_ofList, List.mem_map_of_injective p.injective]

theorem ascends_image (p : Equiv.Perm Nat) (set : StateSet) : (image p set).Ascends :=
  ascends_ofList _

/-- The only set that holds the new numbers of the states of a set is its image. -/
theorem Ascends.eq_image (h : set'.Ascends) (hmem : ∀ s, p s ∈ set' ↔ s ∈ set) :
    set' = image p set := by
  apply h.eq_of_mem_iff (ascends_image p set)
  intro t
  obtain ⟨s, rfl⟩ := p.surjective t
  rw [hmem, apply_mem_image]

theorem image_eq_nil_iff : image p set = [] ↔ set = [] := by
  constructor
  · intro h
    apply List.eq_nil_iff_forall_not_mem.2
    intro s hs
    have hmem := apply_mem_image (p := p).2 hs
    rw [h] at hmem
    cases hmem
  · rintro rfl
    rfl

/-- Where every state keeps its number, so does every set. -/
theorem image_refl (h : set.Ascends) : image (Equiv.refl Nat) set = set :=
  (h.eq_image fun _ => Iff.rfl).symm

end StateSet

namespace Nfa

variable {p : Equiv.Perm Nat} {n m : Nfa}

/-- The second automaton moves on its symbol as the first one does on its own, with the new numbers. -/
def MovesAlike (p : Equiv.Perm Nat) (n m : Nfa) (a b : Symbol) : Prop :=
  ∀ s t, p t ∈ m.targets (p s) b ↔ t ∈ n.targets s a

/-- The second automaton is the first one with new numbers for its states, as far as moves on symbols
    are left aside. -/
structure Renumbered (p : Equiv.Perm Nat) (n m : Nfa) : Prop where
  initial : m.initial? = n.initial?.map p
  accepts : ∀ s, m.accepts (p s) = n.accepts s
  epsilonTargets : ∀ s t, p t ∈ m.epsilonTargets (p s) ↔ t ∈ n.epsilonTargets s

namespace Renumbered

variable (h : n.Renumbered p m)
include h

/-! ### Closures and steps -/

/-- What is reached by epsilon transitions. -/
theorem reached_iff {states states' : List Nat} (hstates : ∀ s, p s ∈ states' ↔ s ∈ states)
    {t : Nat} : Reached m.epsilonTargets states' (p t) ↔ Reached n.epsilonTargets states t := by
  constructor
  · intro hreached
    -- the induction is over all states of the second automaton, each of which is some new number
    generalize hu : p t = u at hreached
    induction hreached generalizing t with
    | seed hmem =>
      subst hu
      exact .seed ((hstates t).1 hmem)
    | @follow s u _ hmem ih =>
      subst hu
      obtain ⟨s, rfl⟩ := p.surjective s
      exact (ih rfl).follow ((h.epsilonTargets s t).1 hmem)
  · intro hreached
    induction hreached with
    | seed hmem => exact .seed ((hstates _).2 hmem)
    | follow _ hmem ih => exact ih.follow ((h.epsilonTargets _ _).2 hmem)

theorem closureOf_eq {states states' : List Nat} (hstates : ∀ s, p s ∈ states' ↔ s ∈ states) :
    m.closureOf states' = (n.closureOf states).image p := by
  apply (ascends_closureOf m states').eq_image
  intro t
  rw [mem_closureOf, mem_closureOf, h.reached_iff hstates]

theorem advance_eq {active active' : List Nat} (hactive : ∀ s, p s ∈ active' ↔ s ∈ active)
    {a b : Symbol} (hab : MovesAlike p n m a b) :
    m.advance active' b = (n.advance active a).image p := by
  unfold advance
  apply h.closureOf_eq
  intro t
  simp only [StateSet.mem_ofList, List.mem_flatMap]
  constructor
  · rintro ⟨s, hs, ht⟩
    obtain ⟨s, rfl⟩ := p.surjective s
    exact ⟨s, (hactive s).1 hs, (hab s t).1 ht⟩
  · rintro ⟨s, hs, ht⟩
    exact ⟨p s, (hactive s).2 hs, (hab s t).2 ht⟩

theorem advance_image (active : StateSet) {a b : Symbol} (hab : MovesAlike p n m a b) :
    m.advance (active.image p) b = (n.advance active a).image p :=
  h.advance_eq (fun _ => StateSet.apply_mem_image) hab

/-! ### Runs -/

section Words

variable {word word' : List Symbol} (hword : List.Forall₂ (MovesAlike p n m) word word')
include hword

theorem activeAfter_image (active : StateSet) :
    m.activeAfter (active.image p) word' = (n.activeAfter active word).image p := by
  induction hword generalizing active with
  | nil => rfl
  | cons hab _ ih => rw [activeAfter_cons, activeAfter_cons, h.advance_image active hab, ih]

theorem taken_image (active : StateSet) :
    m.taken (active.image p) word' = n.taken active word := by
  induction hword generalizing active with
  | nil => rfl
  | cons hab _ ih =>
    -- no state is active with the old numbers exactly if none is with the new ones
    simp only [taken, h.advance_image active hab, StateSet.image_eq_nil_iff, ih]

theorem seen_image (active : StateSet) :
    m.seen (active.image p) word' = (n.seen active word).map (StateSet.image p) := by
  induction hword generalizing active with
  | nil => rfl
  | cons hab _ ih =>
    simp only [seen_cons, h.advance_image active hab, StateSet.image_eq_nil_iff, ih]
    split <;> rfl

end Words

section Values

variable {word word' : Value} {symbols symbols' : List Symbol}
  (hword : word.items? = some (symbols.map (·.value)))
  (hword' : word'.items? = some (symbols'.map (·.value)))
  (halike : List.Forall₂ (MovesAlike p n m) symbols symbols')
include hword hword' halike

/-- The sets that are seen while the words are read. -/
theorem exists_simulate :
    ∃ sets, n.simulate word = .ok sets ∧
      m.simulate word' = .ok (sets.map (StateSet.image p)) := by
  cases hstart : n.initial? with
  | none =>
    have hstart' : m.initial? = none := by rw [h.initial, hstart, Option.map_none]
    exact ⟨[], simulate_of_initial_eq_none hstart word, simulate_of_initial_eq_none hstart' word'⟩
  | some start =>
    have hstart' : m.initial? = some (p start) := by rw [h.initial, hstart, Option.map_some]
    have hclosure : m.closureOf [p start] = (n.closureOf [start]).image p :=
      h.closureOf_eq fun s => by simp
    refine ⟨_, simulate_eq hstart hword, ?_⟩
    rw [simulate_eq hstart' hword', hclosure, h.seen_image halike]

/-- The verdicts on the words. -/
theorem exists_judge :
    ∃ v v', n.judge word = .ok v ∧ m.judge word' = .ok v' ∧ v'.accepted = v.accepted ∧
      v'.read = v.read := by
  cases hstart : n.initial? with
  | none =>
    have hstart' : m.initial? = none := by rw [h.initial, hstart, Option.map_none]
    exact ⟨_, _, judge_of_initial_eq_none hstart word, judge_of_initial_eq_none hstart' word', rfl,
      rfl⟩
  | some start =>
    have hstart' : m.initial? = some (p start) := by rw [h.initial, hstart, Option.map_some]
    have hclosure : m.closureOf [p start] = (n.closureOf [start]).image p :=
      h.closureOf_eq fun s => by simp
    refine ⟨_, _, judge_eq hstart hword, judge_eq hstart' hword', ?_, ?_⟩
    · rw [hclosure, h.activeAfter_image halike, Bool.eq_iff_iff, accepted_verdict_iff,
        accepted_verdict_iff]
      constructor
      · rintro ⟨t, ht, haccepts⟩
        obtain ⟨s, rfl⟩ := p.surjective t
        exact ⟨s, StateSet.apply_mem_image.1 ht, (h.accepts s).symm.trans haccepts⟩
      · rintro ⟨s, hs, haccepts⟩
        exact ⟨p s, StateSet.apply_mem_image.2 hs, (h.accepts s).trans haccepts⟩
    · show m.taken _ _ = n.taken _ _
      rw [hclosure, h.taken_image halike]

end Values

end Renumbered

end Nfa

end FiniteAutomata

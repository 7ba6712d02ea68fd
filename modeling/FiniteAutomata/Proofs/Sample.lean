import FiniteAutomata.Proofs.Dfa.Run
import FiniteAutomata.Proofs.Met
import FiniteAutomata.Proofs.Nfa.Run
import FiniteAutomata.Sample
import Mathlib.Algebra.Group.Nat.Even
import Mathlib.Data.List.Induction

namespace FiniteAutomata

/-!
# The languages of the samples

A state of an automaton stands for the words that lead to it. What the states stand for can be told
beforehand, and one more symbol has to lead from what they stand for to what they stand for then. The
first sample counts a letter modulo two, and the other two guess that a letter is the last one.

* `Automaton.StandsFor`: the words that lead to each of the states.
* `Automaton.StandsFor.stateAfter_eq_some_iff`, `Automaton.StandsFor.mem_activeAfter_iff`: where a
  word leads.
* `Automaton.StandsFor.judge_accepted_iff`: which words are accepted.
* `HasEven`, `EndsIn`: the languages.
* `Automaton.Alternates`, `Automaton.Guesses`: the automata that recognize them.
* `Automaton.Parity`, `Automaton.Guessed`: what their states stand for.
* `Sample.Language`, `Sample.grown`: what the samples are named for, and what they are built from.
* `Sample.alternates_evenZeros`, `Sample.guesses_endsWithOne`, `Sample.guesses_endsWithB`: the samples
  are such automata.
* `Sample.judge_accepted_iff_language`: each sample recognizes the language that it is named for.
-/

/-! ### Words that lead to a state -/

namespace Automaton

/-- Each state stands for the words that lead there from the initial state. Epsilon transitions have
    no part in this, because they are loops. -/
structure StandsFor (a : Automaton) (start : Nat) (stands : Nat → List Symbol → Prop) : Prop where
  initial : a.space.initial? = some start
  loops : ∀ s t, a.GoesSilently s t → t = s
  nil : ∀ s, stands s [] ↔ s = start
  concat : ∀ word c t, stands t (word ++ [c]) ↔ ∃ s, stands s word ∧ a.Goes s c t

namespace StandsFor

variable {start t : Nat} {stands : Nat → List Symbol → Prop} {word : List Symbol}

/-- The state reached by a word is the one that stands for it. -/
theorem stateAfter_eq_some_iff {d : Dfa} (h : (Automaton.dfa d).StandsFor start stands) :
    d.stateAfter start word = some t ↔ stands t word := by
  -- from the end of the word, since a state stands for the beginnings that lead there
  induction word using List.reverseRecOn generalizing t with
  | nil =>
    rw [h.nil]
    show some start = some t ↔ _
    rw [Option.some.injEq, eq_comm]
  | append_singleton word c ih =>
    rw [Dfa.stateAfter_concat, Option.bind_eq_some_iff, h.concat]
    simp only [ih, Goes]

/-- The states active after a word are those that stand for it. -/
theorem mem_activeAfter_iff {n : Nfa} (h : (Automaton.nfa n).StandsFor start stands) :
    t ∈ n.activeAfter (n.closureOf [start]) word ↔ stands t word := by
  -- loops add nothing to a closure, so an active state is a target of one that was active before
  have hclosure : ∀ states, n.closureOf states = StateSet.ofList states :=
    Nfa.closureOf_eq_ofList h.loops
  induction word using List.reverseRecOn generalizing t with
  | nil =>
    show t ∈ n.closureOf [start] ↔ _
    rw [h.nil, hclosure, StateSet.mem_ofList, List.mem_singleton]
  | append_singleton word c ih =>
    rw [Nfa.activeAfter_append, h.concat]
    show t ∈ n.closureOf _ ↔ _
    rw [hclosure, StateSet.mem_ofList, StateSet.mem_ofList, List.mem_flatMap]
    simp only [ih, Goes]

/-- A word is accepted when an accepting state stands for it. -/
theorem judge_accepted_iff {a : Automaton} (h : a.StandsFor start stands) {word : Value}
    {symbols : List Symbol} (hword : word.items? = some (symbols.map (·.value))) :
    ∃ v, a.judge word = .ok v ∧
      (v.accepted = true ↔ ∃ s, stands s symbols ∧ a.space.accepts s = true) := by
  cases a with
  | dfa d =>
    refine ⟨_, Dfa.judge_eq h.initial hword, ?_⟩
    simp only [Dfa.accepted_verdict_iff, h.stateAfter_eq_some_iff, space]
  | nfa n =>
    refine ⟨_, Nfa.judge_eq h.initial hword, ?_⟩
    simp only [Nfa.accepted_verdict_iff, h.mem_activeAfter_iff, space]

end StandsFor

end Automaton

/-! ### Words over two letters -/

/-- A text as a symbol. -/
def Symbol.ofText (s : String) : Symbol := ⟨.text s, rfl⟩

/-- All symbols of a word are one of two letters. -/
def Over (first second : Symbol) (word : List Symbol) : Prop :=
  ∀ c ∈ word, (c == first) = true ∨ (c == second) = true

/-- The word is over two letters, and the first of them occurs an even number of times. -/
def HasEven (counted other : Symbol) (word : List Symbol) : Prop :=
  Over counted other word ∧ Even (word.countP (· == counted))

/-- The word is over two letters, and it ends in the second of them. -/
def EndsIn (other last : Symbol) (word : List Symbol) : Prop :=
  Over other last word ∧ ∃ c ∈ word.getLast?, (c == last) = true

instance (first second : Symbol) : DecidablePred (Over first second) := fun word =>
  inferInstanceAs (Decidable (∀ c ∈ word, (c == first) = true ∨ (c == second) = true))

instance (counted other : Symbol) : DecidablePred (HasEven counted other) := fun word =>
  inferInstanceAs (Decidable (Over counted other word ∧ Even (word.countP (· == counted))))

instance (other last : Symbol) : DecidablePred (EndsIn other last) := fun word =>
  inferInstanceAs (Decidable (Over other last word ∧ ∃ c ∈ word.getLast?, (c == last) = true))

theorem over_nil (first second : Symbol) : Over first second [] := nofun

theorem over_concat {first second c : Symbol} {word : List Symbol} :
    Over first second (word ++ [c]) ↔
      Over first second word ∧ ((c == first) = true ∨ (c == second) = true) := by
  simp only [Over, List.forall_mem_append, List.forall_mem_singleton]

/-- One of two states accepts, and nothing else does. -/
theorem Registry.accepts_iff_of_flags {r : Registry} {flag : Bool} (h : r.flags = [flag, !flag])
    (s : Nat) : r.accepts s = true ↔ s = if flag then 0 else 1 := by
  rw [accepts, h]
  cases s with
  | zero => cases flag <;> simp
  | succ s => cases s <;> cases flag <;> simp

namespace Automaton

variable {a : Automaton} {counted other last : Symbol}

/-! ### Counting a letter modulo two -/

/-- Two states, the first of which is initial and accepts. One letter leads from each of them to the
    other one, and another letter leads back to the same. -/
structure Alternates (a : Automaton) (counted other : Symbol) : Prop where
  initial : a.space.initial? = some 0
  accepts : ∀ s, a.space.accepts s = true ↔ s = 0
  goes : ∀ s c t, a.Goes s c t ↔
    s < 2 ∧ ((c == counted) = true ∧ t = 1 - s ∨ (c == other) = true ∧ t = s)
  notSilent : ∀ s t, ¬ a.GoesSilently s t

/-- The word is over two letters, and the number of times that the first of them occurs is even or odd
    as the number of the state is. -/
def Parity (counted other : Symbol) (s : Nat) (word : List Symbol) : Prop :=
  Over counted other word ∧ s = word.countP (· == counted) % 2

theorem Alternates.standsFor (h : a.Alternates counted other) (hne : (counted == other) = false) :
    a.StandsFor 0 (Parity counted other) where
  initial := h.initial
  loops s t hst := absurd hst (h.notSilent s t)
  nil s := and_iff_right (over_nil counted other)
  concat word c t := by
    simp only [Parity, over_concat, h.goes, List.countP_append, List.countP_singleton, and_assoc,
      exists_and_left, exists_eq_left, Nat.mod_lt _ Nat.two_pos, true_and]
    refine and_congr_right fun _ => ?_
    -- no symbol is both letters, so it either changes the state or keeps it
    by_cases hc : (c == counted) = true
    · have hother : (c == other) = false := by rw [BEq.congr_left hc, hne]
      simp only [hc, hother, if_true, true_and, Bool.false_eq_true, false_and, or_false]
      omega
    · simp [hc]

theorem Alternates.judge_accepted_iff (h : a.Alternates counted other)
    (hne : (counted == other) = false) {word : Value} {symbols : List Symbol}
    (hword : word.items? = some (symbols.map (·.value))) :
    ∃ v, a.judge word = .ok v ∧ (v.accepted = true ↔ HasEven counted other symbols) := by
  obtain ⟨v, hv, haccepted⟩ := (h.standsFor hne).judge_accepted_iff hword
  refine ⟨v, hv, haccepted.trans ?_⟩
  simp only [h.accepts, exists_eq_right, Parity, HasEven, Nat.even_iff, eq_comm]

/-! ### Guessing the last letter -/

/-- Two states, the first of which is initial and the second of which accepts. The first one reads
    both letters, and one of them leads to the second one as well. Whatever the second one reads leads
    to where the first one goes too. -/
structure Guesses (a : Automaton) (other last : Symbol) : Prop where
  initial : a.space.initial? = some 0
  accepts : ∀ s, a.space.accepts s = true ↔ s = 1
  goes : ∀ c t, a.Goes 0 c t ↔
    t = 0 ∧ ((c == other) = true ∨ (c == last) = true) ∨ t = 1 ∧ (c == last) = true
  goes_of_goes : ∀ c t, a.Goes 1 c t → a.Goes 0 c t
  loops : ∀ s t, a.GoesSilently s t → t = s

/-- The word is over two letters. For the second state it ends in the second of them, which was guessed
    to be the last symbol. -/
def Guessed (other last : Symbol) (s : Nat) (word : List Symbol) : Prop :=
  Over other last word ∧ (s = 0 ∨ s = 1 ∧ ∃ c ∈ word.getLast?, (c == last) = true)

/-- The first state stands for each word that the second one stands for, and goes as far. -/
theorem Guesses.exists_goes_iff (h : a.Guesses other last) {word : List Symbol} {c : Symbol} {t : Nat} :
    (∃ s, Guessed other last s word ∧ a.Goes s c t) ↔ Over other last word ∧ a.Goes 0 c t := by
  constructor
  · rintro ⟨s, ⟨hover, rfl | ⟨rfl, -⟩⟩, hgoes⟩
    · exact ⟨hover, hgoes⟩
    · exact ⟨hover, h.goes_of_goes c t hgoes⟩
  · rintro ⟨hover, hgoes⟩
    exact ⟨0, ⟨hover, .inl rfl⟩, hgoes⟩

theorem Guesses.standsFor (h : a.Guesses other last) : a.StandsFor 0 (Guessed other last) where
  initial := h.initial
  loops := h.loops
  nil s := by simp [Guessed, over_nil]
  concat word c t := by
    rw [h.exists_goes_iff, h.goes, Guessed, over_concat, and_assoc]
    refine and_congr_right fun _ => ?_
    -- what the last symbol is decides on both sides whether the second state is reached
    simp only [List.getLast?_concat, Option.mem_some_iff, exists_eq_left']
    grind

theorem Guesses.judge_accepted_iff (h : a.Guesses other last) {word : Value} {symbols : List Symbol}
    (hword : word.items? = some (symbols.map (·.value))) :
    ∃ v, a.judge word = .ok v ∧ (v.accepted = true ↔ EndsIn other last symbols) := by
  obtain ⟨v, hv, haccepted⟩ := h.standsFor.judge_accepted_iff hword
  refine ⟨v, hv, haccepted.trans ?_⟩
  simp [h.accepts, Guessed, EndsIn]

end Automaton

/-! ### The samples -/

namespace Sample

/-- The language that a sample is named for. -/
def Language : Sample → List Symbol → Prop
  | .evenZeros => HasEven (.ofText "0") (.ofText "1")
  | .endsWithOne => EndsIn (.ofText "0") (.ofText "1")
  | .endsWithB => EndsIn (.ofText "a") (.ofText "b")

instance (sample : Sample) : DecidablePred sample.Language :=
  match sample with
  | .evenZeros => inferInstanceAs (DecidablePred (HasEven _ _))
  | .endsWithOne => inferInstanceAs (DecidablePred (EndsIn _ _))
  | .endsWithB => inferInstanceAs (DecidablePred (EndsIn _ _))

variable (owner : Nat)

/-! ### How they are built -/

/-- No call that builds a sample is refused: two states are added, and then they are connected. -/
theorem met_steps (sample : Sample) : (Automaton.new sample.kind owner).Met (sample.steps owner) := by
  have hfirst : 0 < 2 := Nat.two_pos
  have hsecond : 1 < 2 := Nat.one_lt_two
  cases sample with
  | evenZeros =>
    refine Automaton.met_cons_addState (Automaton.met_cons_addState (Automaton.met_of_connects ?_))
    simp only [List.forall_mem_cons]
    exact ⟨.transition ⟨0, .ofText "1", 0⟩ hfirst hfirst,
      .transition ⟨1, .ofText "1", 1⟩ hsecond hsecond,
      .transition ⟨0, .ofText "0", 1⟩ hfirst hsecond,
      .transition ⟨1, .ofText "0", 0⟩ hsecond hfirst, nofun⟩
  | endsWithOne =>
    refine Automaton.met_cons_addState (Automaton.met_cons_addState (Automaton.met_of_connects ?_))
    simp only [List.forall_mem_cons]
    exact ⟨.epsilon (0, 0) rfl hfirst hfirst,
      .transition ⟨0, .ofText "0", 0⟩ hfirst hfirst,
      .transition ⟨0, .ofText "1", 0⟩ hfirst hfirst,
      .transition ⟨0, .ofText "1", 1⟩ hfirst hsecond,
      .transition ⟨1, .ofText "0", 0⟩ hsecond hfirst,
      .transition ⟨1, .ofText "1", 1⟩ hsecond hsecond, nofun⟩
  | endsWithB =>
    refine Automaton.met_cons_addState (Automaton.met_cons_addState (Automaton.met_of_connects ?_))
    simp only [List.forall_mem_cons]
    exact ⟨.transition ⟨0, .ofText "a", 0⟩ hfirst hfirst,
      .transition ⟨0, .ofText "b", 0⟩ hfirst hfirst,
      .transition ⟨0, .ofText "b", 1⟩ hfirst hsecond,
      .epsilon (1, 1) rfl hsecond hsecond, nofun⟩

/-- A sample is what the calls say that build it. -/
theorem grown (sample : Sample) :
    Automaton.Grown sample.kind owner (sample.steps owner) (sample.automaton owner) :=
  (sample.met_steps owner).grown

/-- No call chooses an initial state, so it is the first one. -/
theorem initial_eq (sample : Sample) : (sample.automaton owner).space.initial? = some 0 := by
  have hgrown := sample.grown owner
  have hsize : (sample.automaton owner).space.size = 2 := by
    rw [Registry.size, hgrown.flags_eq]
    cases sample <;> rfl
  have hchosen : (sample.automaton owner).space.chosen = none := by
    have hlast := hgrown.chosen_eq
    have hnone : (sample.steps owner).filterMap Construction.choice? = [] := by
      cases sample <;> rfl
    rw [hnone, List.getLast?_nil, eq_comm, Option.map_eq_none_iff] at hlast
    exact hlast
  simp [StateSpace.initial?, hchosen, hsize]

/-! The calls are written with the transitions that they add, so that each of these is seen at once. -/

theorem sends_evenZeros {s t : Nat} {c : Symbol} :
    Sends owner (Sample.evenZeros.steps owner) s c t ↔
      s < 2 ∧ ((c == .ofText "0") = true ∧ t = 1 - s ∨ (c == .ofText "1") = true ∧ t = s) := by
  show Sends owner [.addState _, .addState _, transitionCall owner ⟨0, .ofText "1", 0⟩,
    transitionCall owner ⟨1, .ofText "1", 1⟩, transitionCall owner ⟨0, .ofText "0", 1⟩,
    transitionCall owner ⟨1, .ofText "0", 0⟩] s c t ↔ _
  simp only [sends_cons_addState, sends_cons_transitionCall, not_sends_nil, BEq.comm (b := c)]
  grind

theorem sends_endsWithOne {s t : Nat} {c : Symbol} :
    Sends owner (Sample.endsWithOne.steps owner) s c t ↔
      s = 0 ∧ (t = 0 ∧ ((c == .ofText "0") = true ∨ (c == .ofText "1") = true) ∨
        t = 1 ∧ (c == .ofText "1") = true) ∨
      s = 1 ∧ (t = 0 ∧ (c == .ofText "0") = true ∨ t = 1 ∧ (c == .ofText "1") = true) := by
  show Sends owner [.addState _, .addState _, epsilonCall owner (0, 0),
    transitionCall owner ⟨0, .ofText "0", 0⟩, transitionCall owner ⟨0, .ofText "1", 0⟩,
    transitionCall owner ⟨0, .ofText "1", 1⟩, transitionCall owner ⟨1, .ofText "0", 0⟩,
    transitionCall owner ⟨1, .ofText "1", 1⟩] s c t ↔ _
  simp only [sends_cons_addState, sends_cons_epsilonCall, sends_cons_transitionCall, not_sends_nil,
    BEq.comm (b := c)]
  grind

theorem sends_endsWithB {s t : Nat} {c : Symbol} :
    Sends owner (Sample.endsWithB.steps owner) s c t ↔
      s = 0 ∧ (t = 0 ∧ ((c == .ofText "a") = true ∨ (c == .ofText "b") = true) ∨
        t = 1 ∧ (c == .ofText "b") = true) := by
  show Sends owner [.addState _, .addState _, transitionCall owner ⟨0, .ofText "a", 0⟩,
    transitionCall owner ⟨0, .ofText "b", 0⟩, transitionCall owner ⟨0, .ofText "b", 1⟩,
    epsilonCall owner (1, 1)] s c t ↔ _
  simp only [sends_cons_addState, sends_cons_epsilonCall, sends_cons_transitionCall, not_sends_nil,
    BEq.comm (b := c)]
  grind

/-! ### What they recognize -/

theorem letters_differ : (Symbol.ofText "0" == Symbol.ofText "1") = false := by decide

theorem alternates_evenZeros :
    (Sample.evenZeros.automaton owner).Alternates (.ofText "0") (.ofText "1") where
  initial := initial_eq owner .evenZeros
  accepts := Registry.accepts_iff_of_flags ((evenZeros.grown owner).flags_eq.trans rfl)
  goes s c t := by
    rw [(evenZeros.grown owner).goes_iff, sends_evenZeros]
    -- no state is sent to two others, because no symbol is both letters
    intro _ s c t u ht hu
    rw [sends_evenZeros] at ht hu
    have hone : (c == .ofText "0") = true → (c == .ofText "1") = false := by
      intro hc
      rw [BEq.congr_left hc, letters_differ]
    grind
  notSilent s t := by
    rw [(evenZeros.grown owner).goesSilently_iff]
    simp [steps, epsilonCall]

theorem guesses_endsWithOne :
    (Sample.endsWithOne.automaton owner).Guesses (.ofText "0") (.ofText "1") where
  initial := initial_eq owner .endsWithOne
  accepts := Registry.accepts_iff_of_flags ((endsWithOne.grown owner).flags_eq.trans rfl)
  goes c t := by
    rw [(endsWithOne.grown owner).goes_iff nofun, sends_endsWithOne]
    simp
  goes_of_goes c t := by
    simp only [(endsWithOne.grown owner).goes_iff nofun, sends_endsWithOne]
    grind
  loops s t hst := by
    have hcall := (endsWithOne.grown owner).goesSilently_iff.1 hst
    have hends : s = 0 ∧ t = 0 := by simpa [steps, epsilonCall] using hcall
    rw [hends.1, hends.2]

theorem guesses_endsWithB :
    (Sample.endsWithB.automaton owner).Guesses (.ofText "a") (.ofText "b") where
  initial := initial_eq owner .endsWithB
  accepts := Registry.accepts_iff_of_flags ((endsWithB.grown owner).flags_eq.trans rfl)
  goes c t := by
    rw [(endsWithB.grown owner).goes_iff nofun, sends_endsWithB]
    simp
  goes_of_goes c t hgoes := by
    -- nothing leads out of the second state
    rw [(endsWithB.grown owner).goes_iff nofun, sends_endsWithB] at hgoes
    exact absurd hgoes.1 Nat.one_ne_zero
  loops s t hst := by
    have hcall := (endsWithB.grown owner).goesSilently_iff.1 hst
    have hends : s = 1 ∧ t = 1 := by simpa [steps, epsilonCall] using hcall
    rw [hends.1, hends.2]

/-- **The samples recognize the languages that they are named for.** Every word of symbols is judged,
    and it is accepted exactly if it is in the language of the sample. -/
theorem judge_accepted_iff_language (sample : Sample) (word : Value) (symbols : List Symbol)
    (hword : word.items? = some (symbols.map (·.value))) :
    ∃ v, (sample.automaton owner).judge word = .ok v ∧
      (v.accepted = true ↔ sample.Language symbols) := by
  cases sample with
  | evenZeros => exact (alternates_evenZeros owner).judge_accepted_iff letters_differ hword
  | endsWithOne => exact (guesses_endsWithOne owner).judge_accepted_iff hword
  | endsWithB => exact (guesses_endsWithB owner).judge_accepted_iff hword

/-- The word `0100` has three zeros, and so it is in neither language over zero and one. -/
theorem odd_zeros_rejected :
    (Value.text "0100").items? =
        some ([.ofText "0", .ofText "1", .ofText "0", .ofText "0"].map Symbol.value) ∧
      ∃ v, (Sample.evenZeros.automaton 0).judge (.text "0100") = .ok v ∧ v.accepted = false := by
  have hword : (Value.text "0100").items? =
      some ([.ofText "0", .ofText "1", .ofText "0", .ofText "0"].map Symbol.value) := by
    decide +kernel
  obtain ⟨v, hv, haccepted⟩ := judge_accepted_iff_language 0 .evenZeros _ _ hword
  refine ⟨hword, v, hv, ?_⟩
  rw [Bool.eq_false_iff, Ne, haccepted]
  decide

end Sample

end FiniteAutomata

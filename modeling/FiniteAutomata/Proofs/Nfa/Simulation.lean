import FiniteAutomata.Proofs.Nfa.Run

namespace FiniteAutomata.Nfa

/-!
# Simulation, steps, closures and verdicts agree

The sets that are seen while a word is read begin with the epsilon closure of the initial state, and
each of them is a step away from the one before. Reading goes on as long as some state is active.
The verdict is that on the last set that is seen, and also that on the set reached by all steps.

* `Enumerates`: a value lists the states of a set, in any order and with any repeats.
* `step_eq_advance`: a step from a set, however it is listed.
* `stepAll`: the steps on all symbols of a word, none left out.
* `Agreement`: how the sets that are seen, the steps and the verdict go together.
* `simulate_step_judge_agree`: they do so after any calls and on every word of symbols.
-/

variable {n : Nfa}

/-! ### Sets of states as values -/

/-- The value lists the states of the set, in any order and with any repeats. -/
def Enumerates (n : Nfa) (active : Value) (set : StateSet) : Prop :=
  ∃ states : List Nat, active.items? = some (states.map n.state) ∧ ∀ s, s ∈ states ↔ s ∈ set

/-- The states of a set in ascending order, as a value. -/
def setValue (n : Nfa) (set : StateSet) : Value := .list (set.map n.state)

theorem enumerates_setValue (n : Nfa) (set : StateSet) : n.Enumerates (n.setValue set) set :=
  ⟨set, rfl, fun _ => Iff.rfl⟩

/-- The states active after a symbol do not depend on the order in which the active states are
    listed. -/
theorem advance_congr {active active' : List Nat} (h : ∀ s, s ∈ active ↔ s ∈ active') (a : Symbol) :
    n.advance active a = n.advance active' a := by
  have htargets : StateSet.ofList (active.flatMap (n.targets · a)) =
      StateSet.ofList (active'.flatMap (n.targets · a)) := by
    refine StateSet.ofList_congr fun t => ?_
    simp only [List.mem_flatMap, h]
  rw [advance, htargets, advance]

/-- A step from a set of states of the automaton, however the set is listed. -/
theorem step_eq_advance {active : Value} {set : StateSet} (hset : Within n.size set)
    (hactive : n.Enumerates active set) (a : Symbol) :
    n.step active a.value = .ok (n.advance set a) := by
  obtain ⟨states, hitems, hmem⟩ := hactive
  have hvalid : n.validateAll (states.map n.state) = .ok states :=
    Registry.validateAll_map_state fun s hs => hset.lt s ((hmem s).1 hs)
  rw [← advance_congr hmem]
  simp only [step_def, Value.word, hitems, ok_bind, hvalid]
  -- the symbol is looked at only where some state is active, and makes no difference where none is
  cases states with
  | nil => rw [advance_nil, pure_eq_ok]
  | cons s rest => simp only [a.symbol_value, ok_bind, pure_eq_ok]

/-- The epsilon closure of a single state. -/
theorem epsilonClosure_state {s : Nat} (hs : s < n.size) :
    n.epsilonClosure (n.state s) = .ok (n.closureOf [s]) := by
  have hstates : ∀ t ∈ [s], t < n.size := by simpa using hs
  have hvalid : n.validateAll [.state (n.id s)] = .ok [s] :=
    Registry.validateAll_map_state hstates
  simp only [epsilonClosure_def, Registry.state, pure_eq_ok, ok_bind, hvalid]

/-- The steps on all symbols of a word, one after the other. -/
def stepAll (n : Nfa) (active : StateSet) (word : List Symbol) : Except Fault StateSet :=
  word.foldlM (fun active a => n.step (n.setValue active) a.value) active

theorem Sound.stepAll_eq (h : n.Sound) {active : StateSet} (hactive : Within n.size active)
    (word : List Symbol) : n.stepAll active word = .ok (n.activeAfter active word) := by
  rw [stepAll]
  induction word generalizing active with
  | nil => rfl
  | cons a rest ih =>
    rw [List.foldlM_cons, step_eq_advance hactive (n.enumerates_setValue active), ok_bind,
      activeAfter_cons]
    exact ih (h.within_advance active a)

/-! ### Agreement -/

/-- How the sets that are seen while a word is read, the steps on its symbols and the verdict on it
    go together, for an automaton with the given initial state. -/
structure Agreement (n : Nfa) (start : Nat) (word : List Symbol) (sets : List StateSet)
    (v : Verdict) : Prop where
  /-- The first set is the epsilon closure of the initial state. -/
  first : ∃ set, sets[0]? = some set ∧ n.epsilonClosure (n.state start) = .ok set
  /-- Each later set is what a step gives from the one before, however that is listed. -/
  later : ∀ i set set', sets[i]? = some set → sets[i + 1]? = some set' →
    ∃ a, word[i]? = some a ∧ ∀ active, n.Enumerates active set → n.step active a.value = .ok set'
  /-- Only the last set can be empty. -/
  inhabited : ∀ i, i + 1 < sets.length → sets[i]? ≠ some []
  length_le : sets.length ≤ word.length + 1
  /-- There are fewer sets than beginnings of the word exactly if one before its end is empty. -/
  length_lt_iff : sets.length < word.length + 1 ↔ ∃ i < word.length, sets[i]? = some []
  /-- The word is accepted exactly if the last set that is seen holds an accepting state. -/
  accepted_iff_last : ∃ last, sets.getLast? = some last ∧
    (v.accepted = true ↔ ∃ s ∈ last, n.accepts s = true)
  /-- The word is accepted exactly if all steps together lead to an accepting state. -/
  accepted_iff_stepAll : ∃ set last, sets[0]? = some set ∧ n.stepAll set word = .ok last ∧
    (v.accepted = true ↔ ∃ s ∈ last, n.accepts s = true)
  /-- One symbol is taken for each set behind the first. -/
  read : v.read = sets.length - 1

section Seen

variable {active : StateSet} {word : List Symbol}

/-- Each set that is seen is a step away from the one before. -/
theorem Sound.step_seen (h : n.Sound) (hactive : Within n.size active) {i : Nat}
    {set set' : StateSet} (hset : (n.seen active word)[i]? = some set)
    (hset' : (n.seen active word)[i + 1]? = some set') :
    ∃ a, word[i]? = some a ∧
      ∀ value, n.Enumerates value set → n.step value a.value = .ok set' := by
  obtain ⟨-, rfl⟩ := getElem?_seen_eq_some_iff.1 hset
  obtain ⟨hi, rfl⟩ := getElem?_seen_eq_some_iff.1 hset'
  have hlt : i < word.length := Nat.lt_of_lt_of_le hi (taken_le n active word)
  refine ⟨word[i], List.getElem?_eq_getElem hlt, fun value hvalue => ?_⟩
  rw [step_eq_advance (h.within_activeAfter hactive _) hvalue, ← List.take_append_getElem hlt,
    activeAfter_append]
  rfl

theorem getElem?_seen_ne_nil (hactive : active ≠ []) {i : Nat}
    (hi : i + 1 < (n.seen active word).length) : (n.seen active word)[i]? ≠ some [] := by
  intro hnil
  rw [length_seen] at hi
  exact activeAfter_take_ne_nil n hactive (Nat.lt_of_succ_lt_succ hi)
    (getElem?_seen_eq_some_iff.1 hnil).2

/-- Fewer sets are seen than the word has beginnings exactly if one before its end is empty. -/
theorem length_seen_lt_iff (hactive : active ≠ []) :
    (n.seen active word).length < word.length + 1 ↔
      ∃ i < word.length, (n.seen active word)[i]? = some [] := by
  constructor
  · intro hlt
    rw [length_seen] at hlt
    have htaken : n.taken active word < word.length := Nat.lt_of_succ_lt_succ hlt
    exact ⟨_, htaken, getElem?_seen_eq_some_iff.2
      ⟨Nat.le_refl _, activeAfter_take_taken n htaken⟩⟩
  · rintro ⟨i, hi, hnil⟩
    -- an empty set can only be the last one
    have hlast : ¬ i + 1 < (n.seen active word).length := fun h =>
      getElem?_seen_ne_nil hactive h hnil
    omega

end Seen

/-- Simulation, steps and the verdict agree on an automaton in order. -/
theorem Sound.agreement (h : n.Sound) {start : Nat} (hstart : n.initial? = some start)
    (word : List Symbol) :
    n.Agreement start word (n.seen (n.closureOf [start]) word)
      (n.verdict (n.activeAfter (n.closureOf [start]) word)
        (n.taken (n.closureOf [start]) word)) := by
  have hlt : start < n.size := h.initial.initial_lt hstart
  have hwithin : Within n.size (n.closureOf [start]) := h.within_closureOf (by simpa using hlt)
  have hmem : start ∈ n.closureOf [start] :=
    mem_closureOf.2 (.seed (List.mem_singleton_self start))
  have hne : n.closureOf [start] ≠ [] := List.ne_nil_of_mem hmem
  have hzero : (n.seen (n.closureOf [start]) word)[0]? = some (n.closureOf [start]) :=
    getElem?_seen_eq_some_iff.2 ⟨Nat.zero_le _, rfl⟩
  refine ⟨⟨_, hzero, epsilonClosure_state hlt⟩, fun i set set' => h.step_seen hwithin,
    fun i => getElem?_seen_ne_nil hne, ?_, length_seen_lt_iff hne, ⟨_, getLast?_seen n _ word, ?_⟩,
    ⟨_, _, hzero, h.stepAll_eq hwithin word, ?_⟩, ?_⟩
  · rw [length_seen]
    exact Nat.succ_le_succ (taken_le n _ word)
  · exact accepted_verdict_iff
  · exact accepted_verdict_iff
  · rw [length_seen]
    rfl

/-- **Simulation, steps, closures and verdicts agree.** After any calls, an automaton without states
    sees nothing, accepts nothing and takes nothing of any word. One with states sees sets on every
    word of symbols that agree with the closure of its initial state, with its steps and with its
    verdict, and takes as many symbols as it sees sets behind the first. -/
theorem simulate_step_judge_agree (owner : Nat) (calls : List Construction) (word : Value)
    (symbols : List Symbol) (hword : word.items? = some (symbols.map (·.value))) :
    (((new owner).buildAll calls).size = 0 →
      ((new owner).buildAll calls).simulate word = .ok [] ∧
        ((new owner).buildAll calls).judge word = .ok ⟨false, 0, []⟩) ∧
    (0 < ((new owner).buildAll calls).size →
      ∃ start sets v, ((new owner).buildAll calls).initial? = some start ∧
        ((new owner).buildAll calls).simulate word = .ok sets ∧
        ((new owner).buildAll calls).judge word = .ok v ∧
        ((new owner).buildAll calls).Agreement start symbols sets v) := by
  have h := sound_buildAll_new owner calls
  constructor
  · intro hsize
    have hnone := h.initial.initial_eq_none_iff.2 hsize
    exact ⟨simulate_of_initial_eq_none hnone word, judge_of_initial_eq_none hnone word⟩
  · intro hpos
    cases hstart : ((new owner).buildAll calls).initial? with
    | none =>
      have hsize := h.initial.initial_eq_none_iff.1 hstart
      omega
    | some start =>
      exact ⟨start, _, _, rfl, simulate_eq hstart hword, judge_eq hstart hword,
        h.agreement hstart symbols⟩

/-- The calls that build one accepting state with a transition on `a` to itself. -/
def loopCalls : List Construction :=
  [.addState (.truth true), .addTransition (.state ⟨0, 0⟩) (.text "a") (.state ⟨0, 0⟩)]

/-- The word `abc` goes on behind the symbol at which the loop has no active state any more; that
    symbol is taken and the ones behind it are not. -/
theorem loop_agrees :
    (Value.text "abc").items? =
        some ([⟨.text "a", rfl⟩, ⟨.text "b", rfl⟩, ⟨.text "c", rfl⟩].map Symbol.value) ∧
      0 < ((new 0).buildAll loopCalls).size ∧
      ∃ start v, ((new 0).buildAll loopCalls).initial? = some start ∧
        ((new 0).buildAll loopCalls).judge (.text "abc") = .ok v ∧ v.read = 2 ∧
        ((new 0).buildAll loopCalls).Agreement start
          [⟨.text "a", rfl⟩, ⟨.text "b", rfl⟩, ⟨.text "c", rfl⟩] [[0], [0], []] v := by
  have hword : (Value.text "abc").items? =
      some ([⟨.text "a", rfl⟩, ⟨.text "b", rfl⟩, ⟨.text "c", rfl⟩].map Symbol.value) := by
    decide +kernel
  have hpos : 0 < ((new 0).buildAll loopCalls).size := by decide +kernel
  obtain ⟨start, sets, v, hstart, hsets, hv, hagree⟩ :=
    (simulate_step_judge_agree 0 loopCalls _ _ hword).2 hpos
  have hseen : ((new 0).buildAll loopCalls).simulate (.text "abc") = .ok [[0], [0], []] := by
    decide +kernel
  rw [hseen] at hsets
  cases hsets
  exact ⟨hword, hpos, start, v, hstart, hv, hagree.read, hagree⟩

end FiniteAutomata.Nfa

import FiniteAutomata.Proofs.Dfa.Run

namespace FiniteAutomata.Dfa

/-!
# Simulation, successors and verdicts agree

The path that is seen while a word is read begins at the initial state, and each of its states is
the successor of the one before. It ends with the word or at the first state that has no successor
on the next symbol, and reading stops there. The verdict is that on the last state of a path that
came to the end of the word.

* `next_eq_target?`: the successor of a state, as it is asked for.
* `Agreement`: how the path, the successors and the verdict go together.
* `Sound.next_visited`, `Sound.stuck_visited`: the steps of a path and its end.
* `simulate_next_judge_agree`: they do so after any calls and on every word of symbols.
-/

variable {d : Dfa}

/-- The successor of a state of the automaton on a symbol. -/
theorem next_eq_target? {s : Nat} (hs : s < d.size) (a : Symbol) :
    d.next (d.state s) a.value = .ok (d.target? s a) := by
  rw [next_def, Registry.validate_state hs, ok_bind, a.symbol_value, ok_bind, pure_eq_ok]

/-- How the path that is seen while a word is read, the successors on its symbols and the verdict on
    it go together, for an automaton with the given initial state. -/
structure Agreement (d : Dfa) (start : Nat) (word : List Symbol) (path : List Nat) (v : Verdict) :
    Prop where
  /-- The path begins at the initial state. -/
  first : path[0]? = some start
  /-- Each later state is the successor of the one before on the next symbol. -/
  later : ∀ i s t, path[i]? = some s → path[i + 1]? = some t →
    ∃ a, word[i]? = some a ∧ d.next (d.state s) a.value = .ok (some t)
  /-- The path comes to the end of the word, or its last state has no successor on the next
      symbol. -/
  ends : path.length = word.length + 1 ∨
    ∃ last a, path.getLast? = some last ∧ word[path.length - 1]? = some a ∧
      d.next (d.state last) a.value = .ok none
  /-- The word is accepted exactly if the path comes to its end, and there to an accepting state. -/
  accepted_iff : v.accepted = true ↔
    path.length = word.length + 1 ∧ ∃ last, path.getLast? = some last ∧ d.accepts last = true
  /-- One symbol is taken for each state of the path, as long as there are any. -/
  read : v.read = min word.length path.length

section Visited

variable {start : Nat} {word : List Symbol}

/-- Each state of a path is the successor of the one before. -/
theorem Sound.next_visited (h : d.Sound) (hstart : start < d.size) {i s t : Nat}
    (hs : (d.visited start word)[i]? = some s) (ht : (d.visited start word)[i + 1]? = some t) :
    ∃ a, word[i]? = some a ∧ d.next (d.state s) a.value = .ok (some t) := by
  obtain ⟨-, hs⟩ := getElem?_visited_eq_some_iff.1 hs
  obtain ⟨hlt, ht⟩ := getElem?_visited_eq_some_iff.1 ht
  refine ⟨word[i], List.getElem?_eq_getElem hlt, ?_⟩
  -- the longer beginning of the word is the shorter one and the next symbol
  rw [← List.take_append_getElem hlt, stateAfter_concat, hs, Option.bind_some] at ht
  rw [next_eq_target? (h.stateAfter_lt hstart hs), ht]

/-- A path that does not come to the end of the word ends at a state without successor. -/
theorem Sound.stuck_visited (h : d.Sound) (hstart : start < d.size)
    (hlength : (d.visited start word).length ≠ word.length + 1) :
    ∃ last a, (d.visited start word).getLast? = some last ∧
      word[(d.visited start word).length - 1]? = some a ∧
      d.next (d.state last) a.value = .ok none := by
  obtain ⟨last, hlast, hafter⟩ := getLast?_visited d start word
  have hpos := length_visited_pos d start word
  have hle := length_visited_le d start word
  have hlt : (d.visited start word).length - 1 < word.length := by omega
  refine ⟨last, _, hlast, List.getElem?_eq_getElem hlt, ?_⟩
  rw [next_eq_target? (h.stateAfter_lt hstart hafter), Except.ok.injEq,
    Option.eq_none_iff_forall_ne_some]
  intro t ht
  -- a successor would be one more state of the path
  have hmore : (d.visited start word)[(d.visited start word).length]? = some t := by
    rw [getElem?_visited_eq_some_iff]
    refine ⟨by omega, ?_⟩
    have htake := List.take_append_getElem hlt
    rw [Nat.sub_add_cancel hpos] at htake
    rw [← htake, stateAfter_concat, hafter, Option.bind_some, ht]
  simp at hmore

theorem accepted_verdict_visited_iff {read : Nat} :
    (d.verdict read (d.stateAfter start word)).accepted = true ↔
      (d.visited start word).length = word.length + 1 ∧
        ∃ last, (d.visited start word).getLast? = some last ∧ d.accepts last = true := by
  obtain ⟨last, hlast, hafter⟩ := getLast?_visited d start word
  rw [accepted_verdict_iff]
  constructor
  · rintro ⟨t, ht, haccepts⟩
    have hlength := length_visited_eq_iff.2 ⟨t, ht⟩
    rw [hlength, Nat.add_sub_cancel, List.take_length, ht] at hafter
    exact ⟨hlength, last, hlast, by cases hafter; exact haccepts⟩
  · rintro ⟨hlength, last', hlast', haccepts⟩
    rw [hlength, Nat.add_sub_cancel, List.take_length] at hafter
    rw [hlast] at hlast'
    exact ⟨last, hafter, by cases hlast'; exact haccepts⟩

end Visited

/-- Simulation, successors and the verdict agree on an automaton in order. -/
theorem Sound.agreement (h : d.Sound) {start : Nat} (hstart : d.initial? = some start)
    (word : List Symbol) :
    d.Agreement start word (d.visited start word)
      (d.verdict (min word.length (d.visited start word).length) (d.stateAfter start word)) := by
  have hlt : start < d.size := h.initial.initial_lt hstart
  refine ⟨?_, fun i s t => h.next_visited hlt, ?_, accepted_verdict_visited_iff, ?_⟩
  · exact getElem?_visited_eq_some_iff.2 ⟨Nat.zero_le _, rfl⟩
  · by_cases hlength : (d.visited start word).length = word.length + 1
    · exact .inl hlength
    · exact .inr (h.stuck_visited hlt hlength)
  · rw [read_verdict]

/-- **Simulation, successors and verdicts agree.** After any calls, an automaton without states sees
    nothing, accepts nothing and takes nothing of any word. One with states sees a path on every
    word of symbols that agrees with its initial state, with its successors and with its verdict,
    and takes no symbol behind the one at which the path is stuck. -/
theorem simulate_next_judge_agree (owner : Nat) (calls : List Construction) (word : Value)
    (symbols : List Symbol) (hword : word.items? = some (symbols.map (·.value))) :
    (((new owner).buildAll calls).size = 0 →
      ((new owner).buildAll calls).simulate word = .ok [] ∧
        ((new owner).buildAll calls).judge word = .ok ⟨false, 0, []⟩) ∧
    (0 < ((new owner).buildAll calls).size →
      ∃ start path v, ((new owner).buildAll calls).initial? = some start ∧
        ((new owner).buildAll calls).simulate word = .ok path ∧
        ((new owner).buildAll calls).judge word = .ok v ∧
        ((new owner).buildAll calls).Agreement start symbols path v) := by
  have h := sound_buildAll_new owner calls
  constructor
  · intro hsize
    have hnone := h.initial.initial_eq_none_iff.2 hsize
    exact ⟨simulate_of_initial_eq_none hnone word, judge_of_initial_eq_none hnone word⟩
  · intro hpos
    cases hstart : ((new owner).buildAll calls).initial? with
    | none =>
      have hsize := h.initial.initial_eq_none_iff.1 hstart
      omega
    | some start =>
      exact ⟨start, _, _, rfl, simulate_eq hstart hword, judge_eq hstart hword,
        h.agreement hstart symbols⟩

/-- The calls that build two states with a transition on `a` from the second, which is initial, to
    the first. The transition is replaced once, and a call with a list as symbol is refused. -/
def turnCalls : List Construction :=
  [.addState (.truth true), .addState (.truth false), .setInitial (.state ⟨1, 0⟩),
   .addTransition (.state ⟨1, 0⟩) (.text "a") (.state ⟨1, 0⟩),
   .addTransition (.state ⟨1, 0⟩) (.list []) (.state ⟨0, 0⟩),
   .addTransition (.state ⟨1, 0⟩) (.text "a") (.state ⟨0, 0⟩)]

/-- On the word `ab` the path is stuck at the very last symbol, behind the first state: that symbol
    is taken, and the word is not accepted although the last state of the path accepts. -/
theorem turn_agrees :
    (Value.text "ab").items? = some ([⟨.text "a", rfl⟩, ⟨.text "b", rfl⟩].map Symbol.value) ∧
      0 < ((new 0).buildAll turnCalls).size ∧
      ∃ start v, ((new 0).buildAll turnCalls).initial? = some start ∧
        ((new 0).buildAll turnCalls).judge (.text "ab") = .ok v ∧ v.read = 2 ∧
        v.accepted = false ∧
        ((new 0).buildAll turnCalls).Agreement start [⟨.text "a", rfl⟩, ⟨.text "b", rfl⟩] [1, 0]
          v := by
  have hword : (Value.text "ab").items? =
      some ([⟨.text "a", rfl⟩, ⟨.text "b", rfl⟩].map Symbol.value) := by decide +kernel
  have hpos : 0 < ((new 0).buildAll turnCalls).size := by decide +kernel
  obtain ⟨start, path, v, hstart, hpath, hv, hagree⟩ :=
    (simulate_next_judge_agree 0 turnCalls _ _ hword).2 hpos
  have hseen : ((new 0).buildAll turnCalls).simulate (.text "ab") = .ok [1, 0] := by
    decide +kernel
  rw [hseen] at hpath
  cases hpath
  refine ⟨hword, hpos, start, v, hstart, hv, hagree.read, ?_, hagree⟩
  rw [Bool.eq_false_iff]
  intro haccepted
  have hlength := (hagree.accepted_iff.1 haccepted).1
  simp at hlength

end FiniteAutomata.Dfa

import FiniteAutomata.Proofs.Dfa.Asking
import FiniteAutomata.Proofs.Dfa.History

namespace FiniteAutomata.Dfa

/-!
# Runs over words of symbols

On a word of symbols a run cannot be refused. It passes through the states reached by the beginnings
of the word, as long as there are any, and takes one symbol for each of them, up to the end of the
word: the symbol at which it is stuck is taken as well.

* `stateAfter`: the state reached by a word, if there is one.
* `visited`: the states reached by the beginnings of a word, up to the first without one.
* `path_map_value`, `finish_map_value`: both kinds of runs in terms of these two.
* `getElem?_visited_eq_some_iff`, `length_visited_eq_iff`: which states are visited.
* `path_append_cons`, `finish_append_cons`: runs over words that hold something else than symbols.
* `simulate_eq`, `judge_eq`: what is visited while a word is read, and the verdict on it.
-/

variable {d : Dfa}

/-- The state reached by a word from a state, if there is one. -/
def stateAfter (d : Dfa) (s : Nat) (word : List Symbol) : Option Nat := word.foldlM d.target? s

/-- The states that are visited while a word is read. -/
def visited (d : Dfa) (s : Nat) : List Symbol → List Nat
  | [] => [s]
  | a :: rest =>
    match d.target? s a with
    | none => [s]
    | some t => s :: d.visited t rest

theorem stateAfter_cons (d : Dfa) (s : Nat) (a : Symbol) (rest : List Symbol) :
    d.stateAfter s (a :: rest) = (d.target? s a).bind fun t => d.stateAfter t rest :=
  List.foldlM_cons

/-- One more symbol leads to the successor of the state reached before. -/
theorem stateAfter_concat (d : Dfa) (s : Nat) (word : List Symbol) (a : Symbol) :
    d.stateAfter s (word ++ [a]) = (d.stateAfter s word).bind fun t => d.target? t a := by
  rw [stateAfter, List.foldlM_append]
  simp [stateAfter]

/-- A state that is reached is a state of the automaton. -/
theorem Sound.stateAfter_lt (h : d.Sound) {s t : Nat} (hs : s < d.size) {word : List Symbol}
    (ht : d.stateAfter s word = some t) : t < d.size := by
  induction word generalizing s with
  | nil => cases ht; exact hs
  | cons a rest ih =>
    rw [stateAfter_cons] at ht
    obtain ⟨u, hu, ht⟩ := Option.bind_eq_some_iff.1 ht
    exact ih (h.target?_lt hu) ht

/-! ### What is visited -/

/-- A place in the path holds the state reached by the beginning of the word up to that place. -/
theorem getElem?_visited_eq_some_iff {s t i : Nat} {word : List Symbol} :
    (d.visited s word)[i]? = some t ↔
      i ≤ word.length ∧ d.stateAfter s (word.take i) = some t := by
  induction word generalizing s i with
  | nil => cases i <;> simp [visited, stateAfter]
  | cons a rest ih =>
    rw [visited]
    cases i with
    | zero => split <;> simp [stateAfter]
    | succ i =>
      rw [List.take_succ_cons, stateAfter_cons, List.length_cons]
      split
      · rename_i hnone
        simp [hnone]
      · rename_i u hu
        rw [List.getElem?_cons_succ, ih, hu, Option.bind_some, Nat.succ_le_succ_iff]

theorem length_visited_pos (d : Dfa) (s : Nat) (word : List Symbol) :
    0 < (d.visited s word).length := by
  cases word with
  | nil => exact Nat.one_pos
  | cons a rest =>
    rw [visited]
    split <;> exact Nat.succ_pos _

theorem length_visited_le (d : Dfa) (s : Nat) (word : List Symbol) :
    (d.visited s word).length ≤ word.length + 1 := by
  induction word generalizing s with
  | nil => exact Nat.le_refl 1
  | cons a rest ih =>
    rw [visited, List.length_cons]
    split
    · simp only [List.length_singleton]
      omega
    · rename_i t _
      have := ih t
      rw [List.length_cons]
      omega

/-- The path has an entry for every beginning of the word exactly if the word reaches a state. -/
theorem length_visited_eq_iff {s : Nat} {word : List Symbol} :
    (d.visited s word).length = word.length + 1 ↔ ∃ t, d.stateAfter s word = some t := by
  have hle := length_visited_le d s word
  have hlast : ∀ t, (d.visited s word)[word.length]? = some t ↔ d.stateAfter s word = some t := by
    intro t
    rw [getElem?_visited_eq_some_iff, List.take_length, and_iff_right (Nat.le_refl _)]
  constructor
  · intro h
    have hlt : word.length < (d.visited s word).length := by omega
    exact ⟨_, (hlast _).1 (List.getElem?_eq_getElem hlt)⟩
  · rintro ⟨t, ht⟩
    obtain ⟨hlt, -⟩ := List.getElem?_eq_some_iff.1 ((hlast t).2 ht)
    omega

/-- The last state of the path. -/
theorem getLast?_visited (d : Dfa) (s : Nat) (word : List Symbol) :
    ∃ last, (d.visited s word).getLast? = some last ∧
      d.stateAfter s (word.take ((d.visited s word).length - 1)) = some last := by
  have hpos := length_visited_pos d s word
  have hlast := List.getElem?_eq_getElem (Nat.sub_lt hpos Nat.one_pos)
  refine ⟨_, by rw [List.getLast?_eq_getElem?, hlast], ?_⟩
  exact (getElem?_visited_eq_some_iff.1 hlast).2

/-! ### Both kinds of runs -/

/-- The run that keeps all states. -/
theorem path_map_value (d : Dfa) (s : Nat) (word : List Symbol) :
    d.path s (word.map (·.value)) = .ok (d.visited s word) := by
  induction word generalizing s with
  | nil => rfl
  | cons a rest ih =>
    rw [List.map_cons, path_cons, a.symbol_value, ok_bind, visited]
    cases d.target? s a with
    | none => rfl
    | some t => simp only [ih, ok_bind, pure_eq_ok]

/-- The run that only keeps the last state. -/
theorem finish_map_value (d : Dfa) (s : Nat) (word : List Symbol) :
    d.finish s (word.map (·.value)) =
      .ok (d.stateAfter s word, min word.length (d.visited s word).length) := by
  induction word generalizing s with
  | nil => rfl
  | cons a rest ih =>
    rw [List.map_cons, finish_cons, a.symbol_value, ok_bind, visited, stateAfter_cons]
    cases d.target? s a with
    | none => simp
    | some t =>
      simp only [ih, ok_bind, pure_eq_ok, Option.bind_some, List.length_cons, Nat.add_min_add_right]

/-! ### Values that are no symbols -/

section Unhashable

variable {bad : Value} (hbad : bad.isHashable = false)
include hbad

/-- A run is refused at a value that is no symbol, unless it is stuck before: then it is what it is
    on the symbols before that value. -/
theorem path_append_cons (d : Dfa) (s : Nat) (word : List Symbol) (behind : List Value) :
    d.path s (word.map (·.value) ++ bad :: behind) =
      if (d.visited s word).length = word.length + 1 then .error .unhashable
      else d.path s (word.map (·.value)) := by
  induction word generalizing s with
  | nil =>
    have hrefused : d.path s (bad :: behind) = .error .unhashable := by
      rw [path_cons, Value.symbol_of_not_isHashable hbad, error_bind]
    rw [List.map_nil, List.nil_append, hrefused]
    exact (if_pos rfl).symm
  | cons a rest ih =>
    simp only [List.map_cons, List.cons_append, path_cons, a.symbol_value, ok_bind, visited]
    cases d.target? s a with
    | none => simp
    | some t =>
      simp only [ih, List.length_cons, Nat.add_right_cancel_iff]
      split <;> rfl

theorem finish_append_cons (d : Dfa) (s : Nat) (word : List Symbol) (behind : List Value) :
    d.finish s (word.map (·.value) ++ bad :: behind) =
      if (d.visited s word).length = word.length + 1 then .error .unhashable
      else d.finish s (word.map (·.value)) := by
  induction word generalizing s with
  | nil =>
    have hrefused : d.finish s (bad :: behind) = .error .unhashable := by
      rw [finish_cons, Value.symbol_of_not_isHashable hbad, error_bind]
    rw [List.map_nil, List.nil_append, hrefused]
    exact (if_pos rfl).symm
  | cons a rest ih =>
    simp only [List.map_cons, List.cons_append, finish_cons, a.symbol_value, ok_bind, visited]
    cases d.target? s a with
    | none => simp
    | some t =>
      simp only [ih, List.length_cons, Nat.add_right_cancel_iff]
      split <;> rfl

end Unhashable

/-! ### Words -/

/-- The verdict when the word reaches a state or none and so many symbols were taken. -/
def verdict (d : Dfa) (read : Nat) : Option Nat → Verdict
  | none => ⟨false, read, [.stuck]⟩
  | some last => ⟨d.accepts last, read, [.ended (d.accepts last) last]⟩

theorem accepted_verdict_iff {last? : Option Nat} {read : Nat} :
    (d.verdict read last?).accepted = true ↔ ∃ last, last? = some last ∧ d.accepts last = true := by
  cases last? <;> simp [verdict]

theorem read_verdict (d : Dfa) (read : Nat) (last? : Option Nat) :
    (d.verdict read last?).read = read := by
  cases last? <;> rfl

/-- An automaton without states looks at no word. -/
theorem simulate_of_initial_eq_none (h : d.initial? = none) (word : Value) :
    d.simulate word = .ok [] := by
  simp only [simulate_def, h]

theorem judge_of_initial_eq_none (h : d.initial? = none) (word : Value) :
    d.judge word = .ok .unread := by
  simp only [judge_def, h]

section Words

variable {start : Nat} {word : Value} {symbols : List Symbol}

/-- The states that are visited while a word of symbols is read. -/
theorem simulate_eq (hstart : d.initial? = some start)
    (hword : word.items? = some (symbols.map (·.value))) :
    d.simulate word = .ok (d.visited start symbols) := by
  simp only [simulate_def, hstart, Value.word, hword, ok_bind, path_map_value]

/-- The verdict on a word of symbols. -/
theorem judge_eq (hstart : d.initial? = some start)
    (hword : word.items? = some (symbols.map (·.value))) :
    d.judge word =
      .ok (d.verdict (min symbols.length (d.visited start symbols).length)
        (d.stateAfter start symbols)) := by
  simp only [judge_def, hstart, Value.word, hword, ok_bind, finish_map_value]
  cases d.stateAfter start symbols <;> rfl

/-- Every word of symbols is read and judged. -/
theorem exists_read (d : Dfa) (hword : word.items? = some (symbols.map (·.value))) :
    ∃ path verdict, d.simulate word = .ok path ∧ d.judge word = .ok verdict := by
  cases hstart : d.initial? with
  | none =>
    exact ⟨_, _, simulate_of_initial_eq_none hstart word, judge_of_initial_eq_none hstart word⟩
  | some start => exact ⟨_, _, simulate_eq hstart hword, judge_eq hstart hword⟩

/-- Both kinds of runs over a word that goes on with a value that is no symbol: they are refused
    there unless the path ends before. -/
theorem read_append_cons {word' bad : Value} {behind : List Value}
    (hstart : d.initial? = some start) (hword : word.items? = some (symbols.map (·.value)))
    (hword' : word'.items? = some (symbols.map (·.value) ++ bad :: behind))
    (hbad : bad.isHashable = false) :
    (d.simulate word' = if (d.visited start symbols).length = symbols.length + 1
        then .error .unhashable else d.simulate word) ∧
      (d.judge word' = if (d.visited start symbols).length = symbols.length + 1
        then .error .unhashable else d.judge word) := by
  simp only [simulate_def, judge_def, hstart, Value.word, hword, hword', ok_bind,
    path_append_cons hbad, finish_append_cons hbad, true_and]
  split <;> rfl

end Words

end FiniteAutomata.Dfa

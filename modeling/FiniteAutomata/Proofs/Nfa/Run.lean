import FiniteAutomata.Proofs.Nfa.Asking
import FiniteAutomata.Proofs.Nfa.History

namespace FiniteAutomata.Nfa

/-!
# Runs over words of symbols

On a word of symbols a run cannot be refused. It passes through the sets that are active after the
beginnings of the word, up to the first empty one, and the set active at the end is the one that is
reached by reading the whole word: where no state is active, none is active later.

* `activeAfter`: the states active after a word.
* `taken`: how many symbols of a word are taken.
* `seen`: the sets active after the beginnings of what is taken.
* `finish_map_value`, `trail_map_value`: both kinds of runs in terms of these three.
* `activeAfter_take_ne_nil`, `activeAfter_take_taken`: which symbols are taken.
* `trail_append_cons`, `finish_append_cons`: runs over words that hold something else than symbols.
* `simulate_eq`, `judge_eq`: what is seen while a word is read, and the verdict on it.
-/

variable {n : Nfa}

/-- The states active after a word, if it is read to its end. -/
def activeAfter (n : Nfa) (active : StateSet) (word : List Symbol) : StateSet :=
  word.foldl n.advance active

/-- How many symbols are taken from a word: the last one is that behind which no state is active. -/
def taken (n : Nfa) (active : StateSet) : List Symbol → Nat
  | [] => 0
  | a :: rest => if n.advance active a = [] then 1 else n.taken (n.advance active a) rest + 1

/-- The sets that are seen while a word is read: those active after the beginnings of what is
    taken. -/
def seen (n : Nfa) (active : StateSet) (word : List Symbol) : List StateSet :=
  (List.range (n.taken active word + 1)).map fun i => n.activeAfter active (word.take i)

theorem activeAfter_cons (n : Nfa) (active : StateSet) (a : Symbol) (rest : List Symbol) :
    n.activeAfter active (a :: rest) = n.activeAfter (n.advance active a) rest := rfl

theorem activeAfter_append (n : Nfa) (active : StateSet) (word rest : List Symbol) :
    n.activeAfter active (word ++ rest) = n.activeAfter (n.activeAfter active word) rest :=
  List.foldl_append

/-- Where no state is active, none is active after any word. -/
theorem activeAfter_nil (n : Nfa) (word : List Symbol) : n.activeAfter [] word = [] := by
  induction word with
  | nil => rfl
  | cons a rest ih => rw [activeAfter_cons, advance_nil, ih]

theorem Sound.within_activeAfter (h : n.Sound) {active : StateSet} (hactive : Within n.size active)
    (word : List Symbol) : Within n.size (n.activeAfter active word) := by
  induction word generalizing active with
  | nil => exact hactive
  | cons a rest ih => exact ih (h.within_advance active a)

/-! ### Both kinds of runs -/

/-- The run that only keeps the last set. -/
theorem finish_map_value (n : Nfa) (active : StateSet) (word : List Symbol) :
    n.finish active (word.map (·.value)) =
      .ok (n.activeAfter active word, n.taken active word) := by
  induction word generalizing active with
  | nil => rfl
  | cons a rest ih =>
    rw [List.map_cons, finish_cons, a.symbol_value, ok_bind, activeAfter_cons, taken]
    split
    · rename_i hnil
      -- where no state is active any more the rest of the word would not change that
      rw [hnil, if_pos rfl, activeAfter_nil, pure_eq_ok]
    · rename_i hne
      rw [ih, ok_bind, if_neg hne]
      rfl

/-- The sets that are seen from a set on: after a symbol behind which no state is active there are
    no more. -/
theorem seen_cons (n : Nfa) (active : StateSet) (a : Symbol) (rest : List Symbol) :
    n.seen active (a :: rest) =
      if n.advance active a = [] then [active, []]
      else active :: n.seen (n.advance active a) rest := by
  rw [seen, taken]
  split
  · rename_i hnil
    simp [List.range_succ, activeAfter, hnil]
  · rw [List.range_succ_eq_map, seen]
    simp [activeAfter, Function.comp_def]

/-- The run that keeps all sets. -/
theorem trail_map_value (n : Nfa) (active : StateSet) (word : List Symbol) :
    n.trail active (word.map (·.value)) = .ok (n.seen active word) := by
  induction word generalizing active with
  | nil => rfl
  | cons a rest ih =>
    rw [List.map_cons, trail_cons, a.symbol_value, ok_bind, seen_cons]
    split
    · rename_i hnil
      rw [if_pos hnil, pure_eq_ok]
    · rename_i hne
      rw [ih, ok_bind, pure_eq_ok, if_neg hne]

/-! ### What is seen and taken -/

theorem length_seen (n : Nfa) (active : StateSet) (word : List Symbol) :
    (n.seen active word).length = n.taken active word + 1 := by
  rw [seen, List.length_map, List.length_range]

theorem getElem?_seen_eq_some_iff {active : StateSet} {word : List Symbol} {i : Nat}
    {set : StateSet} :
    (n.seen active word)[i]? = some set ↔
      i ≤ n.taken active word ∧ n.activeAfter active (word.take i) = set := by
  rw [seen, List.getElem?_map, Option.map_eq_some_iff]
  simp only [List.getElem?_eq_some_iff, List.length_range, List.getElem_range, Nat.lt_succ_iff]
  constructor
  · rintro ⟨j, ⟨hi, rfl⟩, hset⟩
    exact ⟨hi, hset⟩
  · rintro ⟨hi, hset⟩
    exact ⟨i, ⟨hi, rfl⟩, hset⟩

theorem taken_le (n : Nfa) (active : StateSet) (word : List Symbol) :
    n.taken active word ≤ word.length := by
  induction word generalizing active with
  | nil => exact Nat.le_refl 0
  | cons a rest ih =>
    rw [taken, List.length_cons]
    split
    · omega
    · have := ih (n.advance active a)
      omega

/-- Before the last symbol that is taken some state is active. -/
theorem activeAfter_take_ne_nil (n : Nfa) {active : StateSet} (hactive : active ≠ [])
    {word : List Symbol} {i : Nat} (hi : i < n.taken active word) :
    n.activeAfter active (word.take i) ≠ [] := by
  induction word generalizing active i with
  | nil => exact absurd hi (Nat.not_lt_zero i)
  | cons a rest ih =>
    rw [taken] at hi
    cases i with
    | zero => exact hactive
    | succ i =>
      rw [List.take_succ_cons, activeAfter_cons]
      split at hi
      · omega
      · rename_i hne
        exact ih hne (by omega)

/-- When not the whole word is taken, no state is active after what is taken. -/
theorem activeAfter_take_taken (n : Nfa) {active : StateSet} {word : List Symbol}
    (h : n.taken active word < word.length) :
    n.activeAfter active (word.take (n.taken active word)) = [] := by
  induction word generalizing active with
  | nil => exact absurd h (Nat.not_lt_zero _)
  | cons a rest ih =>
    rw [taken] at h ⊢
    split
    · rename_i hnil
      rw [List.take_succ_cons, List.take_zero, activeAfter_cons, hnil, activeAfter_nil]
    · rename_i hne
      rw [if_neg hne, List.length_cons] at h
      rw [List.take_succ_cons, activeAfter_cons]
      exact ih (by omega)

/-- What is not taken does not change the states active at the end. -/
theorem activeAfter_take_taken_eq (n : Nfa) (active : StateSet) (word : List Symbol) :
    n.activeAfter active (word.take (n.taken active word)) = n.activeAfter active word := by
  rcases Nat.lt_or_ge (n.taken active word) word.length with h | h
  · conv_rhs => rw [← List.take_append_drop (n.taken active word) word]
    rw [activeAfter_append, activeAfter_take_taken n h, activeAfter_nil]
  · rw [List.take_of_length_le h]

theorem getLast?_seen (n : Nfa) (active : StateSet) (word : List Symbol) :
    (n.seen active word).getLast? = some (n.activeAfter active word) := by
  rw [List.getLast?_eq_getElem?, getElem?_seen_eq_some_iff, length_seen, Nat.add_sub_cancel]
  exact ⟨Nat.le_refl _, activeAfter_take_taken_eq n active word⟩

/-- Some state is active after a word exactly if all of the word is taken and the last set that is
    seen is not empty. -/
theorem activeAfter_ne_nil_iff {active : StateSet} {word : List Symbol} :
    n.activeAfter active word ≠ [] ↔
      (n.seen active word).length = word.length + 1 ∧
        ∃ last, (n.seen active word).getLast? = some last ∧ last ≠ [] := by
  rw [getLast?_seen, length_seen]
  constructor
  · intro hne
    refine ⟨?_, _, rfl, hne⟩
    -- if some of the word were left, no state would be active after what is taken
    by_contra hlength
    have hlt : n.taken active word < word.length := by
      have := taken_le n active word
      omega
    rw [← activeAfter_take_taken_eq, activeAfter_take_taken n hlt] at hne
    exact hne rfl
  · rintro ⟨-, last, heq, hne⟩
    cases heq
    exact hne

/-! ### Values that are no symbols -/

section Unhashable

variable {bad : Value} (hbad : bad.isHashable = false)
include hbad

/-- A run is refused at a value that is no symbol, unless no state is active before: then it is what
    it is on the symbols before that value. -/
theorem trail_append_cons (n : Nfa) {active : StateSet} (hactive : active ≠ [])
    (word : List Symbol) (behind : List Value) :
    n.trail active (word.map (·.value) ++ bad :: behind) =
      if n.activeAfter active word = [] then n.trail active (word.map (·.value))
      else .error .unhashable := by
  induction word generalizing active with
  | nil =>
    have hrefused : n.trail active (bad :: behind) = .error .unhashable := by
      rw [trail_cons, Value.symbol_of_not_isHashable hbad, error_bind]
    rw [List.map_nil, List.nil_append, hrefused]
    exact (if_neg hactive).symm
  | cons a rest ih =>
    simp only [List.map_cons, List.cons_append, trail_cons, a.symbol_value, ok_bind, activeAfter_cons]
    cases hnext : n.advance active a with
    | nil => rw [activeAfter_nil, if_pos rfl]
    | cons t ts =>
      simp only [ih (List.cons_ne_nil t ts)]
      split <;> rfl

theorem finish_append_cons (n : Nfa) {active : StateSet} (hactive : active ≠ [])
    (word : List Symbol) (behind : List Value) :
    n.finish active (word.map (·.value) ++ bad :: behind) =
      if n.activeAfter active word = [] then n.finish active (word.map (·.value))
      else .error .unhashable := by
  induction word generalizing active with
  | nil =>
    have hrefused : n.finish active (bad :: behind) = .error .unhashable := by
      rw [finish_cons, Value.symbol_of_not_isHashable hbad, error_bind]
    rw [List.map_nil, List.nil_append, hrefused]
    exact (if_neg hactive).symm
  | cons a rest ih =>
    simp only [List.map_cons, List.cons_append, finish_cons, a.symbol_value, ok_bind, activeAfter_cons]
    cases hnext : n.advance active a with
    | nil => rw [activeAfter_nil, if_pos rfl]
    | cons t ts =>
      simp only [ih (List.cons_ne_nil t ts)]
      split <;> rfl

end Unhashable

/-! ### Words -/

/-- The verdict when the given states are active at the end and so many symbols were taken. -/
def verdict (n : Nfa) (last : StateSet) (read : Nat) : Verdict :=
  ⟨last.any n.accepts, read, [.active (last.any n.accepts) last.length]⟩

theorem accepted_verdict_iff {last : StateSet} {read : Nat} :
    (n.verdict last read).accepted = true ↔ ∃ s ∈ last, n.accepts s = true :=
  List.any_eq_true

/-- An automaton without states looks at no word. -/
theorem simulate_of_initial_eq_none (h : n.initial? = none) (word : Value) :
    n.simulate word = .ok [] := by
  simp only [simulate_def, h]

theorem judge_of_initial_eq_none (h : n.initial? = none) (word : Value) :
    n.judge word = .ok .unread := by
  simp only [judge_def, h]

section Words

variable {start : Nat} {word : Value} {symbols : List Symbol}

/-- The sets that are seen while a word of symbols is read. -/
theorem simulate_eq (hstart : n.initial? = some start)
    (hword : word.items? = some (symbols.map (·.value))) :
    n.simulate word = .ok (n.seen (n.closureOf [start]) symbols) := by
  simp only [simulate_def, hstart, Value.word, hword, ok_bind, trail_map_value]

/-- The verdict on a word of symbols. -/
theorem judge_eq (hstart : n.initial? = some start)
    (hword : word.items? = some (symbols.map (·.value))) :
    n.judge word =
      .ok (n.verdict (n.activeAfter (n.closureOf [start]) symbols)
        (n.taken (n.closureOf [start]) symbols)) := by
  simp only [judge_def, hstart, Value.word, hword, ok_bind, finish_map_value, pure_eq_ok,
    verdict]

/-- The initial state is active before anything is read. -/
theorem closureOf_singleton_ne_nil (n : Nfa) (start : Nat) : n.closureOf [start] ≠ [] :=
  List.ne_nil_of_mem (mem_closureOf.2 (.seed (List.mem_singleton_self start)))

/-- Every word of symbols is read and judged. -/
theorem exists_read (n : Nfa) (hword : word.items? = some (symbols.map (·.value))) :
    ∃ sets verdict, n.simulate word = .ok sets ∧ n.judge word = .ok verdict := by
  cases hstart : n.initial? with
  | none =>
    exact ⟨_, _, simulate_of_initial_eq_none hstart word, judge_of_initial_eq_none hstart word⟩
  | some start => exact ⟨_, _, simulate_eq hstart hword, judge_eq hstart hword⟩

/-- Both kinds of runs over a word that goes on with a value that is no symbol: they are refused
    there unless no state is active any more. -/
theorem read_append_cons {word' bad : Value} {behind : List Value}
    (hstart : n.initial? = some start) (hword : word.items? = some (symbols.map (·.value)))
    (hword' : word'.items? = some (symbols.map (·.value) ++ bad :: behind))
    (hbad : bad.isHashable = false) :
    (n.simulate word' = if n.activeAfter (n.closureOf [start]) symbols = []
        then n.simulate word else .error .unhashable) ∧
      (n.judge word' = if n.activeAfter (n.closureOf [start]) symbols = []
        then n.judge word else .error .unhashable) := by
  have hne := closureOf_singleton_ne_nil n start
  simp only [simulate_def, judge_def, hstart, Value.word, hword, hword', ok_bind,
    trail_append_cons hbad n hne, finish_append_cons hbad n hne, true_and]
  split <;> rfl

end Words

end FiniteAutomata.Nfa

import FiniteAutomata.Proofs.Nfa.Run
import FiniteAutomata.Proofs.Twins.Construction

namespace FiniteAutomata

/-!
# Automata of the two kinds built alike agree

On every word the nondeterministic one of two twins follows the path of the deterministic one, and
has other states active besides. If no target was ever replaced, it has that state active alone, and
none where the path is stuck.

* `Twins.mem_activeAfter`, `Twins.le_taken`: the path is followed and is never left behind.
* `ExactTwins.advance_singleton`: one step of exact twins.
* `ExactTwins.activeAfter_singleton`, `ExactTwins.seen_singleton`, `ExactTwins.taken_singleton`: any
  number of steps.
* `Covered`, `Matched`: how the two runs on a word go together.
* `built_alike_agree`: they do so after the same calls and on every word of symbols.
* `not_matched_without_states`: without states there is no empty set at the end.
-/

variable {d : Dfa} {n : Nfa}

/-! ### Twins -/

theorem Twins.initial_eq (h : Twins d n) : d.initial? = n.initial? := by
  have hsize : d.size = n.size := congrArg List.length h.flags
  rw [StateSpace.initial?, StateSpace.initial?, h.chosen, hsize]

theorem Twins.accepts_eq (h : Twins d n) (s : Nat) : d.accepts s = n.accepts s :=
  congrFun (Registry.accepts_congr h.flags) s

/-- Wherever the first automaton comes to from an active state is active in the second one. -/
theorem Twins.mem_activeAfter (h : Twins d n) {active : StateSet} {s t : Nat} {word : List Symbol}
    (hs : s ∈ active) (ht : d.stateAfter s word = some t) : t ∈ n.activeAfter active word := by
  induction word generalizing active s with
  | nil =>
    cases ht
    exact hs
  | cons a rest ih =>
    rw [Dfa.stateAfter_cons] at ht
    obtain ⟨u, hu, ht⟩ := Option.bind_eq_some_iff.1 ht
    have htarget : u ∈ StateSet.ofList (active.flatMap (n.targets · a)) :=
      StateSet.mem_ofList.2 (List.mem_flatMap.2 ⟨s, hs, h.mem_targets hu⟩)
    exact ih (Nfa.mem_advance.2 (.seed htarget)) ht

/-- The second automaton reads as far as the path of the first one. -/
theorem Twins.le_taken (h : Twins d n) {active : StateSet} {s t i : Nat} {word : List Symbol}
    (hs : s ∈ active) (ht : (d.visited s word)[i]? = some t) : i ≤ n.taken active word := by
  obtain ⟨hle, -⟩ := Dfa.getElem?_visited_eq_some_iff.1 ht
  by_contra hlt
  -- behind what is taken no state would be active, but the path has a state there
  have hnil : n.activeAfter active (word.take (n.taken active word)) = [] :=
    Nfa.activeAfter_take_taken n (by omega)
  obtain ⟨hi, -⟩ := List.getElem?_eq_some_iff.1 ht
  have htaken : n.taken active word < (d.visited s word).length := by omega
  have hafter := (Dfa.getElem?_visited_eq_some_iff.1 (List.getElem?_eq_getElem htaken)).2
  have hmem := h.mem_activeAfter hs hafter
  rw [hnil] at hmem
  cases hmem

/-! ### Exact twins -/

/-- Without epsilon transitions nothing is reached but the given states. -/
theorem Twins.closureOf_eq (h : Twins d n) (states : List Nat) :
    n.closureOf states = StateSet.ofList states := by
  refine Nfa.closureOf_eq_ofList (fun s t ht => ?_) states
  rw [h.epsilonTargets] at ht
  cases ht

/-- From one active state the second automaton goes where the first one goes, and nowhere else. -/
theorem ExactTwins.advance_singleton (h : ExactTwins d n) (s : Nat) (a : Symbol) :
    n.advance [s] a = (d.target? s a).toList := by
  rw [Nfa.advance, h.closureOf_eq, List.flatMap_singleton, h.targets]
  cases d.target? s a <;> rfl

theorem ExactTwins.activeAfter_singleton (h : ExactTwins d n) (s : Nat) (word : List Symbol) :
    n.activeAfter [s] word = (d.stateAfter s word).toList := by
  induction word generalizing s with
  | nil => rfl
  | cons a rest ih =>
    rw [Nfa.activeAfter_cons, Dfa.stateAfter_cons, h.advance_singleton]
    cases d.target? s a with
    | none => exact Nfa.activeAfter_nil n rest
    | some t => exact ih t

theorem ExactTwins.taken_singleton (h : ExactTwins d n) (s : Nat) (word : List Symbol) :
    n.taken [s] word = min word.length (d.visited s word).length := by
  induction word generalizing s with
  | nil => rfl
  | cons a rest ih =>
    rw [Nfa.taken, Dfa.visited, h.advance_singleton]
    cases d.target? s a with
    | none => simp
    | some t => simp [ih]

/-- The sets that are seen are those of the single states of the path, and the empty set where the
    path is stuck. -/
theorem ExactTwins.seen_singleton (h : ExactTwins d n) (s : Nat) (word : List Symbol) :
    n.seen [s] word = (d.visited s word).map ([·]) ++
      if (d.visited s word).length ≤ word.length then [[]] else [] := by
  induction word generalizing s with
  | nil => rfl
  | cons a rest ih =>
    rw [Nfa.seen_cons, Dfa.visited, h.advance_singleton]
    cases d.target? s a with
    | none => simp
    | some t => simp [ih]

/-- Exact twins list the same edges. -/
theorem ExactTwins.transitionCount_eq (h : ExactTwins d n) (hd : d.Sound) (hn : n.Sound) :
    d.transitionCount = n.transitionCount := by
  have hedges : SameEdges d.transitions n.transitions := by
    rw [sameEdges_iff_perm, List.perm_ext_iff_of_nodup hd.nodup_edges hn.nodup_edges]
    intro e
    simp only [hd.mem_edges_iff, hn.mem_edges_iff, h.targets, Option.mem_toList]
  rw [← Dfa.length_transitions, ← Nfa.length_transitions, hedges.length_eq]

/-! ### Runs -/

/-- The run of the second automaton follows that of the first one: each state of the path is active
    at its place, and what the first one accepts is accepted. -/
structure Covered (path : List Nat) (sets : List StateSet) (v v' : Verdict) : Prop where
  mem : ∀ (i s : Nat), path[i]? = some s → ∃ set, sets[i]? = some set ∧ s ∈ set
  accepted : v.accepted = true → v'.accepted = true

/-- The two runs on a word are the same. Where there are states, an empty set shows that the path
    ends before the word. -/
structure Matched (size : Nat) (word : List Symbol) (path : List Nat) (sets : List StateSet)
    (v v' : Verdict) : Prop where
  sets_eq : sets = path.map ([·]) ++
    if 0 < size ∧ path.length ≤ word.length then [[]] else []
  accepted : v.accepted = v'.accepted
  read : v.read = v'.read

section Words

variable {start : Nat} {word : List Symbol}

theorem Twins.covered (h : Twins d n) :
    Covered (d.visited start word) (n.seen (n.closureOf [start]) word)
      (d.verdict (min word.length (d.visited start word).length) (d.stateAfter start word))
      (n.verdict (n.activeAfter (n.closureOf [start]) word)
        (n.taken (n.closureOf [start]) word)) := by
  have hmem : start ∈ n.closureOf [start] :=
    Nfa.mem_closureOf.2 (.seed (List.mem_singleton_self start))
  constructor
  · intro i s hs
    have hafter := (Dfa.getElem?_visited_eq_some_iff.1 hs).2
    exact ⟨_, Nfa.getElem?_seen_eq_some_iff.2 ⟨h.le_taken hmem hs, rfl⟩,
      h.mem_activeAfter hmem hafter⟩
  · rw [Dfa.accepted_verdict_iff, Nfa.accepted_verdict_iff]
    rintro ⟨last, hlast, haccepts⟩
    exact ⟨last, h.mem_activeAfter hmem hlast, h.accepts_eq last ▸ haccepts⟩

theorem ExactTwins.matched (h : ExactTwins d n) {size : Nat} (hsize : 0 < size) :
    Matched size word (d.visited start word) (n.seen (n.closureOf [start]) word)
      (d.verdict (min word.length (d.visited start word).length) (d.stateAfter start word))
      (n.verdict (n.activeAfter (n.closureOf [start]) word)
        (n.taken (n.closureOf [start]) word)) := by
  have hstart : n.closureOf [start] = [start] := h.closureOf_eq [start]
  rw [hstart]
  refine ⟨?_, ?_, ?_⟩
  · simp only [h.seen_singleton, hsize, true_and]
  · rw [Bool.eq_iff_iff, Dfa.accepted_verdict_iff, Nfa.accepted_verdict_iff,
      h.activeAfter_singleton]
    simp only [Option.mem_toList, h.accepts_eq]
  · rw [Dfa.read_verdict]
    exact (h.taken_singleton start word).symm

end Words

/-! ### The same calls -/

/-- **Automata of the two kinds built alike agree.** The same calls on a new deterministic and on a
    new nondeterministic automaton, each state named by the automaton that is called, have the same
    results or are refused together. On every word of symbols the second automaton then follows the
    path of the first one and accepts whatever it accepts. If none of the calls replaced a target by
    another one, the two runs are the same, and there are as many transitions in both. -/
theorem built_alike_agree (owner owner' : Nat) (calls calls' : List Construction)
    (hcalls : List.Forall₂ (SameCall owner owner') calls calls') :
    ((Automaton.new .dfa owner).results calls).map Except.toOption =
        ((Automaton.new .nfa owner').results calls').map Except.toOption ∧
      (∀ (word : Value) (symbols : List Symbol), word.items? = some (symbols.map (·.value)) →
        ∃ path sets v v', ((Dfa.new owner).buildAll calls).simulate word = .ok path ∧
          ((Nfa.new owner').buildAll calls').simulate word = .ok sets ∧
          ((Dfa.new owner).buildAll calls).judge word = .ok v ∧
          ((Nfa.new owner').buildAll calls').judge word = .ok v' ∧
          Covered path sets v v' ∧
          ((Dfa.new owner).NeverReplaces calls →
            Matched ((Dfa.new owner).buildAll calls).size symbols path sets v v')) ∧
      ((Dfa.new owner).NeverReplaces calls →
        ((Dfa.new owner).buildAll calls).transitionCount =
          ((Nfa.new owner').buildAll calls').transitionCount) := by
  have hnew := exactTwins_new owner owner'
  obtain ⟨hresults, htwins⟩ := hnew.toTwins.buildAll hcalls
  have hd := Dfa.sound_buildAll_new owner calls
  have hn := Nfa.sound_buildAll_new owner' calls'
  refine ⟨hresults, fun word symbols hword => ?_, fun hkeeps =>
    (hnew.buildAll hcalls hkeeps).transitionCount_eq hd hn⟩
  have hinitial := htwins.initial_eq
  cases hstart : ((Dfa.new owner).buildAll calls).initial? with
  | none =>
    -- without states nothing is seen by either
    have hsize := hd.initial.initial_eq_none_iff.1 hstart
    rw [hstart] at hinitial
    refine ⟨[], [], .unread, .unread, Dfa.simulate_of_initial_eq_none hstart word,
      Nfa.simulate_of_initial_eq_none hinitial.symm word, Dfa.judge_of_initial_eq_none hstart word,
      Nfa.judge_of_initial_eq_none hinitial.symm word, ⟨by simp, id⟩, fun _ => ⟨?_, rfl, rfl⟩⟩
    simp [hsize]
  | some start =>
    have hpos : 0 < ((Dfa.new owner).buildAll calls).size :=
      Nat.zero_lt_of_lt (hd.initial.initial_lt hstart)
    rw [hstart] at hinitial
    exact ⟨_, _, _, _, Dfa.simulate_eq hstart hword, Nfa.simulate_eq hinitial.symm hword,
      Dfa.judge_eq hstart hword, Nfa.judge_eq hinitial.symm hword, htwins.covered,
      fun hkeeps => (hnew.buildAll hcalls hkeeps).matched hpos⟩

/-- The calls that build one accepting state with a transition on `a` to itself, named by the
    given owner; a call with the state of another automaton is refused. -/
def soleCalls (owner : Nat) : List Construction :=
  [.addState (.truth true), .addTransition (.state ⟨0, owner⟩) (.text "a") (.state ⟨0, owner⟩),
   .addTransition (.state ⟨0, owner⟩) (.text "b") (.state ⟨0, 7⟩)]

/-- On the word `ab`, which ends behind the path, both automata take two symbols and reject. -/
theorem sole_agree :
    List.Forall₂ (SameCall 0 1) (soleCalls 0) (soleCalls 1) ∧
      (Dfa.new 0).NeverReplaces (soleCalls 0) ∧
      (Value.text "ab").items? = some ([⟨.text "a", rfl⟩, ⟨.text "b", rfl⟩].map Symbol.value) ∧
      ∃ v v', ((Dfa.new 0).buildAll (soleCalls 0)).judge (.text "ab") = .ok v ∧
        ((Nfa.new 1).buildAll (soleCalls 1)).judge (.text "ab") = .ok v' ∧
        Matched 1 [⟨.text "a", rfl⟩, ⟨.text "b", rfl⟩] [0, 0] [[0], [0], []] v v' := by
  have hcalls : List.Forall₂ (SameCall 0 1) (soleCalls 0) (soleCalls 1) :=
    .cons (.addState _) (.cons (.addTransition (.own 0) _ (.own 0))
      (.cons (.addTransition (.own 0) _ (.other (by rintro id ⟨⟩; decide))) .nil))
  have hkeeps : (Dfa.new 0).NeverReplaces (soleCalls 0) :=
    ⟨Dfa.not_replaces_of_edges_eq_nil rfl _, Dfa.not_replaces_of_edges_eq_nil rfl _,
      Dfa.not_replaces_of_refused rfl, trivial⟩
  have hword : (Value.text "ab").items? =
      some ([⟨.text "a", rfl⟩, ⟨.text "b", rfl⟩].map Symbol.value) := by decide +kernel
  obtain ⟨-, hwords, -⟩ := built_alike_agree 0 1 _ _ hcalls
  obtain ⟨path, sets, v, v', hpath, hsets, hv, hv', -, hmatched⟩ := hwords _ _ hword
  have hpath' : ((Dfa.new 0).buildAll (soleCalls 0)).simulate (.text "ab") = .ok [0, 0] := by
    decide +kernel
  have hsets' : ((Nfa.new 1).buildAll (soleCalls 1)).simulate (.text "ab") =
      .ok [[0], [0], []] := by decide +kernel
  rw [hpath'] at hpath
  rw [hsets'] at hsets
  cases hpath
  cases hsets
  exact ⟨hcalls, hkeeps, hword, v, v', hv, hv', hmatched hkeeps⟩

/-- **Without states there is no empty set at the end.** An automaton without states sees nothing, so
    that the path of the deterministic one ends before every word although no empty set shows it. -/
theorem not_matched_without_states :
    ¬ ∀ (owner owner' : Nat) (calls calls' : List Construction),
      List.Forall₂ (SameCall owner owner') calls calls' → (Dfa.new owner).NeverReplaces calls →
      ∀ (word : Value) (symbols : List Symbol), word.items? = some (symbols.map (·.value)) →
      ∃ path sets, ((Dfa.new owner).buildAll calls).simulate word = .ok path ∧
        ((Nfa.new owner').buildAll calls').simulate word = .ok sets ∧
        sets = path.map ([·]) ++ if path.length ≤ symbols.length then [[]] else [] := by
  intro h
  obtain ⟨path, sets, hpath, hsets, heq⟩ := h 0 1 [] [] .nil trivial (.text "") [] rfl
  cases hpath
  cases hsets
  cases heq

end FiniteAutomata

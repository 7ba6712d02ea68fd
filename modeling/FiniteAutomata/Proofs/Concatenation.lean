import FiniteAutomata.Proofs.Dfa.Run
import FiniteAutomata.Proofs.Nfa.Acceptance
import FiniteAutomata.Proofs.Nfa.Simulation
import FiniteAutomata.Proofs.Rebuilding

namespace FiniteAutomata

/-!
# Words read in two parts

A run has no memory but the states that are active. So a word may be read up to some place and the
rest of it from there, each state that is active at this place chosen as the initial one in turn.

* `Dfa.startingAt`, `Nfa.startingAt`: an automaton told to begin elsewhere.
* `Dfa.visited_append_of_eq_some`, `Dfa.visited_append_of_eq_none`: the states visited.
* `Nfa.path_append_iff`, `Nfa.mem_activeAfter_append_iff`: a path along a word is one along its first
  part, followed by one along the second.
* `Dfa.Concatenation`, `Nfa.Concatenation`: how runs over a word and over its parts go together.
* `runs_concatenate`: they do so in every automaton that has a state.
-/

/-- Where there is a state there is an initial one. -/
theorem StateSpace.Sound.exists_initial {space : StateSpace} (h : space.Sound)
    (hpos : 0 < space.size) : ∃ start, space.initial? = some start := by
  rw [← Option.ne_none_iff_exists', Ne, h.initial_eq_none_iff]
  omega

/-! ### Deterministic automata -/

namespace Dfa

variable {d : Dfa} {s t : Nat} {u v : List Symbol}

/-- The automaton after a call that chooses a state as the initial one. -/
def startingAt (d : Dfa) (s : Nat) : Dfa := (d.build (.setInitial (d.state s))).automaton

/-- To choose a state as the initial one is not refused. -/
theorem build_setInitial (hs : s < d.size) :
    d.build (.setInitial (d.state s)) =
      { automaton := d.withChosen (some s), result := .ok (some s) } := by
  have h : d.setInitial (d.state s) = .ok { d.toStateSpace with chosen := some s } :=
    StateSpace.setInitial_state hs
  simp only [build, StateSpace.buildInitial, h]
  rfl

theorem stateAfter_append (d : Dfa) (s : Nat) (u v : List Symbol) :
    d.stateAfter s (u ++ v) = (d.stateAfter s u).bind fun t => d.stateAfter t v :=
  List.foldlM_append

/-- The initial state has no part in where the states go. -/
theorem visited_withChosen (d : Dfa) (start : Option Nat) (s : Nat) (u : List Symbol) :
    (d.withChosen start).visited s u = d.visited s u := by
  induction u generalizing s with
  | nil => rfl
  | cons a rest ih => simp only [visited, target?_withChosen, ih]

/-- A word that is stuck stays stuck, whatever follows. -/
theorem visited_append_of_eq_none (h : d.stateAfter s u = none) :
    d.visited s (u ++ v) = d.visited s u := by
  induction u generalizing s with
  | nil => cases h
  | cons a rest ih =>
    rw [stateAfter_cons] at h
    rw [List.cons_append, visited, visited]
    cases hnext : d.target? s a with
    | none => rfl
    | some t =>
      rw [hnext, Option.bind_some] at h
      simp only [ih h]

/-- The rest of a word is read from the state that its first part reaches. -/
theorem visited_append_of_eq_some (h : d.stateAfter s u = some t) :
    d.visited s (u ++ v) = (d.visited s u).dropLast ++ d.visited t v := by
  induction u generalizing s with
  | nil =>
    cases h
    rfl
  | cons a rest ih =>
    rw [stateAfter_cons] at h
    obtain ⟨s', hnext, h⟩ := Option.bind_eq_some_iff.1 h
    have hne : d.visited s' rest ≠ [] := List.ne_nil_of_length_pos (length_visited_pos d s' rest)
    simp only [List.cons_append, visited, hnext, ih h, List.dropLast_cons_of_ne_nil hne]

/-- The last state that is visited is the one that the word reaches. -/
theorem getLast?_visited_of_eq_some (h : d.stateAfter s u = some t) :
    (d.visited s u).getLast? = some t := by
  have hlength := length_visited_eq_iff.2 ⟨t, h⟩
  rw [List.getLast?_eq_getElem?, getElem?_visited_eq_some_iff, hlength, Nat.add_sub_cancel,
    List.take_length]
  exact ⟨Nat.le_refl _, h⟩

theorem visited_prefix_append (d : Dfa) (s : Nat) (u v : List Symbol) :
    d.visited s u <+: d.visited s (u ++ v) := by
  cases h : d.stateAfter s u with
  | none => exact ⟨[], (List.append_nil _).trans (visited_append_of_eq_none h).symm⟩
  | some t =>
    rw [visited_append_of_eq_some h]
    -- the state in the middle is the last of the first part and the first of the second one
    have hfirst : [t] <+: d.visited t v := by
      cases v with
      | nil => exact List.prefix_rfl
      | cons a rest =>
        rw [visited]
        split
        · exact List.prefix_rfl
        · exact ⟨_, rfl⟩
    have hlast := List.dropLast_append_getLast? t (getLast?_visited_of_eq_some h)
    conv_lhs => rw [← hlast]
    exact (List.prefix_append_right_inj _).2 hfirst

/-- How the path along a word whose first part has the given length and path, and the verdict on it,
    come about from the second part. -/
structure Concatenation (d : Dfa) (length : Nat) (second : Value) (path whole : List Nat)
    (verdict : Verdict) : Prop where
  /-- The path along the first part is the beginning of the path along the word. -/
  isPrefix : path <+: whole
  /-- Where the first part is stuck, the word ends there and is rejected. -/
  stuck : path.length ≠ length + 1 → whole = path ∧ verdict.accepted = false
  /-- Otherwise the second part is read from the state that the first one reaches. -/
  restarted : path.length = length + 1 → ∃ q rest v,
    path.getLast? = some q ∧ (d.build (.setInitial (d.state q))).result = .ok (some q) ∧
      (d.startingAt q).simulate second = .ok rest ∧ (d.startingAt q).judge second = .ok v ∧
        whole = path.dropLast ++ rest ∧ verdict.accepted = v.accepted

/-- Runs of an automaton in order over a word and over its parts. -/
theorem Sound.concatenation (h : d.Sound) {start : Nat} (hstart : d.initial? = some start)
    {second : Value} (hsecond : second.items? = some (v.map (·.value))) (read : Nat) :
    d.Concatenation u.length second (d.visited start u) (d.visited start (u ++ v))
      (d.verdict read (d.stateAfter start (u ++ v))) := by
  refine ⟨visited_prefix_append d start u v, ?_, ?_⟩
  · -- the run stops within the first part, and so does the run over the whole word
    intro hlength
    have hnone : d.stateAfter start u = none := by
      by_contra hsome
      exact hlength (length_visited_eq_iff.2 (Option.ne_none_iff_exists'.1 hsome))
    rw [visited_append_of_eq_none hnone, stateAfter_append, hnone]
    exact ⟨rfl, rfl⟩
  · -- the first part is read to its end, and the second one from where that was
    intro hlength
    obtain ⟨q, hq⟩ := length_visited_eq_iff.1 hlength
    have hlt : q < d.size := h.stateAfter_lt (h.initial.initial_lt hstart) hq
    have hbuild := build_setInitial hlt
    have hchosen : d.startingAt q = d.withChosen (some q) := congrArg Built.automaton hbuild
    have hinitial : (d.startingAt q).initial? = some q := by rw [hchosen]; rfl
    refine ⟨q, _, _, getLast?_visited_of_eq_some hq, congrArg Built.result hbuild,
      simulate_eq hinitial hsecond, judge_eq hinitial hsecond, ?_, ?_⟩
    · rw [visited_append_of_eq_some hq, hchosen, visited_withChosen]
    · rw [stateAfter_append, hq, Option.bind_some, hchosen]
      have hsame : (d.withChosen (some q)).stateAfter q v = d.stateAfter q v := rfl
      rw [hsame]
      cases d.stateAfter q v <;> rfl

end Dfa

/-! ### Nondeterministic automata -/

namespace Nfa

variable {n : Nfa} {s t : Nat} {active : StateSet} {u v : List Symbol}

/-- The automaton after a call that chooses a state as the initial one. -/
def startingAt (n : Nfa) (s : Nat) : Nfa := (n.build (.setInitial (n.state s))).automaton

/-- To choose a state as the initial one is not refused. -/
theorem build_setInitial (hs : s < n.size) :
    n.build (.setInitial (n.state s)) =
      { automaton := n.withChosen (some s), result := .ok (some s) } := by
  have h : n.setInitial (n.state s) = .ok { n.toStateSpace with chosen := some s } :=
    StateSpace.setInitial_state hs
  simp only [build, StateSpace.buildInitial, h]
  rfl

/-- The initial state has no part in where the states go. -/
theorem advance_withChosen (n : Nfa) (start : Option Nat) :
    (n.withChosen start).advance = n.advance := rfl

theorem taken_withChosen (n : Nfa) (start : Option Nat) (active : StateSet) (u : List Symbol) :
    (n.withChosen start).taken active u = n.taken active u := by
  induction u generalizing active with
  | nil => rfl
  | cons a rest ih => simp only [taken, advance_withChosen, ih]

theorem seen_withChosen (n : Nfa) (start : Option Nat) (active : StateSet) (u : List Symbol) :
    (n.withChosen start).seen active u = n.seen active u := by
  unfold seen activeAfter
  rw [taken_withChosen, advance_withChosen]

theorem Path.append {q : Nat} (h : n.Path s u q) (h' : n.Path q v t) : n.Path s (u ++ v) t := by
  induction h with
  | stay => exact h'
  | silent hedge _ ih => exact .silent hedge (ih h')
  | read hedge hb _ ih => exact .read hedge hb (ih h')

/-- A path along a word is a path along its first part, followed by one along the second. -/
theorem path_append_iff : n.Path s (u ++ v) t ↔ ∃ q, n.Path s u q ∧ n.Path q v t := by
  constructor
  · intro h
    -- the induction is over the path along the whole word; its steps on symbols use up the first part
    generalize hword : u ++ v = word at h
    induction h generalizing u with
    | stay s =>
      obtain ⟨rfl, rfl⟩ := List.append_eq_nil_iff.1 hword
      exact ⟨s, .stay s, .stay s⟩
    | silent hedge _ ih =>
      obtain ⟨q, hq, hq'⟩ := ih hword
      exact ⟨q, .silent hedge hq, hq'⟩
    | @read s s' t a b word hedge hb hpath ih =>
      cases u with
      | nil =>
        rw [List.nil_append] at hword
        rw [hword]
        exact ⟨s, .stay s, .read hedge hb hpath⟩
      | cons c rest =>
        cases hword
        obtain ⟨q, hq, hq'⟩ := ih rfl
        exact ⟨q, .read hedge hb hq, hq'⟩
  · rintro ⟨q, hq, hq'⟩
    exact hq.append hq'

/-- The states active after a word are those active after its second part, read from each state that
    is active after the first one. -/
theorem mem_activeAfter_append_iff (h : n.Sound) {states : List Nat} :
    t ∈ n.activeAfter (n.closureOf states) (u ++ v) ↔
      ∃ q ∈ n.activeAfter (n.closureOf states) u, t ∈ n.activeAfter (n.closureOf [q]) v := by
  simp only [mem_activeAfter_closureOf_iff h, path_append_iff, List.mem_singleton, exists_eq_left]
  constructor
  · rintro ⟨s, hs, q, hq, hq'⟩
    exact ⟨q, ⟨s, hs, hq⟩, hq'⟩
  · rintro ⟨q, ⟨s, hs, hq⟩, hq'⟩
    exact ⟨s, hs, q, hq, hq'⟩

theorem seen_prefix_append (n : Nfa) (active : StateSet) (u v : List Symbol) :
    n.seen active u <+: n.seen active (u ++ v) := by
  induction u generalizing active with
  | nil =>
    -- the first set is always seen
    show [active] <+: n.seen active v
    cases v with
    | nil => exact List.prefix_rfl
    | cons a rest =>
      rw [seen_cons]
      split
      · exact ⟨[[]], rfl⟩
      · exact ⟨_, rfl⟩
  | cons a rest ih =>
    rw [List.cons_append, seen_cons, seen_cons]
    split
    · exact List.prefix_rfl
    · exact (List.prefix_cons_inj active).2 (ih (n.advance active a))

/-- A set that is not seen any more would be empty. -/
theorem mem_getD_seen_iff {j : Nat} :
    t ∈ (n.seen active u).getD j [] ↔ j ≤ u.length ∧ t ∈ n.activeAfter active (u.take j) := by
  rw [List.getD_eq_getElem?_getD]
  by_cases hj : j ≤ n.taken active u
  · rw [getElem?_seen_eq_some_iff.2 ⟨hj, rfl⟩, Option.getD_some]
    exact (and_iff_right (hj.trans (taken_le n active u))).symm
  · have hnone : (n.seen active u)[j]? = none := by
      rw [List.getElem?_eq_none_iff, length_seen]
      omega
    rw [hnone, Option.getD_none]
    refine iff_of_false List.not_mem_nil ?_
    rintro ⟨hle, ht⟩
    -- no state is active after what is taken, nor behind it
    have hempty : n.activeAfter active (u.take (n.taken active u)) = [] :=
      activeAfter_take_taken n (by omega)
    have hsplit : u.take j = u.take (n.taken active u) ++ (u.drop (n.taken active u)).take
        (j - n.taken active u) := by
      rw [← List.take_add]
      congr 1
      omega
    rw [hsplit, activeAfter_append, hempty, activeAfter_nil] at ht
    cases ht

theorem Sound.within_getD_seen (h : n.Sound) (hactive : Within n.size active) (u : List Symbol)
    (j : Nat) : Within n.size ((n.seen active u).getD j []) := by
  rw [List.getD_eq_getElem?_getD]
  apply Within.getD
  intro set hset
  obtain ⟨-, rfl⟩ := getElem?_seen_eq_some_iff.1 hset
  exact h.within_activeAfter hactive _

/-- How the sets that are seen while a word is read whose first part has the given length and sets,
    and the verdict on it, come about from the second part. -/
structure Concatenation (n : Nfa) (length : Nat) (second : Value) (sets whole : List StateSet)
    (verdict : Verdict) : Prop where
  /-- What is seen along the first part is the beginning of what is seen along the word. -/
  isPrefix : sets <+: whole
  /-- The second part is read from each state that is active at the end of the first one. -/
  restarted : ∃ (last : StateSet) (onward : Nat → List StateSet) (verdicts : Nat → Verdict),
    sets.getLast? = some last ∧
      (∀ q ∈ last, (n.build (.setInitial (n.state q))).result = .ok (some q) ∧
        (n.startingAt q).simulate second = .ok (onward q) ∧
          (n.startingAt q).judge second = .ok (verdicts q)) ∧
      (∀ j, whole.getD (length + j) [] =
        StateSet.ofList (last.flatMap fun q => (onward q).getD j [])) ∧
      (verdict.accepted = true ↔ ∃ q ∈ last, (verdicts q).accepted = true)

/-- Runs of an automaton in order over a word and over its parts. -/
theorem Sound.concatenation (h : n.Sound) {start : Nat} (hstart : n.initial? = some start)
    {second : Value} (hsecond : second.items? = some (v.map (·.value))) (read : Nat) :
    n.Concatenation u.length second (n.seen (n.closureOf [start]) u)
      (n.seen (n.closureOf [start]) (u ++ v))
      (n.verdict (n.activeAfter (n.closureOf [start]) (u ++ v)) read) := by
  have hwithin : Within n.size (n.closureOf [start]) :=
    h.within_closureOf (by simpa using h.initial.initial_lt hstart)
  refine ⟨seen_prefix_append n _ u v, n.activeAfter (n.closureOf [start]) u,
    fun q => n.seen (n.closureOf [q]) v,
    fun q => n.verdict (n.activeAfter (n.closureOf [q]) v) (n.taken (n.closureOf [q]) v),
    getLast?_seen n _ u, ?_, ?_, ?_⟩
  · -- a state that is active behind the first part is chosen and reads the second one
    intro q hq
    have hbuild := build_setInitial ((h.within_activeAfter hwithin u).lt q hq)
    have hchosen : n.startingAt q = n.withChosen (some q) := congrArg Built.automaton hbuild
    have hinitial : (n.startingAt q).initial? = some q := by rw [hchosen]; rfl
    refine ⟨congrArg Built.result hbuild, ?_, ?_⟩
    · rw [simulate_eq hinitial hsecond, hchosen, seen_withChosen]
      rfl
    · rw [judge_eq hinitial hsecond, hchosen, taken_withChosen]
      rfl
  · -- both are ascending sets, so that their members are compared
    intro j
    apply (h.within_getD_seen hwithin (u ++ v) _).ascends.eq_of_mem_iff (StateSet.ascends_ofList _)
    intro t
    simp only [StateSet.mem_ofList, List.mem_flatMap, mem_getD_seen_iff,
      List.take_length_add_append, mem_activeAfter_append_iff h, List.length_append]
    constructor
    · rintro ⟨hj, q, hq, ht⟩
      exact ⟨q, hq, by omega, ht⟩
    · rintro ⟨q, hq, hj, ht⟩
      exact ⟨by omega, q, hq, ht⟩
  · -- what accepts at the end was reached from one of the states in between
    simp only [accepted_verdict_iff, mem_activeAfter_append_iff h]
    constructor
    · rintro ⟨t, ⟨q, hq, ht⟩, haccepts⟩
      exact ⟨q, hq, t, ht, haccepts⟩
    · rintro ⟨q, hq, t, ht, haccepts⟩
      exact ⟨t, ⟨q, hq, ht⟩, haccepts⟩

end Nfa

/-! ### Automata that were built -/

/-- **A run has no memory but the active states.** After any calls, an automaton with a state reads
    every word of symbols as it reads the two parts of the word, wherever it is divided: the second
    part from each state that is active behind the first one, chosen as the initial state. -/
theorem runs_concatenate (owner : Nat) (calls : List Construction) (first second whole : Value)
    (u v : List Symbol) (hfirst : first.items? = some (u.map (·.value)))
    (hsecond : second.items? = some (v.map (·.value)))
    (hwhole : whole.items? = some ((u ++ v).map (·.value))) :
    (0 < ((Dfa.new owner).buildAll calls).size →
      ∃ path path' verdict, ((Dfa.new owner).buildAll calls).simulate first = .ok path ∧
        ((Dfa.new owner).buildAll calls).simulate whole = .ok path' ∧
        ((Dfa.new owner).buildAll calls).judge whole = .ok verdict ∧
        ((Dfa.new owner).buildAll calls).Concatenation u.length second path path' verdict) ∧
    (0 < ((Nfa.new owner).buildAll calls).size →
      ∃ sets sets' verdict, ((Nfa.new owner).buildAll calls).simulate first = .ok sets ∧
        ((Nfa.new owner).buildAll calls).simulate whole = .ok sets' ∧
        ((Nfa.new owner).buildAll calls).judge whole = .ok verdict ∧
        ((Nfa.new owner).buildAll calls).Concatenation u.length second sets sets' verdict) := by
  constructor
  · intro hpos
    have h := Dfa.sound_buildAll_new owner calls
    obtain ⟨start, hstart⟩ := h.initial.exists_initial hpos
    exact ⟨_, _, _, Dfa.simulate_eq hstart hfirst, Dfa.simulate_eq hstart hwhole,
      Dfa.judge_eq hstart hwhole, h.concatenation hstart hsecond _⟩
  · intro hpos
    have h := Nfa.sound_buildAll_new owner calls
    obtain ⟨start, hstart⟩ := h.initial.exists_initial hpos
    exact ⟨_, _, _, Nfa.simulate_eq hstart hfirst, Nfa.simulate_eq hstart hwhole,
      Nfa.judge_eq hstart hwhole, h.concatenation hstart hsecond _⟩

/-- The letter `a` as a symbol. -/
def letterA : Symbol := ⟨.text "a", rfl⟩

/-- The letter `b` as a symbol. -/
def letterB : Symbol := ⟨.text "b", rfl⟩

/-- The calls that build two states, an accepting one behind the other, with a transition on `a` to
    it and one on `b` back, and where there are any with an epsilon transition back. -/
def returnCalls : List Construction :=
  [.addState (.truth false), .addState (.truth true), transitionCall 0 ⟨0, letterA, 1⟩,
    transitionCall 0 ⟨1, letterB, 0⟩, epsilonCall 0 (1, 0)]

/-- The word `aba` read as `a` and `ba`. -/
theorem return_concatenates :
    (Value.text "a").items? = some ([letterA].map Symbol.value) ∧
      (Value.text "ba").items? =
        some ([letterB, letterA].map Symbol.value) ∧
      (Value.text "aba").items? = some
        (([letterA] ++ [letterB, letterA]).map Symbol.value) ∧
      0 < ((Dfa.new 0).buildAll returnCalls).size ∧ 0 < ((Nfa.new 0).buildAll returnCalls).size ∧
      (∃ verdict, ((Dfa.new 0).buildAll returnCalls).Concatenation 1 (.text "ba") [0, 1]
        [0, 1, 0, 1] verdict) ∧
      ∃ verdict, ((Nfa.new 0).buildAll returnCalls).Concatenation 1 (.text "ba") [[0], [0, 1]]
        [[0], [0, 1], [0], [0, 1]] verdict := by
  have hfirst : (Value.text "a").items? = some ([letterA].map Symbol.value) := by
    decide +kernel
  have hsecond : (Value.text "ba").items? =
      some ([letterB, letterA].map Symbol.value) := by decide +kernel
  have hwhole : (Value.text "aba").items? = some
      (([letterA] ++ [letterB, letterA]).map Symbol.value) := by
    decide +kernel
  have hdfa : 0 < ((Dfa.new 0).buildAll returnCalls).size := by decide +kernel
  have hnfa : 0 < ((Nfa.new 0).buildAll returnCalls).size := by decide +kernel
  have hlaw := runs_concatenate 0 returnCalls _ _ _ _ _ hfirst hsecond hwhole
  obtain ⟨path, path', verdict, hpath, hpath', -, hrun⟩ := hlaw.1 hdfa
  obtain ⟨sets, sets', verdict', hsets, hsets', -, hrun'⟩ := hlaw.2 hnfa
  have hvisited : ((Dfa.new 0).buildAll returnCalls).simulate (.text "a") = .ok [0, 1] ∧
      ((Dfa.new 0).buildAll returnCalls).simulate (.text "aba") = .ok [0, 1, 0, 1] := by
    decide +kernel
  have hseen : ((Nfa.new 0).buildAll returnCalls).simulate (.text "a") = .ok [[0], [0, 1]] ∧
      ((Nfa.new 0).buildAll returnCalls).simulate (.text "aba") =
        .ok [[0], [0, 1], [0], [0, 1]] := by decide +kernel
  rw [hvisited.1] at hpath
  rw [hvisited.2] at hpath'
  rw [hseen.1] at hsets
  rw [hseen.2] at hsets'
  cases hpath
  cases hpath'
  cases hsets
  cases hsets'
  exact ⟨hfirst, hsecond, hwhole, hdfa, hnfa, ⟨_, hrun⟩, ⟨_, hrun'⟩⟩

end FiniteAutomata

import FiniteAutomata.Proofs.Dfa.Simulation
import FiniteAutomata.Proofs.Erasure
import FiniteAutomata.Proofs.Renumbering

namespace FiniteAutomata

/-!
# Only bad arguments are refused

The tables of an automaton hold no state that is not a state of the automaton, whatever calls were
made. So a question about states of the automaton and about symbols always has an answer, and every
state that is named in it is a state of the automaton. A word that holds something else than symbols
is refused at the first such value, if a run gets there.

* `Answer.named`: the states that are named in an answer.
* `Automaton.Proper`: questions about states of the automaton and about symbols.
* `Automaton.Run.Alive`: a run was not cut short.
* `Automaton.Sound.after`: the tables after any calls, questions among them.
* `Automaton.Answers`, `Automaton.Sound.answers_proper`: such questions are answered.
* `Automaton.read_append_cons`: words that hold something else than symbols.
* `Automaton.Decides`, `Automaton.Sound.lt_of_decides`: the states whose flags decide a verdict.
* `Automaton.Safe`, `Automaton.safe_after`: all of that is true after any calls.
-/

/-- Values that can all be symbols are the values of symbols. -/
theorem Value.exists_map_value {items : List Value} (h : ∀ v ∈ items, v.isHashable = true) :
    ∃ symbols : List Symbol, items = symbols.map (·.value) := by
  refine ⟨items.pmap Symbol.mk h, ?_⟩
  rw [List.map_pmap, List.pmap_eq_map, List.map_id']

/-! ### What answers name -/

/-- The states that a run passes. -/
def Automaton.Run.named : Run → List Nat
  | .path states => states
  | .trail sets => sets.flatten

/-- The states that are named in an answer. -/
def Answer.named : Answer → List Nat
  | .state index => index.toList
  | .set states => states
  | .record r => [r.index]
  | .records rs => rs.map (·.index)
  | .transitions ts => ts.flatMap fun t => [t.source, t.target]
  | .epsilonTransitions ts => ts.flatMap fun t => [t.1, t.2]
  | .run r => r.named
  | .flag _ | .count _ | .text _ | .verdict _ => []

namespace Automaton

/-- The run was not cut short while so many symbols were read. -/
def Run.Alive (read : Nat) : Run → Prop
  | .path states => states.length = read + 1
  | .trail sets => sets.length = read + 1 ∧ ∃ last, sets.getLast? = some last ∧ last ≠ []

/-- The question is about states of the automaton and about symbols. -/
inductive Proper (a : Automaton) : Query → Prop
  | records : Proper a (.states .records)
  | indexes : Proper a (.states .indexes)
  | initial : Proper a .initial
  | transitions : Proper a .transitions
  | epsilonTransitions (hkind : a.kind = .nfa) : Proper a .epsilonTransitions
  | simulate {word : Value} {items : List Value} (hword : word.items? = some items)
    (hitems : ∀ v ∈ items, v.isHashable = true) : Proper a (.simulate word)
  | judge {word : Value} {items : List Value} (hword : word.items? = some items)
    (hitems : ∀ v ∈ items, v.isHashable = true) : Proper a (.judge word)
  | next {state symbol : Value} (hstate : a.space.contains state = true)
    (hsymbol : symbol.isHashable = true) : Proper a (.next state symbol)
  | nextEpsilon {state : Value} (hkind : a.kind = .nfa) (hstate : a.space.contains state = true) :
    Proper a (.nextEpsilon state)
  | closureOne {state : Value} (hkind : a.kind = .nfa) (hstate : a.space.contains state = true) :
    Proper a (.closure state)
  | closureAll {states : Value} {items : List Value} (hkind : a.kind = .nfa)
    (hstates : states.items? = some items) (hitems : ∀ v ∈ items, a.space.contains v = true) :
    Proper a (.closure states)
  | step {active symbol : Value} {items : List Value} (hkind : a.kind = .nfa)
    (hactive : active.items? = some items) (hitems : ∀ v ∈ items, a.space.contains v = true)
    (hsymbol : symbol.isHashable = true) : Proper a (.step active symbol)

/-! ### Tables -/

variable {a : Automaton}

theorem Sound.perform (h : a.Sound) (call : Call) : (a.perform call).automaton.Sound := by
  cases call with
  | ask query => rwa [perform_ask]
  | build call =>
    cases a with
    | dfa d => exact Dfa.Sound.change h (Dfa.build_change d call)
    | nfa n => exact Nfa.Sound.change h (Nfa.build_change n call)

/-- Any number of calls, questions among them, keep the tables in order. -/
theorem Sound.after (h : a.Sound) (calls : List Call) : (a.after calls).Sound := by
  rw [Automaton.after]
  induction calls generalizing a with
  | nil => exact h
  | cons call rest ih => exact ih (h.perform call)

theorem sound_after_new (kind : AutomatonKind) (owner : Nat) (calls : List Call) :
    ((new kind owner).after calls).Sound :=
  (sound_buildAll_new kind owner []).after calls

/-! ### States that decide -/

/-- The flag of the state decides the verdict on the word: the state is the last one of the run, or one
    of those that are active at its end. -/
def Decides : Automaton → Value → Nat → Prop
  | .dfa d, word, s => ∃ start items read, d.initial? = some start ∧ word.word = .ok items ∧
      d.finish start items = .ok (some s, read)
  | .nfa n, word, s => ∃ start items last read, n.initial? = some start ∧ word.word = .ok items ∧
      n.finish (n.closureOf [start]) items = .ok (last, read) ∧ s ∈ last

/-- A run from a state of the automaton ends in one, whatever the word consists of. -/
theorem lt_of_finish_dfa {d : Dfa} (h : d.Sound) {items : List Value} {s last read : Nat}
    (hs : s < d.size) (hfinish : d.finish s items = .ok (some last, read)) : last < d.size := by
  induction items generalizing s read with
  | nil =>
    cases hfinish
    exact hs
  | cons a rest ih =>
    rw [Dfa.finish_cons] at hfinish
    obtain ⟨c, -, hfinish⟩ := bind_eq_ok_iff.1 hfinish
    cases htarget : d.target? s c with
    | none =>
      rw [htarget] at hfinish
      cases hfinish
    | some t =>
      rw [htarget] at hfinish
      obtain ⟨⟨last', read'⟩, hrest, heq⟩ := bind_eq_ok_iff.1 hfinish
      cases heq
      exact ih (h.target?_lt htarget) hrest

/-- So do the runs from a set of states. -/
theorem within_of_finish_nfa {n : Nfa} (h : n.Sound) {items : List Value} {active last : StateSet}
    {read : Nat} (hactive : Nfa.Within n.size active)
    (hfinish : n.finish active items = .ok (last, read)) : Nfa.Within n.size last := by
  induction items generalizing active read with
  | nil =>
    cases hfinish
    exact hactive
  | cons a rest ih =>
    rw [Nfa.finish_cons] at hfinish
    obtain ⟨c, -, hfinish⟩ := bind_eq_ok_iff.1 hfinish
    have hnext := h.within_advance active c
    cases hset : n.advance active c with
    | nil =>
      rw [hset] at hfinish hnext
      cases hfinish
      exact hnext
    | cons s set =>
      rw [hset] at hfinish hnext
      obtain ⟨⟨last', read'⟩, hrest, heq⟩ := bind_eq_ok_iff.1 hfinish
      cases heq
      exact ih hnext hrest

theorem Sound.lt_of_decides (h : a.Sound) {word : Value} {s : Nat} (hs : a.Decides word s) :
    s < a.space.size := by
  cases a with
  | dfa d =>
    obtain ⟨start, items, read, hstart, -, hfinish⟩ := hs
    exact lt_of_finish_dfa h (h.initial_lt hstart) hfinish
  | nfa n =>
    have hn : n.Sound := h
    obtain ⟨start, items, last, read, hstart, -, hfinish, hlast⟩ := hs
    have hclosure : Nfa.Within n.size (n.closureOf [start]) :=
      hn.within_closureOf (List.forall_mem_singleton.2 (hn.initial.initial_lt hstart))
    exact (within_of_finish_nfa hn hclosure hfinish).lt s hlast

/-! ### Runs -/

section Runs

variable {word : Value} {symbols : List Symbol}

theorem simulate_eq_path {d : Dfa} {path : List Nat} (h : d.simulate word = .ok path) :
    (dfa d).simulate word = .ok (.path path) := by
  rw [simulate_dfa, h, ok_bind, pure_eq_ok]

theorem simulate_eq_trail {n : Nfa} {sets : List StateSet} (h : n.simulate word = .ok sets) :
    (nfa n).simulate word = .ok (.trail sets) := by
  rw [simulate_nfa, h, ok_bind, pure_eq_ok]

/-- An automaton without states sees nothing, whatever the word is, and that counts as cut short. -/
theorem exists_run_of_initial_eq_none (h : a.space.initial? = none) :
    ∃ run : Run, run.named = [] ∧ (∀ read, ¬ run.Alive read) ∧
      ∀ word, a.simulate word = .ok run ∧ a.judge word = .ok .unread := by
  cases a with
  | dfa d =>
    refine ⟨.path [], rfl, fun read halive => Nat.succ_ne_zero read halive.symm, fun word => ?_⟩
    exact ⟨simulate_eq_path (d.simulate_of_initial_eq_none h word),
      (judge_dfa d word).trans (d.judge_of_initial_eq_none h word)⟩
  | nfa n =>
    refine ⟨.trail [], rfl, fun read halive => Nat.succ_ne_zero read halive.1.symm, fun word => ?_⟩
    exact ⟨simulate_eq_trail (n.simulate_of_initial_eq_none h word),
      (judge_nfa n word).trans (n.judge_of_initial_eq_none h word)⟩

/-- A word of symbols is read and judged, and all states that are seen are states of the
    automaton. -/
theorem Sound.exists_read (h : a.Sound) (hword : word.items? = some (symbols.map (·.value))) :
    ∃ run v, a.simulate word = .ok run ∧ a.judge word = .ok v ∧
      ∀ s ∈ run.named, s < a.space.size := by
  cases hstart : a.space.initial? with
  | none =>
    obtain ⟨run, hnamed, -, hread⟩ := exists_run_of_initial_eq_none hstart
    refine ⟨run, .unread, (hread word).1, (hread word).2, ?_⟩
    rw [hnamed]
    exact nofun
  | some start =>
    cases a with
    | dfa d =>
      have hd : d.Sound := h
      refine ⟨.path (d.visited start symbols), _, simulate_eq_path (d.simulate_eq hstart hword),
        (judge_dfa d word).trans (d.judge_eq hstart hword), ?_⟩
      -- what is seen is where the run is after some part of the word
      intro s hs
      obtain ⟨i, hi⟩ := List.getElem?_of_mem hs
      obtain ⟨-, hafter⟩ := Dfa.getElem?_visited_eq_some_iff.1 hi
      exact hd.stateAfter_lt (hd.initial.initial_lt hstart) hafter
    | nfa n =>
      have hn : n.Sound := h
      refine ⟨.trail (n.seen (n.closureOf [start]) symbols), _,
        simulate_eq_trail (n.simulate_eq hstart hword),
        (judge_nfa n word).trans (n.judge_eq hstart hword), ?_⟩
      have hclosure : Nfa.Within n.size (n.closureOf [start]) :=
        hn.within_closureOf (List.forall_mem_singleton.2 (hn.initial.initial_lt hstart))
      intro s hs
      obtain ⟨set, hset, hs⟩ := List.mem_flatten.1 hs
      obtain ⟨i, hi⟩ := List.getElem?_of_mem hset
      obtain ⟨-, rfl⟩ := Nfa.getElem?_seen_eq_some_iff.1 hi
      exact (hn.within_activeAfter hclosure _).lt s hs

/-- A word that goes on with a value that is no symbol is refused if the run on the symbols before
    that value is not cut short. Otherwise it is read and judged like these symbols. -/
theorem read_append_cons (a : Automaton) {word' bad : Value} {behind : List Value}
    (hword : word.items? = some (symbols.map (·.value)))
    (hword' : word'.items? = some (symbols.map (·.value) ++ bad :: behind))
    (hbad : bad.isHashable = false) :
    ∃ run v, a.simulate word = .ok run ∧ a.judge word = .ok v ∧
      (run.Alive symbols.length →
        a.simulate word' = .error .unhashable ∧ a.judge word' = .error .unhashable) ∧
      (¬ run.Alive symbols.length → a.simulate word' = .ok run ∧ a.judge word' = .ok v) := by
  cases hstart : a.space.initial? with
  | none =>
    -- nothing is read without states, so that the value is not met
    obtain ⟨run, -, hdead, hread⟩ := exists_run_of_initial_eq_none hstart
    exact ⟨run, .unread, (hread word).1, (hread word).2, fun halive => absurd halive (hdead _),
      fun _ => hread word'⟩
  | some start =>
    cases a with
    | dfa d =>
      have hsimulate := d.simulate_eq hstart hword
      have hjudge := (judge_dfa d word).trans (d.judge_eq hstart hword)
      obtain ⟨hsimulate', hjudge'⟩ := Dfa.read_append_cons hstart hword hword' hbad
      rw [← judge_dfa, ← judge_dfa] at hjudge'
      refine ⟨.path (d.visited start symbols), _, simulate_eq_path hsimulate, hjudge, ?_, ?_⟩
      · intro halive
        unfold Run.Alive at halive
        rw [if_pos halive] at hsimulate' hjudge'
        exact ⟨by rw [simulate_dfa, hsimulate', error_bind], hjudge'⟩
      · intro hstuck
        unfold Run.Alive at hstuck
        rw [if_neg hstuck] at hsimulate' hjudge'
        exact ⟨simulate_eq_path (hsimulate'.trans hsimulate), hjudge'.trans hjudge⟩
    | nfa n =>
      have hsimulate := n.simulate_eq hstart hword
      have hjudge := (judge_nfa n word).trans (n.judge_eq hstart hword)
      obtain ⟨hsimulate', hjudge'⟩ := Nfa.read_append_cons hstart hword hword' hbad
      rw [← judge_nfa, ← judge_nfa] at hjudge'
      refine ⟨.trail (n.seen (n.closureOf [start]) symbols), _, simulate_eq_trail hsimulate, hjudge,
        ?_, ?_⟩
      · intro halive
        rw [if_neg (Nfa.activeAfter_ne_nil_iff.2 halive)] at hsimulate' hjudge'
        exact ⟨by rw [simulate_nfa, hsimulate', error_bind], hjudge'⟩
      · intro hdead
        have hnil : n.activeAfter (n.closureOf [start]) symbols = [] := by
          by_contra hne
          exact hdead (Nfa.activeAfter_ne_nil_iff.1 hne)
        rw [if_pos hnil] at hsimulate' hjudge'
        exact ⟨simulate_eq_trail (hsimulate'.trans hsimulate), hjudge'.trans hjudge⟩

end Runs

/-! ### Answers -/

/-- The question is answered, and whatever the answer names is a state of the automaton. -/
def Answers (a : Automaton) (q : Query) : Prop :=
  ∃ answer, a.answer q = .ok answer ∧ ∀ s ∈ answer.named, s < a.space.size

/-- The successor of a state of the automaton on a symbol, as an answer. -/
theorem next_dfa {d : Dfa} {s : Nat} (hs : s < d.size) (symbol : Symbol) :
    (dfa d).next (d.state s) symbol.value = .ok (.state (d.target? s symbol)) := by
  rw [next_of_dfa, Dfa.next_eq_target? hs, ok_bind, pure_eq_ok]

/-- The successors of a state of the automaton on a symbol, as an answer. -/
theorem next_nfa {n : Nfa} {s : Nat} (hs : s < n.size) (symbol : Symbol) :
    (nfa n).next (n.state s) symbol.value = .ok (.set (n.targets s symbol)) := by
  rw [next_of_nfa, Nfa.next_def, Registry.validate_state hs, ok_bind, symbol.symbol_value, ok_bind,
    pure_eq_ok, ok_bind, pure_eq_ok]

/-- The epsilon successors of a state of the automaton, as an answer. -/
theorem nextEpsilon_nfa {n : Nfa} {s : Nat} (hs : s < n.size) :
    (nfa n).answer (.nextEpsilon (n.state s)) = .ok (.set (n.epsilonTargets s)) := by
  rw [answer_nextEpsilon, Nfa.nextEpsilon_def, Registry.validate_state hs, ok_bind, pure_eq_ok,
    ok_bind, pure_eq_ok]

theorem Sound.answers_next (h : a.Sound) {s : Nat} (hs : s < a.space.size) (symbol : Symbol) :
    a.Answers (.next (a.space.state s) symbol.value) := by
  cases a with
  | dfa d =>
    exact ⟨.state (d.target? s symbol), next_dfa hs symbol,
      fun t ht => Dfa.Sound.target?_lt h (Option.mem_toList.1 ht)⟩
  | nfa n =>
    exact ⟨.set (n.targets s symbol), next_nfa hs symbol,
      fun t ht => (Nfa.within_targets h s symbol).lt t ht⟩

section Nondeterministic

variable {n : Nfa} (h : n.Sound)
include h

theorem answers_nextEpsilon {s : Nat} (hs : s < n.size) :
    (nfa n).Answers (.nextEpsilon (n.state s)) := by
  exact ⟨.set (n.epsilonTargets s), nextEpsilon_nfa hs,
    fun t ht => (Nfa.within_epsilonTargets h s).lt t ht⟩

theorem answers_closure {v : Value} {states : List Nat} (hv : n.Names v states)
    (hstates : ∀ s ∈ states, s < n.size) : (nfa n).Answers (.closure v) := by
  refine ⟨.set (n.closureOf states), ?_, fun t ht => (h.within_closureOf hstates).lt t ht⟩
  rw [answer_closure, Nfa.epsilonClosure_of_names hv hstates, ok_bind, pure_eq_ok]

theorem answers_step {v : Value} {states : List Nat} (hv : v.items? = some (states.map n.state))
    (hstates : ∀ s ∈ states, s < n.size) (symbol : Symbol) :
    (nfa n).Answers (.step v symbol.value) := by
  refine ⟨.set (n.advance states symbol), ?_, fun t ht => (h.within_advance states symbol).lt t ht⟩
  rw [answer_step, Nfa.step_of_items hv hstates, ok_bind, pure_eq_ok]

end Nondeterministic

/-- Questions about states of the automaton and about symbols are answered, and the answers name
    states of the automaton. -/
theorem Sound.answers_proper (h : a.Sound) {q : Query} (hq : a.Proper q) : a.Answers q := by
  cases hq with
  | records =>
    refine ⟨_, rfl, fun s hs => ?_⟩
    obtain ⟨r, hr, rfl⟩ := List.mem_map.1 hs
    obtain ⟨i, hi, rfl⟩ := List.mem_map.1 hr
    exact Registry.mem_indexes.1 hi
  | indexes => exact ⟨_, rfl, fun s hs => Registry.mem_indexes.1 hs⟩
  | initial => exact ⟨_, rfl, fun s hs => h.initial_lt (Option.mem_toList.1 hs)⟩
  | transitions =>
    refine ⟨_, a.answer_transitions, fun s hs => ?_⟩
    obtain ⟨t, ht, hs⟩ := List.mem_flatMap.1 hs
    obtain ⟨hsource, htarget⟩ := h.within_transitions t ht
    rcases List.mem_pair.1 hs with rfl | rfl
    · exact hsource
    · exact htarget
  | epsilonTransitions hkind =>
    cases a with
    | dfa d => cases hkind
    | nfa n =>
      refine ⟨_, answer_epsilonTransitions n, fun s hs => ?_⟩
      obtain ⟨e, he, hs⟩ := List.mem_flatMap.1 hs
      obtain ⟨-, hsource, htarget⟩ := h.within_epsilonTransitions e he
      rcases List.mem_pair.1 hs with rfl | rfl
      · exact hsource
      · exact htarget
  | simulate hword hitems =>
    obtain ⟨symbols, rfl⟩ := Value.exists_map_value hitems
    obtain ⟨run, -, hrun, -, hnamed⟩ := h.exists_read hword
    exact ⟨.run run, by rw [answer_simulate, hrun, ok_bind, pure_eq_ok], hnamed⟩
  | judge hword hitems =>
    obtain ⟨symbols, rfl⟩ := Value.exists_map_value hitems
    obtain ⟨-, v, -, hv, -⟩ := h.exists_read hword
    refine ⟨.verdict v, by rw [answer_judge, hv, ok_bind, pure_eq_ok], fun s hs => ?_⟩
    exact absurd hs List.not_mem_nil
  | next hstate hsymbol =>
    obtain ⟨s, hs, rfl⟩ := Registry.contains_iff_exists_state.1 hstate
    exact h.answers_next hs ⟨_, hsymbol⟩
  | nextEpsilon hkind hstate =>
    cases a with
    | dfa d => cases hkind
    | nfa n =>
      obtain ⟨s, hs, rfl⟩ := Registry.contains_iff_exists_state.1 hstate
      exact answers_nextEpsilon h hs
  | closureOne hkind hstate =>
    cases a with
    | dfa d => cases hkind
    | nfa n =>
      obtain ⟨s, hs, rfl⟩ := Registry.contains_iff_exists_state.1 hstate
      exact answers_closure h (.one s) (List.forall_mem_singleton.2 hs)
  | closureAll hkind hstates hitems =>
    cases a with
    | dfa d => cases hkind
    | nfa n =>
      obtain ⟨states, rfl, hlt⟩ := Registry.exists_map_state hitems
      exact answers_closure h (.several hstates) hlt
  | step hkind hactive hitems hsymbol =>
    cases a with
    | dfa d => cases hkind
    | nfa n =>
      obtain ⟨states, rfl, hlt⟩ := Registry.exists_map_state hitems
      exact answers_step h hactive hlt ⟨_, hsymbol⟩

/-! ### Safety -/

/-- Questions to the automaton are refused for bad arguments only. -/
structure Safe (a : Automaton) : Prop where
  /-- A question about states of the automaton and about symbols is answered, and all states that
      are named in the answer are contained in the automaton. -/
  answered : ∀ q, a.Proper q → ∃ answer, a.answer q = .ok answer ∧
    ∀ s ∈ answer.named, a.space.contains (a.space.state s) = true
  /-- A word with a first value that is no symbol is refused exactly if the run on what is before
      that value was not cut short. Otherwise the word is read and judged like what is before. -/
  stops : ∀ (word word' bad : Value) (before behind : List Value), word.items? = some before →
    word'.items? = some (before ++ bad :: behind) → (∀ v ∈ before, v.isHashable = true) →
    bad.isHashable = false →
    ∃ run v, a.simulate word = .ok run ∧ a.judge word = .ok v ∧
      (a.simulate word' = .error .unhashable ↔ run.Alive before.length) ∧
      (a.judge word' = .error .unhashable ↔ run.Alive before.length) ∧
      (¬ run.Alive before.length → a.simulate word' = .ok run ∧ a.judge word' = .ok v)
  /-- The initial state is met when it is validated, and the states that decide a verdict are met when
      they are looked up, so that no flag is read out of range. -/
  initial : ∀ s, a.space.initial? = some s → a.space.validate (a.space.state s) = .ok s
  decides : ∀ word s, a.Decides word s →
    a.space.lookup s = .ok s ∧ a.space.flags[s]? = some (a.space.accepts s)

theorem Sound.safe (h : a.Sound) : a.Safe where
  answered q hq := by
    obtain ⟨answer, hanswer, hnamed⟩ := h.answers_proper hq
    exact ⟨answer, hanswer, fun s hs => Registry.contains_state (hnamed s hs)⟩
  stops word word' bad before behind hword hword' hbefore hbad := by
    obtain ⟨symbols, rfl⟩ := Value.exists_map_value hbefore
    obtain ⟨run, v, hrun, hv, halive, hdead⟩ := a.read_append_cons hword hword' hbad
    rw [List.length_map]
    refine ⟨run, v, hrun, hv, ⟨fun hrefused => ?_, fun h => (halive h).1⟩,
      ⟨fun hrefused => ?_, fun h => (halive h).2⟩, hdead⟩
    · by_contra hdead'
      rw [(hdead hdead').1] at hrefused
      cases hrefused
    · by_contra hdead'
      rw [(hdead hdead').2] at hrefused
      cases hrefused
  initial s hs := Registry.validate_state (h.initial_lt hs)
  decides word s hs := by
    have hlt := h.lt_of_decides hs
    refine ⟨Registry.lookup_eq_ok_iff.2 ⟨hlt, rfl⟩, ?_⟩
    rw [Registry.accepts_eq_getElem hlt]
    exact List.getElem?_eq_getElem hlt

/-- **Only bad arguments are refused.** After any calls on a new automaton, refused ones and
    questions included, questions about its states and about symbols are answered with states of its
    own, and a word is refused only for a value that is no symbol and that a run gets to. -/
theorem safe_after (kind : AutomatonKind) (owner : Nat) (calls : List Call) :
    ((new kind owner).after calls).Safe :=
  (sound_after_new kind owner calls).safe

/-- Without transitions a run is cut short at the first symbol, so that the list behind it does no
    harm. A list in the first place does. -/
example :
    ((new .nfa 0).after [.build (.addState (.truth true))]).simulate
        (.list [.text "a", .list []]) = .ok (.trail [[0], []]) ∧
      ((new .nfa 0).after [.build (.addState (.truth true))]).simulate
        (.list [.list [], .text "a"]) = .error .unhashable := by
  decide +kernel

end Automaton

end FiniteAutomata

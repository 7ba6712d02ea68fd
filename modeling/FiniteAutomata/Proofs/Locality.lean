import FiniteAutomata.Proofs.Safety

namespace FiniteAutomata

/-!
# A run depends on the edges for its symbols

Two automata may differ in all transitions on symbols that are not in a word: in what they are, in
the order of the tables, in entries that were left empty. As long as their states go to the same
states on the symbols of the word and without reading, the word is read alike.

* `Dfa.visited_congr`, `Dfa.stateAfter_congr`: runs from the same state.
* `Nfa.advance_congr_of_targets`: one step from the same set.
* `Nfa.activeAfter_congr`, `Nfa.taken_congr`, `Nfa.seen_congr`: runs from the same set.
* `Automaton.AgreeOn`: two automata go to the same states on some symbols.
* `Automaton.AgreeOn.read_eq`: they read words of these symbols alike.
-/

/-! ### Deterministic automata -/

namespace Dfa

section Moves

variable {d e : Dfa} (hd : d.Sound) {word : List Symbol}
  (hmoves : ∀ c ∈ word, ∀ s < d.size, d.target? s c = e.target? s c)
include hd hmoves

theorem stateAfter_congr {s : Nat} (hs : s < d.size) :
    d.stateAfter s word = e.stateAfter s word := by
  induction word generalizing s with
  | nil => rfl
  | cons c rest ih =>
    obtain ⟨hc, hrest⟩ := List.forall_mem_cons.1 hmoves
    rw [stateAfter_cons, stateAfter_cons, ← hc s hs]
    cases ht : d.target? s c with
    | none => rfl
    | some t =>
      -- the run never leaves the states of the automaton
      exact ih hrest (hd.target?_lt ht)

theorem visited_congr {s : Nat} (hs : s < d.size) : d.visited s word = e.visited s word := by
  induction word generalizing s with
  | nil => rfl
  | cons c rest ih =>
    obtain ⟨hc, hrest⟩ := List.forall_mem_cons.1 hmoves
    rw [visited, visited, ← hc s hs]
    cases ht : d.target? s c with
    | none => rfl
    | some t => exact congrArg (s :: ·) (ih hrest (hd.target?_lt ht))

end Moves

theorem verdict_congr {d e : Dfa} (hflags : d.flags = e.flags) : d.verdict = e.verdict := by
  have haccepts : d.accepts = e.accepts := Registry.accepts_congr hflags
  funext read last?
  cases last? with
  | none => rfl
  | some last => simp only [verdict, haccepts]

end Dfa

/-! ### Nondeterministic automata -/

namespace Nfa

section Moves

variable {n m : Nfa} (hepsilon : n.epsilonTargets = m.epsilonTargets)
include hepsilon

/-- One step looks at the targets of the active states only. -/
theorem advance_congr_of_targets {active : StateSet} (hactive : Within n.size active) {c : Symbol}
    (hmoves : ∀ s < n.size, n.targets s c = m.targets s c) :
    n.advance active c = m.advance active c := by
  have htargets : active.flatMap (n.targets · c) = active.flatMap (m.targets · c) :=
    List.flatMap_congr fun s hs => hmoves s (hactive.lt s hs)
  rw [advance, advance, closureOf_eq_of_epsilonTargets hepsilon, htargets]

variable (hn : n.Sound) {word : List Symbol}
  (hmoves : ∀ c ∈ word, ∀ s < n.size, n.targets s c = m.targets s c)
include hn hmoves

theorem activeAfter_congr {active : StateSet} (hactive : Within n.size active) :
    n.activeAfter active word = m.activeAfter active word := by
  induction word generalizing active with
  | nil => rfl
  | cons c rest ih =>
    obtain ⟨hc, hrest⟩ := List.forall_mem_cons.1 hmoves
    rw [activeAfter_cons, activeAfter_cons, ← advance_congr_of_targets hepsilon hactive hc]
    exact ih hrest (hn.within_advance active c)

theorem taken_congr {active : StateSet} (hactive : Within n.size active) :
    n.taken active word = m.taken active word := by
  induction word generalizing active with
  | nil => rfl
  | cons c rest ih =>
    obtain ⟨hc, hrest⟩ := List.forall_mem_cons.1 hmoves
    rw [taken, taken, ← advance_congr_of_targets hepsilon hactive hc,
      ih hrest (hn.within_advance active c)]

theorem seen_congr {active : StateSet} (hactive : Within n.size active) :
    n.seen active word = m.seen active word := by
  rw [seen, seen, taken_congr hepsilon hn hmoves hactive]
  refine List.map_congr_left fun i _ => ?_
  exact activeAfter_congr hepsilon hn (fun c hc => hmoves c (List.mem_of_mem_take hc)) hactive

end Moves

theorem verdict_congr {n m : Nfa} (hflags : n.flags = m.flags) : n.verdict = m.verdict := by
  have haccepts : n.accepts = m.accepts := Registry.accepts_congr hflags
  funext last read
  simp only [verdict, haccepts]

end Nfa

/-! ### Automata of either kind -/

namespace Automaton

/-- Two automata of one kind have the same states, the same initial state and the same epsilon
    transitions, and every state goes to the same states on each of the symbols. -/
structure AgreeOn (a b : Automaton) (symbols : List Symbol) : Prop where
  kind : a.kind = b.kind
  flags : a.space.flags = b.space.flags
  initial : a.space.initial? = b.space.initial?
  epsilonTransitions : ∀ e, e ∈ a.epsilonTransitions ↔ e ∈ b.epsilonTransitions
  next : ∀ s < a.space.size, ∀ c ∈ symbols,
    a.next (a.space.state s) c.value = b.next (b.space.state s) c.value

variable {a b : Automaton} {word : Value} {symbols : List Symbol}

theorem AgreeOn.target?_eq {d e : Dfa} (h : (dfa d).AgreeOn (dfa e) symbols) :
    ∀ c ∈ symbols, ∀ s < d.size, d.target? s c = e.target? s c := by
  intro c hc s hs
  have hs' : s < e.size := by
    have hsize : d.size = e.size := congrArg List.length h.flags
    omega
  have hnext : (dfa d).next (d.state s) c.value = (dfa e).next (e.state s) c.value :=
    h.next s hs c hc
  rw [next_dfa hs, next_dfa hs', Except.ok.injEq, Answer.state.injEq] at hnext
  exact hnext

theorem AgreeOn.targets_eq {n m : Nfa} (h : (nfa n).AgreeOn (nfa m) symbols) :
    ∀ c ∈ symbols, ∀ s < n.size, n.targets s c = m.targets s c := by
  intro c hc s hs
  have hs' : s < m.size := by
    have hsize : n.size = m.size := congrArg List.length h.flags
    omega
  have hnext : (nfa n).next (n.state s) c.value = (nfa m).next (m.state s) c.value :=
    h.next s hs c hc
  rw [next_nfa hs, next_nfa hs', Except.ok.injEq, Answer.set.injEq] at hnext
  exact hnext

theorem AgreeOn.epsilonTargets_eq {n m : Nfa} (h : (nfa n).AgreeOn (nfa m) symbols) (hn : n.Sound)
    (hm : m.Sound) : n.epsilonTargets = m.epsilonTargets := by
  funext s
  refine (Nfa.within_epsilonTargets hn s).ascends.eq_of_mem_iff
    (Nfa.within_epsilonTargets hm s).ascends fun t => ?_
  rw [hn.mem_epsilonTargets_iff, hm.mem_epsilonTargets_iff]
  exact h.epsilonTransitions (s, t)

theorem AgreeOn.read_eq_dfa {d e : Dfa} (h : (dfa d).AgreeOn (dfa e) symbols) (hd : d.Sound)
    (hword : word.items? = some (symbols.map (·.value))) :
    d.simulate word = e.simulate word ∧ d.judge word = e.judge word := by
  have hinitial : d.initial? = e.initial? := h.initial
  cases hstart : d.initial? with
  | none =>
    have hstart' := hinitial ▸ hstart
    rw [d.simulate_of_initial_eq_none hstart, e.simulate_of_initial_eq_none hstart',
      d.judge_of_initial_eq_none hstart, e.judge_of_initial_eq_none hstart']
    exact ⟨rfl, rfl⟩
  | some start =>
    have hstart' := hinitial ▸ hstart
    have hlt := hd.initial.initial_lt hstart
    rw [d.simulate_eq hstart hword, e.simulate_eq hstart' hword, d.judge_eq hstart hword,
      e.judge_eq hstart' hword, Dfa.visited_congr hd h.target?_eq hlt,
      Dfa.stateAfter_congr hd h.target?_eq hlt, Dfa.verdict_congr h.flags]
    exact ⟨rfl, rfl⟩

theorem AgreeOn.read_eq_nfa {n m : Nfa} (h : (nfa n).AgreeOn (nfa m) symbols) (hn : n.Sound)
    (hm : m.Sound) (hword : word.items? = some (symbols.map (·.value))) :
    n.simulate word = m.simulate word ∧ n.judge word = m.judge word := by
  have hinitial : n.initial? = m.initial? := h.initial
  cases hstart : n.initial? with
  | none =>
    have hstart' := hinitial ▸ hstart
    rw [n.simulate_of_initial_eq_none hstart, m.simulate_of_initial_eq_none hstart',
      n.judge_of_initial_eq_none hstart, m.judge_of_initial_eq_none hstart']
    exact ⟨rfl, rfl⟩
  | some start =>
    have hstart' := hinitial ▸ hstart
    have hepsilon := h.epsilonTargets_eq hn hm
    have hwithin : Nfa.Within n.size (n.closureOf [start]) :=
      hn.within_closureOf (List.forall_mem_singleton.2 (hn.initial.initial_lt hstart))
    rw [n.simulate_eq hstart hword, m.simulate_eq hstart' hword, n.judge_eq hstart hword,
      m.judge_eq hstart' hword, ← Nfa.closureOf_eq_of_epsilonTargets hepsilon,
      Nfa.seen_congr hepsilon hn h.targets_eq hwithin,
      Nfa.activeAfter_congr hepsilon hn h.targets_eq hwithin,
      Nfa.taken_congr hepsilon hn h.targets_eq hwithin, Nfa.verdict_congr h.flags]
    exact ⟨rfl, rfl⟩

/-- A word of symbols on which the automata agree is read and judged alike. -/
theorem AgreeOn.read_eq (h : a.AgreeOn b symbols) (ha : a.Sound) (hb : b.Sound)
    (hword : word.items? = some (symbols.map (·.value))) :
    a.simulate word = b.simulate word ∧ a.judge word = b.judge word := by
  cases a with
  | dfa d =>
    cases b with
    | dfa e =>
      obtain ⟨hsimulate, hjudge⟩ := h.read_eq_dfa ha hword
      exact ⟨by rw [simulate_dfa, simulate_dfa, hsimulate], by rw [judge_dfa, judge_dfa, hjudge]⟩
    | nfa m => cases h.kind
  | nfa n =>
    cases b with
    | dfa e => cases h.kind
    | nfa m =>
      obtain ⟨hsimulate, hjudge⟩ := h.read_eq_nfa ha hb hword
      exact ⟨by rw [simulate_nfa, simulate_nfa, hsimulate], by rw [judge_nfa, judge_nfa, hjudge]⟩

end Automaton

end FiniteAutomata

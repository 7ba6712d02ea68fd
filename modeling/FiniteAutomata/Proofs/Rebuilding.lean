import FiniteAutomata.Proofs.Contents
import Mathlib.Data.List.Induction

namespace FiniteAutomata

/-!
# Automata built again from their listings

From the flags of its states, its listed transitions in any order and its initial state a copy of an
automaton can be built.

* `rebuilding`: the calls that do it.
* `Dfa.connectAll`, `Nfa.connectAll`, `Nfa.connectAllEpsilon`: many transitions in a table.
* `Dfa.target?_connectAll`, `Nfa.mem_targets_connectAll`, `Nfa.mem_epsilonTargets_connectAll`: what
  they make of the table.
* `Automaton.copy_rebuilding`: the calls build a copy.
-/

/-! ### Calls -/

/-- The calls that add states with the given flags. -/
def stateCalls (flags : List Bool) : List Construction := flags.map fun b => .addState (.truth b)

/-- The call that adds a transition between states of the given owner. -/
def transitionCall (owner : Nat) (t : Transition) : Construction :=
  .addTransition (.state ⟨t.source, owner⟩) t.symbol.value (.state ⟨t.target, owner⟩)

/-- The call that adds an epsilon transition between states of the given owner. -/
def epsilonCall (owner : Nat) (e : Nat × Nat) : Construction :=
  .addEpsilon (.state ⟨e.1, owner⟩) (.state ⟨e.2, owner⟩)

/-- The call that chooses a state of the given owner as the initial one. -/
def initialCall (owner : Nat) (s : Nat) : Construction := .setInitial (.state ⟨s, owner⟩)

/-- The calls that build an automaton with the given states, transitions and initial state. -/
def rebuilding (owner : Nat) (flags : List Bool) (ts : List Transition) (es : List (Nat × Nat))
    (start : Option Nat) : List Construction :=
  stateCalls flags ++ ts.map (transitionCall owner) ++ es.map (epsilonCall owner) ++
    start.toList.map (initialCall owner)

/-- Without a choice of its own, an automaton that was told the initial state of another one of the
    same size has that initial state. -/
theorem StateSpace.initial_of_chosen {space other : StateSpace} (hother : other.Sound)
    (hsize : space.size = other.size) (hchosen : space.chosen = other.initial?) :
    space.initial? = other.initial? := by
  rw [initial?, hchosen]
  cases h : other.initial? with
  | some s => rfl
  | none =>
    have hzero : space.size = 0 := hsize.trans (hother.initial_eq_none_iff.1 h)
    simp [hzero]

/-! ### Deterministic automata -/

namespace Dfa

variable {d : Dfa}

theorem buildAll_append (d : Dfa) (calls later : List Construction) :
    d.buildAll (calls ++ later) = (d.buildAll calls).buildAll later :=
  List.foldl_append

/-- The automaton with several transitions put into its table. -/
def connectAll (d : Dfa) (ts : List Transition) : Dfa :=
  ts.foldl (fun d t => d.connect t.source t.symbol t.target) d

theorem space_connectAll (d : Dfa) (ts : List Transition) :
    (d.connectAll ts).toStateSpace = d.toStateSpace := by
  rw [connectAll]
  induction ts generalizing d with
  | nil => rfl
  | cons t rest ih => exact ih (d.connect t.source t.symbol t.target)

/-- The automaton with that state as the initial one, or without a choice. -/
def withChosen (d : Dfa) (start : Option Nat) : Dfa := { d with chosen := start }

theorem flags_withChosen (d : Dfa) (start : Option Nat) : (d.withChosen start).flags = d.flags := rfl

theorem chosen_withChosen (d : Dfa) (start : Option Nat) : (d.withChosen start).chosen = start := rfl

theorem target?_withChosen (d : Dfa) (start : Option Nat) :
    (d.withChosen start).target? = d.target? := rfl

/-- If no departure has two targets, each of them goes where it was sent. -/
theorem target?_connectAll (hempty : d.edges = []) {ts : List Transition}
    (hone : ∀ e ∈ ts, ∀ e' ∈ ts, e.source = e'.source → (e.symbol == e'.symbol) = true →
      e.target = e'.target) {s t : Nat} {a : Symbol} :
    (d.connectAll ts).target? s a = some t ↔
      ∃ e ∈ ts, e.source = s ∧ (e.symbol == a) = true ∧ e.target = t := by
  -- the last transition that was put in decides, so the list is taken apart from its end
  induction ts using List.reverseRecOn with
  | nil => simp [connectAll, target?, hempty, Ledger.get?]
  | append_singleton ts e ih =>
    have hbefore := ih fun e he e' he' =>
      hone e (List.mem_append_left _ he) e' (List.mem_append_left _ he')
    have hlast : e ∈ ts ++ [e] := List.mem_append_right _ (List.mem_singleton_self e)
    have hsplit : d.connectAll (ts ++ [e]) =
        (d.connectAll ts).connect e.source e.symbol e.target := by
      rw [connectAll, List.foldl_append]
      rfl
    rw [hsplit, target?_connect]
    split
    · rename_i hmatch
      obtain ⟨rfl, ha⟩ := Departure.beq_iff.1 hmatch
      constructor
      · intro h
        cases h
        exact ⟨e, hlast, rfl, ha, rfl⟩
      · rintro ⟨e', he', hs, ha', rfl⟩
        rw [hone e hlast e' he' hs.symm (BEq.trans ha (BEq.symm ha'))]
    · rename_i hmatch
      rw [hbefore]
      refine exists_congr fun e' => ?_
      rw [List.mem_append, List.mem_singleton]
      constructor
      · rintro ⟨he', h⟩
        exact ⟨.inl he', h⟩
      · rintro ⟨he' | rfl, hs, ha, ht⟩
        · exact ⟨he', hs, ha, ht⟩
        · exact absurd (Departure.beq_iff.2 ⟨hs, ha⟩) hmatch

theorem buildAll_stateCalls (d : Dfa) (flags : List Bool) :
    d.buildAll (stateCalls flags) = { d with flags := d.flags ++ flags } := by
  rw [buildAll, stateCalls, List.foldl_map]
  induction flags generalizing d with
  | nil => simp
  | cons b rest ih =>
    rw [List.foldl_cons, ih]
    simp [build, StateSpace.buildState, StateSpace.addState, Registry.add, Built.map, Value.isTrue]

theorem buildAll_transitionCalls {ts : List Transition}
    (hts : ∀ t ∈ ts, t.source < d.size ∧ t.target < d.size) :
    d.buildAll (ts.map (transitionCall d.owner)) = d.connectAll ts := by
  rw [buildAll, connectAll, List.foldl_map]
  induction ts generalizing d with
  | nil => rfl
  | cons t rest ih =>
    obtain ⟨⟨hs, ht⟩, hrest⟩ := List.forall_mem_cons.1 hts
    have hbuild : (d.build (transitionCall d.owner t)).automaton =
        d.connect t.source t.symbol t.target :=
      congrArg Built.automaton (build_addTransition hs t.symbol ht)
    rw [List.foldl_cons, List.foldl_cons, hbuild]
    exact ih (d := d.connect t.source t.symbol t.target) hrest

theorem buildAll_initialCall (start : Option Nat) (hchosen : d.chosen = none)
    (hstart : ∀ s, start = some s → s < d.size) :
    d.buildAll (start.toList.map (initialCall d.owner)) = d.withChosen start := by
  cases start with
  | none =>
    obtain ⟨⟨registry, chosen⟩, edges⟩ := d
    simp only at hchosen
    subst hchosen
    rfl
  | some s =>
    have h : d.setInitial (d.state s) = .ok { d.toStateSpace with chosen := some s } :=
      StateSpace.setInitial_state (hstart s rfl)
    have hcall : initialCall d.owner s = .setInitial (d.state s) := rfl
    rw [Option.toList_some, List.map_cons, List.map_nil, buildAll, List.foldl_cons, List.foldl_nil,
      hcall, build, StateSpace.buildInitial, h]
    rfl

/-- What the calls build from nothing. -/
theorem buildAll_rebuilding (owner : Nat) {flags : List Bool} {ts : List Transition}
    {start : Option Nat} (hts : ∀ t ∈ ts, t.source < flags.length ∧ t.target < flags.length)
    (hstart : ∀ s, start = some s → s < flags.length) :
    (new owner).buildAll (rebuilding owner flags ts [] start) =
      (({ owner, flags } : Dfa).connectAll ts).withChosen start := by
  have hspace := space_connectAll { owner, flags } ts
  have hsize : (({ owner, flags } : Dfa).connectAll ts).size = flags.length := by rw [hspace]; rfl
  have howner : (({ owner, flags } : Dfa).connectAll ts).owner = owner := by rw [hspace]
  have hstates : (new owner).buildAll (stateCalls flags) = { owner, flags } :=
    buildAll_stateCalls (new owner) flags
  have htransitions : ({ owner, flags } : Dfa).buildAll (ts.map (transitionCall owner)) =
      ({ owner, flags } : Dfa).connectAll ts := buildAll_transitionCalls hts
  have hinitial := buildAll_initialCall (d := ({ owner, flags } : Dfa).connectAll ts) start
    (by rw [hspace]) (by rwa [hsize])
  rw [howner] at hinitial
  rw [rebuilding, List.map_nil, List.append_nil, buildAll_append, buildAll_append, hstates,
    htransitions, hinitial]

/-- The calls build a copy of the automaton. -/
theorem copy_rebuilding (hd : d.Sound) (owner : Nat) {ts : List Transition}
    (hts : ts.Perm d.transitions) :
    (Automaton.dfa d).Copy
      (.dfa ((new owner).buildAll (rebuilding owner d.flags ts [] d.initial?))) := by
  have hwithin : ∀ t ∈ ts, t.source < d.size ∧ t.target < d.size :=
    fun t ht => hd.within_transitions t (hts.mem_iff.1 ht)
  -- one departure has one target, for it has one entry
  have hone : ∀ e ∈ ts, ∀ e' ∈ ts, e.source = e'.source → (e.symbol == e'.symbol) = true →
      e.target = e'.target := by
    intro e he e' he' hs ha
    have h := hd.target?_eq_some_iff.2 ⟨e.symbol, hts.mem_iff.1 he, BEq.rfl⟩
    have h' := hd.target?_eq_some_iff.2 ⟨e'.symbol, hts.mem_iff.1 he', BEq.symm ha⟩
    rw [← hs, h, Option.some.injEq] at h'
    exact h'
  have hspace := space_connectAll { owner, flags := d.flags } ts
  have hbuilt := buildAll_rebuilding owner hwithin fun s => hd.initial.initial_lt
  refine .dfa hd (sound_buildAll_new owner _) ?_ ?_ ?_
  · rw [hbuilt, flags_withChosen, hspace]
  · refine (StateSpace.initial_of_chosen hd.initial ?_ ?_).symm
    · rw [hbuilt, Registry.size, flags_withChosen, hspace, Registry.size]
    · rw [hbuilt, chosen_withChosen]
  · rw [hbuilt, target?_withChosen]
    funext s a
    refine Option.ext fun t => ?_
    have h := target?_connectAll (d := { owner, flags := d.flags }) rfl hone (s := s) (t := t)
      (a := a)
    rw [hd.target?_eq_some_iff]
    refine Iff.trans ?_ h.symm
    constructor
    · rintro ⟨b, hmem, hb⟩
      exact ⟨_, hts.mem_iff.2 hmem, rfl, hb, rfl⟩
    · rintro ⟨e, he, rfl, ha, rfl⟩
      exact ⟨e.symbol, hts.mem_iff.1 he, ha⟩

end Dfa

/-! ### Nondeterministic automata -/

namespace Nfa

variable {n : Nfa}

theorem buildAll_append (n : Nfa) (calls later : List Construction) :
    n.buildAll (calls ++ later) = (n.buildAll calls).buildAll later :=
  List.foldl_append

/-- The automaton with several transitions put into its table. -/
def connectAll (n : Nfa) (ts : List Transition) : Nfa :=
  ts.foldl (fun n t => n.connect t.source t.symbol t.target) n

/-- The automaton with several epsilon transitions put into its table. -/
def connectAllEpsilon (n : Nfa) (es : List (Nat × Nat)) : Nfa :=
  es.foldl (fun n e => n.connectEpsilon e.1 e.2) n

theorem space_connectAll (n : Nfa) (ts : List Transition) :
    (n.connectAll ts).toStateSpace = n.toStateSpace := by
  rw [connectAll]
  induction ts generalizing n with
  | nil => rfl
  | cons t rest ih => exact ih (n.connect t.source t.symbol t.target)

theorem space_connectAllEpsilon (n : Nfa) (es : List (Nat × Nat)) :
    (n.connectAllEpsilon es).toStateSpace = n.toStateSpace := by
  rw [connectAllEpsilon]
  induction es generalizing n with
  | nil => rfl
  | cons e rest ih => exact ih (n.connectEpsilon e.1 e.2)

theorem epsilonTargets_connectAll (n : Nfa) (ts : List Transition) :
    (n.connectAll ts).epsilonTargets = n.epsilonTargets := by
  rw [connectAll]
  induction ts generalizing n with
  | nil => rfl
  | cons t rest ih => exact ih (n.connect t.source t.symbol t.target)

theorem targets_connectAllEpsilon (n : Nfa) (es : List (Nat × Nat)) :
    (n.connectAllEpsilon es).targets = n.targets := by
  rw [connectAllEpsilon]
  induction es generalizing n with
  | nil => rfl
  | cons e rest ih => exact ih (n.connectEpsilon e.1 e.2)

/-- Every state goes where it went before and where it was sent. -/
theorem mem_targets_connectAll {ts : List Transition} {s t : Nat} {a : Symbol} :
    t ∈ (n.connectAll ts).targets s a ↔
      t ∈ n.targets s a ∨ ∃ e ∈ ts, e.source = s ∧ (e.symbol == a) = true ∧ e.target = t := by
  rw [connectAll]
  induction ts generalizing n with
  | nil => simp
  | cons e rest ih =>
    rw [List.foldl_cons, ih, List.exists_mem_cons_iff, ← or_assoc]
    refine or_congr_left ?_
    simp only [targets_connect]
    split
    · rename_i hmatch
      obtain ⟨rfl, ha⟩ := Departure.beq_iff.1 hmatch
      have hsame : n.targets e.source e.symbol = n.targets e.source a := by
        rw [targets, targets, Ledger.get?_congr hmatch]
      rw [StateSet.mem_insert, hsame, or_comm]
      simp [ha, eq_comm]
    · rename_i hmatch
      have hother : ¬ (e.source = s ∧ (e.symbol == a) = true ∧ e.target = t) :=
        fun h => hmatch (Departure.beq_iff.2 ⟨h.1, h.2.1⟩)
      simp only [hother, or_false]

theorem mem_epsilonTargets_connectAll {es : List (Nat × Nat)} {s t : Nat} :
    t ∈ (n.connectAllEpsilon es).epsilonTargets s ↔ t ∈ n.epsilonTargets s ∨ (s, t) ∈ es := by
  rw [connectAllEpsilon]
  induction es generalizing n with
  | nil => simp
  | cons e rest ih =>
    rw [List.foldl_cons, ih, List.mem_cons, ← or_assoc]
    refine or_congr_left ?_
    obtain ⟨source, target⟩ := e
    simp only [epsilonTargets_connectEpsilon]
    by_cases hs : source = s
    · subst hs
      simp [StateSet.mem_insert, or_comm]
    · simp [hs, Ne.symm hs]

theorem buildAll_stateCalls (n : Nfa) (flags : List Bool) :
    n.buildAll (stateCalls flags) = { n with flags := n.flags ++ flags } := by
  rw [buildAll, stateCalls, List.foldl_map]
  induction flags generalizing n with
  | nil => simp
  | cons b rest ih =>
    rw [List.foldl_cons, ih]
    simp [build, StateSpace.buildState, StateSpace.addState, Registry.add, Built.map, Value.isTrue]

theorem buildAll_transitionCalls {ts : List Transition}
    (hts : ∀ t ∈ ts, t.source < n.size ∧ t.target < n.size) :
    n.buildAll (ts.map (transitionCall n.owner)) = n.connectAll ts := by
  rw [buildAll, connectAll, List.foldl_map]
  induction ts generalizing n with
  | nil => rfl
  | cons t rest ih =>
    obtain ⟨⟨hs, ht⟩, hrest⟩ := List.forall_mem_cons.1 hts
    have hbuild : (n.build (transitionCall n.owner t)).automaton =
        n.connect t.source t.symbol t.target :=
      congrArg Built.automaton (build_addTransition hs t.symbol ht)
    rw [List.foldl_cons, List.foldl_cons, hbuild]
    exact ih (n := n.connect t.source t.symbol t.target) hrest

theorem buildAll_epsilonCalls {es : List (Nat × Nat)}
    (hes : ∀ e ∈ es, e.1 < n.size ∧ e.2 < n.size) :
    n.buildAll (es.map (epsilonCall n.owner)) = n.connectAllEpsilon es := by
  rw [buildAll, connectAllEpsilon, List.foldl_map]
  induction es generalizing n with
  | nil => rfl
  | cons e rest ih =>
    obtain ⟨⟨hs, ht⟩, hrest⟩ := List.forall_mem_cons.1 hes
    have hbuild : (n.build (epsilonCall n.owner e)).automaton = n.connectEpsilon e.1 e.2 :=
      congrArg Built.automaton (build_addEpsilon hs ht)
    rw [List.foldl_cons, List.foldl_cons, hbuild]
    exact ih (n := n.connectEpsilon e.1 e.2) hrest

/-- The automaton with that state as the initial one, or without a choice. -/
def withChosen (n : Nfa) (start : Option Nat) : Nfa := { n with chosen := start }

theorem flags_withChosen (n : Nfa) (start : Option Nat) : (n.withChosen start).flags = n.flags := rfl

theorem chosen_withChosen (n : Nfa) (start : Option Nat) : (n.withChosen start).chosen = start := rfl

theorem sameMoves_withChosen (n : Nfa) (start : Option Nat) : n.SameMoves (n.withChosen start) :=
  ⟨rfl, rfl⟩

theorem buildAll_initialCall (start : Option Nat) (hchosen : n.chosen = none)
    (hstart : ∀ s, start = some s → s < n.size) :
    n.buildAll (start.toList.map (initialCall n.owner)) = n.withChosen start := by
  cases start with
  | none =>
    obtain ⟨⟨registry, chosen⟩, edges, epsilons⟩ := n
    simp only at hchosen
    subst hchosen
    rfl
  | some s =>
    have h : n.setInitial (n.state s) = .ok { n.toStateSpace with chosen := some s } :=
      StateSpace.setInitial_state (hstart s rfl)
    have hcall : initialCall n.owner s = .setInitial (n.state s) := rfl
    rw [Option.toList_some, List.map_cons, List.map_nil, buildAll, List.foldl_cons, List.foldl_nil,
      hcall, build, StateSpace.buildInitial, h]
    rfl

/-- What the calls build from nothing. -/
theorem buildAll_rebuilding (owner : Nat) {flags : List Bool} {ts : List Transition}
    {es : List (Nat × Nat)} {start : Option Nat}
    (hts : ∀ t ∈ ts, t.source < flags.length ∧ t.target < flags.length)
    (hes : ∀ e ∈ es, e.1 < flags.length ∧ e.2 < flags.length)
    (hstart : ∀ s, start = some s → s < flags.length) :
    (new owner).buildAll (rebuilding owner flags ts es start) =
      ((({ owner, flags } : Nfa).connectAll ts).connectAllEpsilon es).withChosen start := by
  have hspace := space_connectAll { owner, flags } ts
  have hsize : (({ owner, flags } : Nfa).connectAll ts).size = flags.length := by rw [hspace]; rfl
  have howner : (({ owner, flags } : Nfa).connectAll ts).owner = owner := by rw [hspace]
  -- there are four stretches of calls, and each finds the states that it names
  have hstates : (new owner).buildAll (stateCalls flags) = { owner, flags } :=
    buildAll_stateCalls (new owner) flags
  have htransitions : ({ owner, flags } : Nfa).buildAll (ts.map (transitionCall owner)) =
      ({ owner, flags } : Nfa).connectAll ts := buildAll_transitionCalls hts
  have hes' : ∀ e ∈ es, e.1 < (({ owner, flags } : Nfa).connectAll ts).size ∧
      e.2 < (({ owner, flags } : Nfa).connectAll ts).size := by rwa [hsize]
  have hepsilons := buildAll_epsilonCalls hes'
  have hspace' := space_connectAllEpsilon (({ owner, flags } : Nfa).connectAll ts) es
  have hinitial := buildAll_initialCall
    (n := (({ owner, flags } : Nfa).connectAll ts).connectAllEpsilon es) start
    (by rw [hspace', hspace]) (by rwa [hspace', hsize])
  rw [howner] at hepsilons
  rw [hspace', howner] at hinitial
  rw [rebuilding, buildAll_append, buildAll_append, buildAll_append, hstates, htransitions,
    hepsilons, hinitial]

/-- The calls build a copy of the automaton. -/
theorem copy_rebuilding (hn : n.Sound) (owner : Nat) {ts : List Transition} {es : List (Nat × Nat)}
    (hts : ts.Perm n.transitions) (hes : es.Perm n.epsilonTransitions) :
    (Automaton.nfa n).Copy
      (.nfa ((new owner).buildAll (rebuilding owner n.flags ts es n.initial?))) := by
  have hwithin : ∀ t ∈ ts, t.source < n.size ∧ t.target < n.size :=
    fun t ht => hn.within_transitions t (hts.mem_iff.1 ht)
  have hwithin' : ∀ e ∈ es, e.1 < n.size ∧ e.2 < n.size :=
    fun e he => hn.within_epsilonTransitions e (hes.mem_iff.1 he)
  have hbuilt := buildAll_rebuilding owner hwithin hwithin' fun s => hn.initial.initial_lt
  have hsound := sound_buildAll_new owner (rebuilding owner n.flags ts es n.initial?)
  have hspace : ((({ owner, flags := n.flags } : Nfa).connectAll ts).connectAllEpsilon
      es).toStateSpace = { owner, flags := n.flags } := by
    rw [space_connectAllEpsilon, space_connectAll]
  refine .nfa hn hsound ?_ ?_ ⟨?_, ?_⟩
  · rw [hbuilt, flags_withChosen, hspace]
  · refine (StateSpace.initial_of_chosen hn.initial ?_ ?_).symm
    · rw [hbuilt, Registry.size, flags_withChosen, hspace, Registry.size]
    · rw [hbuilt, chosen_withChosen]
  · -- the targets are ascending sets with the same members
    funext s a
    refine (within_targets hn s a).ascends.eq_of_mem_iff (within_targets hsound s a).ascends
      fun t => ?_
    rw [hbuilt, ← (sameMoves_withChosen _ _).targets, targets_connectAllEpsilon,
      mem_targets_connectAll, hn.mem_targets_iff]
    constructor
    · rintro ⟨b, hmem, hb⟩
      exact .inr ⟨_, hts.mem_iff.2 hmem, rfl, hb, rfl⟩
    · rintro (hnone | ⟨e, he, rfl, ha, rfl⟩)
      · cases hnone
      · exact ⟨e.symbol, hts.mem_iff.1 he, ha⟩
  · funext s
    refine (within_epsilonTargets hn s).ascends.eq_of_mem_iff
      (within_epsilonTargets hsound s).ascends fun t => ?_
    rw [hbuilt, ← (sameMoves_withChosen _ _).epsilonTargets, mem_epsilonTargets_connectAll,
      epsilonTargets_connectAll, hn.mem_epsilonTargets_iff, hes.mem_iff]
    constructor
    · exact .inr
    · rintro (hnone | he)
      · cases hnone
      · exact he

end Nfa

/-! ### Automata of either kind -/

namespace Automaton

/-- A new automaton after calls that add states with the given flags. -/
theorem buildAll_stateCalls_new (kind : AutomatonKind) (owner : Nat) (flags : List Bool) :
    ((new kind owner).buildAll (stateCalls flags)).1.kind = kind ∧
      ((new kind owner).buildAll (stateCalls flags)).1.space = { owner, flags } := by
  cases kind with
  | dfa =>
    rw [new, buildAll_dfa, Dfa.buildAll_stateCalls]
    exact ⟨rfl, rfl⟩
  | nfa =>
    rw [new, buildAll_nfa, Nfa.buildAll_stateCalls]
    exact ⟨rfl, rfl⟩

/-- From the flags, the listings in any order and the initial state a copy of an automaton is
    built. -/
theorem copy_rebuilding {a : Automaton} (ha : a.Sound) (owner : Nat) {ts : List Transition}
    {es : List (Nat × Nat)} (hts : ts.Perm a.transitions) (hes : es.Perm a.epsilonTransitions) :
    a.Copy ((new a.kind owner).buildAll
      (rebuilding owner a.space.flags ts es a.space.initial?)).1 := by
  cases a with
  | dfa d =>
    have hnil : es = [] := hes.eq_nil
    subst hnil
    rw [kind, new, buildAll_dfa]
    exact Dfa.copy_rebuilding ha owner hts
  | nfa n =>
    rw [kind, new, buildAll_nfa]
    exact Nfa.copy_rebuilding ha owner hts hes

end Automaton

end FiniteAutomata

import FiniteAutomata.Proofs.Concatenation
import FiniteAutomata.Proofs.Met
import FiniteAutomata.Proofs.Nfa.Reachability
import FiniteAutomata.Proofs.Nfa.Table

namespace FiniteAutomata

/-!
# More edges never lose words

Whoever adds states and transitions to an automaton, and neither chooses another initial state nor
replaces a transition, takes no run away from it: each state that was reached is reached again. A
run may go on where it used to end, so that more of a word is read.

* `StateSpace.PartOf`, `Dfa.PartOf`, `Nfa.PartOf`: one automaton is part of another one.
* `Dfa.partOf_build`, `Nfa.partOf_build`: an automaton is part of what a call makes of it.
* `Dfa.partOf_buildAll`, `Nfa.partOf_buildAll`: and of what any number of calls make of it.
* `Dfa.PartOf.visited_prefix`, `Nfa.PartOf.activeAfter_subset`, `Nfa.PartOf.taken_le`: runs of the part
  and of the whole.
* `Dfa.NothingLost`, `Nfa.NothingLost`: whatever the part answers, the whole answers too.
* `nothing_lost`: what follows from further calls after any history.
-/

/-! ### States -/

namespace StateSpace

/-- The states of one automaton are the first ones of the other, with their flags, and the same
    choice of the initial state was made. -/
structure PartOf (space space' : StateSpace) : Prop where
  owner : space'.owner = space.owner
  flags : space.flags <+: space'.flags
  chosen : space'.chosen = space.chosen

variable {space space' space'' : StateSpace}

theorem PartOf.refl (space : StateSpace) : space.PartOf space := ⟨rfl, List.prefix_rfl, rfl⟩

theorem PartOf.trans (h : space.PartOf space') (h' : space'.PartOf space'') :
    space.PartOf space'' :=
  ⟨h'.owner.trans h.owner, h.flags.trans h'.flags, h'.chosen.trans h.chosen⟩

theorem partOf_addState (space : StateSpace) (accepting : Value) :
    space.PartOf (space.addState accepting) :=
  ⟨rfl, List.prefix_append _ _, rfl⟩

theorem PartOf.size_le (h : space.PartOf space') : space.size ≤ space'.size := h.flags.length_le

/-- A state has the same name in both automata. -/
theorem PartOf.state_eq (h : space.PartOf space') (s : Nat) : space'.state s = space.state s := by
  simp only [Registry.state, Registry.id, h.owner]

theorem PartOf.accepts_eq (h : space.PartOf space') {s : Nat} (hs : s < space.size) :
    space'.accepts s = space.accepts s := by
  obtain ⟨rest, hflags⟩ := h.flags
  simp only [Registry.accepts, ← hflags, List.getD_eq_getElem?_getD]
  rw [List.getElem?_append_left hs]

/-- The initial state stays the same, also where it is the first state for want of a choice. -/
theorem PartOf.initial_eq (h : space.PartOf space') {start : Nat}
    (hstart : space.initial? = some start) : space'.initial? = some start := by
  have hle := h.size_le
  simp only [initial?, h.chosen] at hstart ⊢
  cases hchosen : space.chosen with
  | some index => rwa [hchosen] at hstart
  | none =>
    rw [hchosen] at hstart
    by_cases hpos : 0 < space.size
    · rw [if_pos hpos] at hstart
      rwa [if_pos (Nat.lt_of_lt_of_le hpos hle)]
    · rw [if_neg hpos] at hstart
      cases hstart

end StateSpace

/-- Calls that choose no initial state only add to the states. -/
theorem Automaton.partOf_space_build (a : Automaton) {call : Construction}
    (hcall : call.choice? = none) : a.space.PartOf (a.build call).automaton.space := by
  cases call with
  | addState accepting =>
    cases a with
    | dfa d => exact StateSpace.partOf_addState d.toStateSpace accepting
    | nfa n => exact StateSpace.partOf_addState n.toStateSpace accepting
  | addTransition source symbol target =>
    rw [space_addTransition]
    exact .refl _
  | addEpsilon source target =>
    rw [space_addEpsilon]
    exact .refl _
  | setInitial state => cases hcall

/-! ### Deterministic automata -/

namespace Dfa

/-- Every transition of one automaton is one of the other. -/
structure PartOf (d e : Dfa) : Prop extends StateSpace.PartOf d.toStateSpace e.toStateSpace where
  target? : ∀ {s a t}, d.target? s a = some t → e.target? s a = some t

/-- The call chooses no initial state, and it adds no transition where there is one. -/
def Fills (d : Dfa) : Construction → Prop
  | .addTransition source symbol _ => ∀ t, d.next source symbol ≠ .ok (some t)
  | call => call.choice? = none

/-- Each of several calls, in its turn, chooses no initial state and adds no transition where there is
    one. -/
def FillsAll (d : Dfa) : List Construction → Prop
  | [] => True
  | call :: rest => d.Fills call ∧ (d.build call).automaton.FillsAll rest

variable {d e : Dfa} {s t : Nat} {word : List Symbol}

theorem PartOf.refl (d : Dfa) : d.PartOf d := ⟨.refl _, id⟩

theorem PartOf.trans {f : Dfa} (h : d.PartOf e) (h' : e.PartOf f) : d.PartOf f :=
  ⟨h.toPartOf.trans h'.toPartOf, fun ht => h'.target? (h.target? ht)⟩

theorem Fills.choice_eq_none {call : Construction} (h : d.Fills call) : call.choice? = none := by
  cases call with
  | addTransition => rfl
  | addState | addEpsilon | setInitial => exact h

/-- A call that fills a gap replaces no transition. -/
theorem partOf_build {call : Construction} (h : d.Fills call) :
    d.PartOf (d.build call).automaton := by
  have hspace := Automaton.partOf_space_build (.dfa d) h.choice_eq_none
  refine ⟨hspace, ?_⟩
  intro s a t ht
  cases call with
  | addState accepting => exact ht
  | addEpsilon source target => exact ht
  | setInitial state => cases h
  | addTransition source symbol target =>
    rw [build]
    cases hadd : d.addTransition source symbol target with
    | error fault => exact ht
    | ok result =>
      obtain ⟨s', b, t', hs, hb, -, hconnect, -⟩ := addTransition_eq_ok_iff.1 hadd
      simp only [hconnect, target?_connect]
      split
      · rename_i hdeparture
        -- the departure would be one that has a target
        have hnext : d.next source symbol = .ok (d.target? s' b) := by
          simp only [next_def, hs, hb, ok_bind, pure_eq_ok]
        have htarget : d.target? s' b = some t :=
          (Ledger.get?_congr hdeparture).trans ht
        rw [htarget] at hnext
        exact absurd hnext (h t)
      · exact ht

theorem partOf_buildAll {calls : List Construction} (h : d.FillsAll calls) :
    d.PartOf (d.buildAll calls) := by
  rw [Dfa.buildAll]
  induction calls generalizing d with
  | nil => exact .refl d
  | cons call rest ih => exact (partOf_build h.1).trans (ih h.2)

/-! #### Runs -/

theorem PartOf.stateAfter (h : d.PartOf e) (ht : d.stateAfter s word = some t) :
    e.stateAfter s word = some t := by
  induction word generalizing s with
  | nil => exact ht
  | cons a rest ih =>
    rw [stateAfter_cons] at ht ⊢
    obtain ⟨u, hu, ht⟩ := Option.bind_eq_some_iff.1 ht
    rw [h.target? hu]
    exact ih ht

/-- The path along a word goes on where it used to be stuck, if anywhere. -/
theorem PartOf.visited_prefix (h : d.PartOf e) (s : Nat) (word : List Symbol) :
    d.visited s word <+: e.visited s word := by
  induction word generalizing s with
  | nil => exact List.prefix_rfl
  | cons a rest ih =>
    rw [visited]
    split
    · rw [visited]
      split
      · exact List.prefix_rfl
      · exact ⟨_, rfl⟩
    · rename_i t ht
      rw [visited, h.target? ht]
      exact (List.prefix_cons_inj s).2 (ih t)

/-- What is true of the answers of one automaton and of those of another one. -/
structure NothingLost (d e : Dfa) : Prop where
  /-- The path along a word is the beginning of the other path. -/
  simulate : ∀ (word : Value) (symbols : List Symbol),
    word.items? = some (symbols.map (·.value)) →
      ∃ path path', d.simulate word = .ok path ∧ e.simulate word = .ok path' ∧ path <+: path'
  /-- An accepted word stays accepted. -/
  judge : ∀ (word : Value) (symbols : List Symbol),
    word.items? = some (symbols.map (·.value)) →
      ∃ v v', d.judge word = .ok v ∧ e.judge word = .ok v' ∧
        (v.accepted = true → v'.accepted = true)

theorem PartOf.nothingLost (h : d.PartOf e) (hd : d.Sound) : d.NothingLost e where
  simulate word symbols hword := by
    cases hstart : d.initial? with
    | none =>
      -- without states nothing is seen, and every run goes on from there
      have hpath := simulate_of_initial_eq_none hstart word
      obtain ⟨path', -, hpath', -⟩ := e.exists_read hword
      exact ⟨[], path', hpath, hpath', List.nil_prefix⟩
    | some start =>
      exact ⟨_, _, simulate_eq hstart hword, simulate_eq (h.initial_eq hstart) hword,
        h.visited_prefix start symbols⟩
  judge word symbols hword := by
    cases hstart : d.initial? with
    | none =>
      have hverdict := judge_of_initial_eq_none hstart word
      obtain ⟨-, v', -, hv'⟩ := e.exists_read hword
      exact ⟨.unread, v', hverdict, hv', fun h => by cases h⟩
    | some start =>
      refine ⟨_, _, judge_eq hstart hword, judge_eq (h.initial_eq hstart) hword, ?_⟩
      simp only [accepted_verdict_iff]
      rintro ⟨last, hlast, haccepts⟩
      -- the state at the end is one of the first automaton, and accepts in both
      have hlt := hd.stateAfter_lt (hd.initial.initial_lt hstart) hlast
      exact ⟨last, h.stateAfter hlast, (h.accepts_eq hlt).trans haccepts⟩

end Dfa

/-! ### Nondeterministic automata -/

namespace Nfa

/-- Every transition of one automaton is one of the other. -/
structure PartOf (n m : Nfa) : Prop extends StateSpace.PartOf n.toStateSpace m.toStateSpace where
  targets : ∀ s a, n.targets s a ⊆ m.targets s a
  epsilonTargets : ∀ s, n.epsilonTargets s ⊆ m.epsilonTargets s

variable {n m : Nfa} {active active' : StateSet} {given given' : List Nat} {word : List Symbol}

theorem PartOf.refl (n : Nfa) : n.PartOf n :=
  ⟨.refl _, fun _ _ => List.Subset.refl _, fun _ => List.Subset.refl _⟩

theorem PartOf.trans {k : Nfa} (h : n.PartOf m) (h' : m.PartOf k) : n.PartOf k :=
  ⟨h.toPartOf.trans h'.toPartOf,
    fun s a => List.Subset.trans (h.targets s a) (h'.targets s a),
    fun s => List.Subset.trans (h.epsilonTargets s) (h'.epsilonTargets s)⟩

/-- No call takes a transition away. -/
theorem Change.partOf (h : n.Change m) (hspace : n.toStateSpace.PartOf m.toStateSpace) :
    n.PartOf m := by
  refine ⟨hspace, ?_, ?_⟩
  · intro s a t ht
    cases h with
    | unchanged => exact ht
    | addState accepting => exact ht
    | setInitial hs => exact ht
    | @reserve s' hs b =>
      rw [← (similar_reserve n s' b).targets]
      exact ht
    | @connect s' t' hs b ht' => exact (mem_targets_connect (e := ⟨s', b, t'⟩)).2 (.inl ht)
    | reserveEpsilon hs => exact ht
    | connectEpsilon hs ht' => exact ht
  · intro s t ht
    cases h with
    | unchanged => exact ht
    | addState accepting => exact ht
    | setInitial hs => exact ht
    | reserve hs b => exact ht
    | connect hs b ht' => exact ht
    | @reserveEpsilon s' hs =>
      rw [← (similar_reserveEpsilon n s').epsilonTargets]
      exact ht
    | connectEpsilon hs ht' => exact mem_epsilonTargets_connectEpsilon.2 (.inl ht)

theorem partOf_build {call : Construction} (hcall : call.choice? = none) :
    n.PartOf (n.build call).automaton :=
  (build_change n call).partOf (Automaton.partOf_space_build (.nfa n) hcall)

theorem partOf_buildAll {calls : List Construction} (h : ∀ call ∈ calls, call.choice? = none) :
    n.PartOf (n.buildAll calls) := by
  rw [Nfa.buildAll]
  induction calls generalizing n with
  | nil => exact .refl n
  | cons call rest ih =>
    obtain ⟨hcall, hrest⟩ := List.forall_mem_cons.1 h
    exact (partOf_build hcall).trans (ih hrest)

/-! #### Runs -/

theorem PartOf.closureOf_subset (h : n.PartOf m) (hgiven : given ⊆ given') :
    n.closureOf given ⊆ m.closureOf given' := by
  intro t ht
  exact mem_closureOf.2 ((mem_closureOf.1 ht).mono h.epsilonTargets hgiven)

theorem PartOf.advance_subset (h : n.PartOf m) {active active' : List Nat}
    (hactive : active ⊆ active') (a : Symbol) : n.advance active a ⊆ m.advance active' a := by
  refine h.closureOf_subset fun t ht => ?_
  obtain ⟨s, hs, ht⟩ := List.mem_flatMap.1 (StateSet.mem_ofList.1 ht)
  exact StateSet.mem_ofList.2 (List.mem_flatMap.2 ⟨s, hactive hs, h.targets s a ht⟩)

theorem PartOf.activeAfter_subset (h : n.PartOf m) (hactive : active ⊆ active')
    (word : List Symbol) : n.activeAfter active word ⊆ m.activeAfter active' word := by
  induction word generalizing active active' with
  | nil => exact hactive
  | cons a rest ih => exact ih (h.advance_subset hactive a)

/-- The whole reads no less of a word: where some state of the part is active, one of the whole is. -/
theorem PartOf.taken_le (h : n.PartOf m) (hactive : active ⊆ active') :
    n.taken active word ≤ m.taken active' word := by
  induction word generalizing active active' with
  | nil => exact Nat.zero_le _
  | cons a rest ih =>
    have hsubset := h.advance_subset hactive a
    rw [taken, taken]
    split
    · split <;> omega
    · rename_i hne
      have hne' : m.advance active' a ≠ [] := by
        intro hnil
        rw [hnil] at hsubset
        exact hne (List.subset_nil.1 hsubset)
      rw [if_neg hne']
      exact Nat.succ_le_succ (ih hsubset)

/-- What is true of the answers of one automaton and of those of another one. -/
structure NothingLost (n m : Nfa) : Prop where
  /-- There is an entry for each entry, and it holds no less. -/
  simulate : ∀ (word : Value) (symbols : List Symbol),
    word.items? = some (symbols.map (·.value)) →
      ∃ sets sets' : List StateSet, n.simulate word = .ok sets ∧ m.simulate word = .ok sets' ∧
        sets.length ≤ sets'.length ∧
          ∀ (i : Nat) (set : StateSet), sets[i]? = some set →
            ∃ set' : StateSet, sets'[i]? = some set' ∧ set ⊆ set'
  /-- An accepted word stays accepted. -/
  judge : ∀ (word : Value) (symbols : List Symbol),
    word.items? = some (symbols.map (·.value)) →
      ∃ v v', n.judge word = .ok v ∧ m.judge word = .ok v' ∧
        (v.accepted = true → v'.accepted = true)
  /-- The closure of states holds no less. -/
  epsilonClosure : ∀ (states : Value) (given : List Nat), n.NamesOwn states given →
    ∃ set set' : StateSet, n.epsilonClosure states = .ok set ∧
      m.epsilonClosure states = .ok set' ∧ set ⊆ set'
  /-- A step from states leads to no less. -/
  step : ∀ (active : Value) (given : List Nat) (a : Symbol),
    active.items? = some (given.map n.state) → (∀ s ∈ given, s < n.size) →
      ∃ set set' : StateSet, n.step active a.value = .ok set ∧
        m.step active a.value = .ok set' ∧ set ⊆ set'

/-- A value names the same states of the part and of the whole. -/
theorem PartOf.namesOwn (h : n.PartOf m) {states : Value} (hstates : n.NamesOwn states given) :
    m.NamesOwn states given := by
  refine ⟨?_, fun s hs => Nat.lt_of_lt_of_le (hstates.lt s hs) h.size_le⟩
  cases hstates.names with
  | one s =>
    rw [← h.state_eq]
    exact .one s
  | several hitems =>
    have hstate : m.state = n.state := funext h.state_eq
    rw [← hstate] at hitems
    exact .several hitems

theorem PartOf.nothingLost (h : n.PartOf m) (hn : n.Sound) : n.NothingLost m where
  simulate word symbols hword := by
    cases hstart : n.initial? with
    | none =>
      have hsets := simulate_of_initial_eq_none hstart word
      obtain ⟨sets', -, hsets', -⟩ := m.exists_read hword
      exact ⟨[], sets', hsets, hsets', Nat.zero_le _, fun i set hi => by cases hi⟩
    | some start =>
      -- all that is active in one run is active in the other one, which goes on at least as long
      have hactive : n.closureOf [start] ⊆ m.closureOf [start] :=
        h.closureOf_subset (List.Subset.refl _)
      have htaken : n.taken (n.closureOf [start]) symbols ≤ m.taken (m.closureOf [start]) symbols :=
        h.taken_le hactive
      refine ⟨_, _, simulate_eq hstart hword, simulate_eq (h.initial_eq hstart) hword, ?_, ?_⟩
      · rw [length_seen, length_seen]
        exact Nat.succ_le_succ htaken
      · intro i set hi
        obtain ⟨hle, rfl⟩ := getElem?_seen_eq_some_iff.1 hi
        exact ⟨_, getElem?_seen_eq_some_iff.2 ⟨hle.trans htaken, rfl⟩,
          h.activeAfter_subset hactive _⟩
  judge word symbols hword := by
    cases hstart : n.initial? with
    | none =>
      have hverdict := judge_of_initial_eq_none hstart word
      obtain ⟨-, v', -, hv'⟩ := m.exists_read hword
      exact ⟨.unread, v', hverdict, hv', fun h => by cases h⟩
    | some start =>
      refine ⟨_, _, judge_eq hstart hword, judge_eq (h.initial_eq hstart) hword, ?_⟩
      simp only [accepted_verdict_iff]
      rintro ⟨last, hlast, haccepts⟩
      -- the states at the end are states of the first automaton, and accept in both
      have hwithin : Within n.size (n.closureOf [start]) :=
        hn.within_closureOf (by simpa using hn.initial.initial_lt hstart)
      have hlt := (hn.within_activeAfter hwithin symbols).lt last hlast
      have hsubset := h.activeAfter_subset (h.closureOf_subset (List.Subset.refl [start])) symbols
      exact ⟨last, hsubset hlast, (h.accepts_eq hlt).trans haccepts⟩
  epsilonClosure states given hstates :=
    ⟨_, _, hstates.epsilonClosure_eq, (h.namesOwn hstates).epsilonClosure_eq,
      h.closureOf_subset (List.Subset.refl given)⟩
  step active given a hactive hgiven := by
    have hstates := h.namesOwn ⟨.several hactive, hgiven⟩
    have hstate : m.state = n.state := funext h.state_eq
    refine ⟨_, _, step_of_items hactive hgiven a, step_of_items (by rwa [hstate]) hstates.lt a, ?_⟩
    exact h.advance_subset (List.Subset.refl given) a

end Nfa

/-! ### Any history -/

/-- **More edges never lose words.** After any calls, further ones that choose no initial state take
    nothing away from a nondeterministic automaton, and nothing from a deterministic one where they
    only fill gaps. -/
theorem nothing_lost (owner : Nat) (calls further : List Construction) :
    ((∀ call ∈ further, call.choice? = none) →
      ((Nfa.new owner).buildAll calls).NothingLost
        (((Nfa.new owner).buildAll calls).buildAll further)) ∧
    (((Dfa.new owner).buildAll calls).FillsAll further →
      ((Dfa.new owner).buildAll calls).NothingLost
        (((Dfa.new owner).buildAll calls).buildAll further)) :=
  ⟨fun hfurther => (Nfa.partOf_buildAll hfurther).nothingLost (Nfa.sound_buildAll_new owner calls),
    fun hfurther => (Dfa.partOf_buildAll hfurther).nothingLost (Dfa.sound_buildAll_new owner calls)⟩

/-- The calls that add a third state, with a transition on `a` to it and an epsilon transition from it
    to the first one. -/
def wideningCalls : List Construction :=
  [.addState .absent, transitionCall 0 ⟨1, letterA, 2⟩, epsilonCall 0 (2, 0)]

/-- The word `aa`, at which the deterministic automaton used to be stuck, is read to its end. -/
theorem widened_loses_nothing :
    (∀ call ∈ wideningCalls, call.choice? = none) ∧
      ((Dfa.new 0).buildAll returnCalls).FillsAll wideningCalls ∧
      ((Dfa.new 0).buildAll returnCalls).simulate (.text "aa") = .ok [0, 1] ∧
      (((Dfa.new 0).buildAll returnCalls).buildAll wideningCalls).simulate (.text "aa") =
        .ok [0, 1, 2] ∧
      ((Nfa.new 0).buildAll returnCalls).NothingLost
        (((Nfa.new 0).buildAll returnCalls).buildAll wideningCalls) ∧
      ((Dfa.new 0).buildAll returnCalls).NothingLost
        (((Dfa.new 0).buildAll returnCalls).buildAll wideningCalls) := by
  have hchoice : ∀ call ∈ wideningCalls, call.choice? = none := by decide
  have hfills : ((Dfa.new 0).buildAll returnCalls).FillsAll wideningCalls := by
    refine ⟨rfl, ?_, rfl, trivial⟩
    intro t ht
    have hgap : (((Dfa.new 0).buildAll returnCalls).build (.addState .absent)).automaton.next
        (.state ⟨1, 0⟩) letterA.value = .ok none := by decide +kernel
    cases hgap.symm.trans ht
  exact ⟨hchoice, hfills, by decide +kernel, by decide +kernel,
    (nothing_lost 0 returnCalls wideningCalls).1 hchoice,
    (nothing_lost 0 returnCalls wideningCalls).2 hfills⟩

end FiniteAutomata

import FiniteAutomata.Proofs.Rebuilding
import FiniteAutomata.Proofs.Twins.Construction

namespace FiniteAutomata

/-!
# Calls that are met

An automaton that was built by calls none of which was refused is what these calls say, in whatever
order and however often they say it.

* `Construction.flag?`, `Construction.choice?`: what a call says of a state.
* `Sends`: one of several calls sends a state on a symbol to a state.
* `Automaton.Goes`, `Automaton.GoesSilently`: where the states of an automaton of either kind go.
* `Automaton.Growth`, `Automaton.growth_of_met`: what a call does that is not refused.
* `Automaton.Grown`, `Automaton.Met.grown`: several calls, none of which is refused.
* `Automaton.Connects`, `Automaton.met_of_connects`: calls that connect states are not refused.
* `Automaton.Grown.flags`, `Automaton.Grown.chosen`, `Automaton.Grown.goes_iff`,
  `Automaton.Grown.goesSilently_iff`: what they build.
-/

/-! ### What calls say -/

/-- The flag of the state that a call adds. -/
def Construction.flag? : Construction → Option Bool
  | .addState accepting => some accepting.isTrue
  | _ => none

/-- The value that a call gives as the initial state. -/
def Construction.choice? : Construction → Option Value
  | .setInitial state => some state
  | _ => none

/-- One of the calls sends a state on a symbol, in some spelling, to a state. -/
def Sends (owner : Nat) (calls : List Construction) (s : Nat) (a : Symbol) (t : Nat) : Prop :=
  ∃ b, (b == a) = true ∧ transitionCall owner ⟨s, b, t⟩ ∈ calls

section Sends

variable {owner s t : Nat} {a : Symbol} {calls calls' : List Construction}

theorem sends_append :
    Sends owner (calls ++ calls') s a t ↔ Sends owner calls s a t ∨ Sends owner calls' s a t := by
  simp only [Sends, List.mem_append, and_or_left, exists_or]

theorem not_sends_nil : ¬ Sends owner [] s a t := by
  simp [Sends]

theorem sends_transitionCall {e : Transition} :
    Sends owner [transitionCall owner e] s a t ↔
      e.source = s ∧ (e.symbol == a) = true ∧ e.target = t := by
  obtain ⟨s', b, t'⟩ := e
  simp only [Sends, List.mem_singleton]
  constructor
  · rintro ⟨b', hb', heq⟩
    simp only [transitionCall, Construction.addTransition.injEq, Value.state.injEq,
      StateId.mk.injEq, Int.ofNat_inj, and_true] at heq
    obtain ⟨rfl, hvalue, rfl⟩ := heq
    refine ⟨rfl, ?_, rfl⟩
    rwa [Symbol.beq_iff, ← hvalue, ← Symbol.beq_iff]
  · rintro ⟨rfl, hb, rfl⟩
    exact ⟨b, hb, rfl⟩

theorem sends_cons_transitionCall {e : Transition} :
    Sends owner (transitionCall owner e :: calls) s a t ↔
      (e.source = s ∧ (e.symbol == a) = true ∧ e.target = t) ∨ Sends owner calls s a t := by
  rw [← List.singleton_append, sends_append, sends_transitionCall]

theorem sends_cons_epsilonCall {e : Nat × Nat} :
    Sends owner (epsilonCall owner e :: calls) s a t ↔ Sends owner calls s a t := by
  simp [Sends, transitionCall, epsilonCall]

theorem sends_cons_addState {accepting : Value} :
    Sends owner (.addState accepting :: calls) s a t ↔ Sends owner calls s a t := by
  simp [Sends, transitionCall]

end Sends

namespace Automaton

/-! ### Where states go -/

/-- A state goes to another one on a symbol. -/
def Goes (a : Automaton) (s : Nat) (c : Symbol) (t : Nat) : Prop :=
  match a with
  | .dfa d => d.target? s c = some t
  | .nfa n => t ∈ n.targets s c

/-- A state goes to another one without reading. -/
def GoesSilently (a : Automaton) (s t : Nat) : Prop :=
  match a with
  | .dfa _ => False
  | .nfa n => t ∈ n.epsilonTargets s

/-! ### One call -/

/-- What a call does to an automaton that does not refuse it. -/
inductive Growth : Automaton → Construction → Automaton → Prop
  | dfaState (d : Dfa) (accepting : Value) :
    Growth (.dfa d) (.addState accepting) (.dfa { d with toStateSpace := d.addState accepting })
  | dfaTransition (d : Dfa) (e : Transition) :
    Growth (.dfa d) (transitionCall d.owner e) (.dfa (d.connect e.source e.symbol e.target))
  | dfaInitial (d : Dfa) (s : Nat) :
    Growth (.dfa d) (initialCall d.owner s) (.dfa (d.withChosen (some s)))
  | nfaState (n : Nfa) (accepting : Value) :
    Growth (.nfa n) (.addState accepting) (.nfa { n with toStateSpace := n.addState accepting })
  | nfaTransition (n : Nfa) (e : Transition) :
    Growth (.nfa n) (transitionCall n.owner e) (.nfa (n.connect e.source e.symbol e.target))
  | nfaEpsilon (n : Nfa) (e : Nat × Nat) :
    Growth (.nfa n) (epsilonCall n.owner e) (.nfa (n.connectEpsilon e.1 e.2))
  | nfaInitial (n : Nfa) (s : Nat) :
    Growth (.nfa n) (initialCall n.owner s) (.nfa (n.withChosen (some s)))

variable {a b : Automaton} {call : Construction} {s t : Nat} {c : Symbol}

theorem isOk_error (fault : Fault) : (Except.error fault : Except Fault (Option Nat)).isOk ≠ true :=
  nofun

/-- A call that is not refused does what `Growth` lists. -/
theorem growth_of_met (hmet : (a.build call).result.isOk = true) :
    Growth a call (a.build call).automaton := by
  cases a with
  | dfa d =>
    cases call with
    | addState accepting => exact .dfaState d accepting
    | addTransition source symbol target =>
      simp only [build, Dfa.build, Built.map] at hmet ⊢
      cases h : d.addTransition source symbol target with
      | error fault => rw [h] at hmet; exact absurd hmet (isOk_error fault)
      | ok result =>
        obtain ⟨s, c, t, hs, hc, ht, hconnect, -⟩ := Dfa.addTransition_eq_ok_iff.1 h
        obtain ⟨-, rfl⟩ := Registry.validate_eq_ok_iff.1 hs
        obtain ⟨-, rfl⟩ := Registry.validate_eq_ok_iff.1 ht
        rw [Value.eq_value_of_symbol hc]
        simp only [hconnect]
        exact .dfaTransition d ⟨s, c, t⟩
    | addEpsilon source target => exact absurd hmet (isOk_error _)
    | setInitial state =>
      simp only [build, Dfa.build, StateSpace.buildInitial, Built.map] at hmet ⊢
      cases h : d.setInitial state with
      | error fault => rw [h] at hmet; exact absurd hmet (isOk_error fault)
      | ok space =>
        obtain ⟨s, -, rfl, rfl⟩ := StateSpace.setInitial_eq_ok_iff.1 h
        exact .dfaInitial d s
  | nfa n =>
    cases call with
    | addState accepting => exact .nfaState n accepting
    | addTransition source symbol target =>
      rcases h : n.addTransition source symbol target with ⟨m, fault | result⟩
      · simp only [build, Nfa.build, Built.map, h] at hmet
        exact absurd hmet (isOk_error fault)
      · obtain ⟨s, c, t, hs, hc, ht, hconnect⟩ := Nfa.addTransition_eq_ok_iff.1 h
        obtain ⟨-, rfl⟩ := Registry.validate_eq_ok_iff.1 hs
        obtain ⟨-, rfl⟩ := Registry.validate_eq_ok_iff.1 ht
        simp only [build, Nfa.build, Built.map, h, hconnect]
        rw [Value.eq_value_of_symbol hc]
        exact .nfaTransition n ⟨s, c, t⟩
    | addEpsilon source target =>
      simp only [build, Nfa.build, Nfa.addEpsilon, Built.map] at hmet ⊢
      cases hs : n.validate source with
      | error fault => rw [hs] at hmet; exact absurd hmet (isOk_error fault)
      | ok s =>
        cases ht : n.validate target with
        | error fault => rw [hs, ht] at hmet; exact absurd hmet (isOk_error fault)
        | ok t =>
          obtain ⟨-, rfl⟩ := Registry.validate_eq_ok_iff.1 hs
          obtain ⟨-, rfl⟩ := Registry.validate_eq_ok_iff.1 ht
          exact .nfaEpsilon n (s, t)
    | setInitial state =>
      simp only [build, Nfa.build, StateSpace.buildInitial, Built.map] at hmet ⊢
      cases h : n.setInitial state with
      | error fault => rw [h] at hmet; exact absurd hmet (isOk_error fault)
      | ok space =>
        obtain ⟨s, -, rfl, rfl⟩ := StateSpace.setInitial_eq_ok_iff.1 h
        exact .nfaInitial n s

namespace Growth

variable (h : Growth a call b)
include h

theorem kind_eq : b.kind = a.kind := by cases h <;> rfl

theorem owner_eq : b.space.owner = a.space.owner := by cases h <;> rfl

theorem flags_eq : b.space.flags = a.space.flags ++ call.flag?.toList := by
  cases h with
  | dfaState d accepting => rfl
  | nfaState n accepting => rfl
  | _ => exact (List.append_nil _).symm

/-- The choice of an initial state is the one that the call makes, if it makes any. -/
theorem chosen_eq :
    (call.choice? = none ∧ b.space.chosen = a.space.chosen) ∨
      ∃ s, call.choice? = some (a.space.state s) ∧ b.space.chosen = some s := by
  cases h with
  | dfaInitial d s => exact .inr ⟨s, rfl, rfl⟩
  | nfaInitial n s => exact .inr ⟨s, rfl, rfl⟩
  | _ => exact .inl ⟨rfl, rfl⟩

theorem goesSilently_iff :
    b.GoesSilently s t ↔ a.GoesSilently s t ∨ call = epsilonCall a.space.owner (s, t) := by
  cases h with
  | nfaEpsilon n e =>
    obtain ⟨s', t'⟩ := e
    simp only [GoesSilently, Nfa.epsilonTargets_connectEpsilon, space, epsilonCall,
      Construction.addEpsilon.injEq, Value.state.injEq, StateId.mk.injEq, Int.ofNat_inj, and_true]
    by_cases hs : s' = s
    · subst hs
      simp only [beq_self_eq_true, if_true, StateSet.mem_insert, true_and]
      rw [or_comm, eq_comm]
    · simp [hs]
  | _ => exact (or_iff_left (by intro hcall; cases hcall)).symm

/-- In a nondeterministic automaton a call adds to where the states go. -/
theorem goes_iff_of_nfa (hkind : a.kind = .nfa) :
    b.Goes s c t ↔ a.Goes s c t ∨ Sends a.space.owner [call] s c t := by
  cases h with
  | dfaState d accepting => cases hkind
  | dfaTransition d e => cases hkind
  | dfaInitial d s => cases hkind
  | nfaTransition n e =>
    simp only [space]
    rw [sends_transitionCall]
    simp only [Goes, Nfa.targets_connect]
    by_cases hmatch : ((⟨e.source, e.symbol⟩ : Departure) == ⟨s, c⟩) = true
    · obtain ⟨rfl, hc⟩ := Departure.beq_iff.1 hmatch
      have hsame : n.targets e.source e.symbol = n.targets e.source c := by
        rw [Nfa.targets, Nfa.targets, Ledger.get?_congr hmatch]
      simp only [hmatch, if_true, StateSet.mem_insert, hsame, true_and]
      rw [or_comm, and_iff_right hc, eq_comm]
    · have hother : ¬ (e.source = s ∧ (e.symbol == c) = true ∧ e.target = t) :=
        fun h => hmatch (Departure.beq_iff.2 ⟨h.1, h.2.1⟩)
      simp only [hmatch, Bool.false_eq_true, if_false, hother, or_false]
  | _ => exact (or_iff_left (by simp [Sends, transitionCall, epsilonCall, initialCall])).symm

/-- In a deterministic automaton it replaces where a state goes. -/
theorem goes_iff_of_dfa (hkind : a.kind = .dfa) :
    b.Goes s c t ↔ Sends a.space.owner [call] s c t ∨
      ((∀ u, ¬ Sends a.space.owner [call] s c u) ∧ a.Goes s c t) := by
  cases h with
  | nfaState n accepting => cases hkind
  | nfaTransition n e => cases hkind
  | nfaEpsilon n e => cases hkind
  | nfaInitial n s => cases hkind
  | dfaTransition d e =>
    simp only [space]
    simp only [sends_transitionCall, Goes, Dfa.target?_connect]
    by_cases hmatch : ((⟨e.source, e.symbol⟩ : Departure) == ⟨s, c⟩) = true
    · obtain ⟨rfl, hc⟩ := Departure.beq_iff.1 hmatch
      simp [hmatch, hc]
    · have hother : ∀ u, ¬ (e.source = s ∧ (e.symbol == c) = true ∧ e.target = u) :=
        fun u h => hmatch (Departure.beq_iff.2 ⟨h.1, h.2.1⟩)
      simp only [hmatch, Bool.false_eq_true, if_false, hother, false_or, not_false_eq_true,
        implies_true, true_and]
  | _ =>
    simp only [Sends, List.mem_singleton, transitionCall, initialCall, reduceCtorEq, and_false,
      exists_false, not_false_eq_true, implies_true, false_or, true_and]
    exact Iff.rfl

end Growth

/-! ### Several calls -/

/-- None of the calls, one after the other, is refused. -/
def Met (a : Automaton) (calls : List Construction) : Prop :=
  ∀ result ∈ a.results calls, result.isOk = true

instance (a : Automaton) (calls : List Construction) : Decidable (a.Met calls) :=
  inferInstanceAs (Decidable (∀ result ∈ a.results calls, result.isOk = true))

/-- What is built from nothing by calls none of which is refused. -/
inductive Grown (kind : AutomatonKind) (owner : Nat) : List Construction → Automaton → Prop
  | new : Grown kind owner [] (new kind owner)
  | call {calls : List Construction} {a b : Automaton} {call : Construction}
    (h : Grown kind owner calls a) (hgrowth : Growth a call b) :
    Grown kind owner (calls ++ [call]) b

variable {kind : AutomatonKind} {owner : Nat} {calls : List Construction}

theorem Grown.buildAll {before : List Construction} (h : Grown kind owner before a)
    (hmet : a.Met calls) : Grown kind owner (before ++ calls) (a.buildAll calls).1 := by
  induction calls generalizing a before with
  | nil => rwa [List.append_nil]
  | cons call rest ih =>
    obtain ⟨hcall, hrest⟩ := List.forall_mem_cons.1 hmet
    have hgrown := ih (h.call (growth_of_met hcall)) hrest
    rwa [List.append_assoc] at hgrown

theorem Met.grown (hmet : (new kind owner).Met calls) :
    Grown kind owner calls ((new kind owner).buildAll calls).1 :=
  Grown.new.buildAll hmet

/-! ### Calls that connect states -/

/-- The call adds a transition of either kind between states of the automaton. -/
inductive Connects (a : Automaton) : Construction → Prop
  | transition (e : Transition) (hs : e.source < a.space.size) (ht : e.target < a.space.size) :
    Connects a (transitionCall a.space.owner e)
  | epsilon (e : Nat × Nat) (hkind : a.kind = .nfa) (hs : e.1 < a.space.size)
    (ht : e.2 < a.space.size) : Connects a (epsilonCall a.space.owner e)

theorem Connects.isOk_result (h : a.Connects call) : (a.build call).result.isOk = true := by
  cases h with
  | transition e hs ht =>
    exact congrArg Except.isOk (result_addTransition hs e.symbol ht)
  | epsilon e hkind hs ht => exact congrArg Except.isOk (result_addEpsilon hkind hs ht)

theorem Connects.space_build (h : a.Connects call) : (a.build call).automaton.space = a.space := by
  cases h with
  | transition e hs ht => exact a.space_addTransition _ _ _
  | epsilon e hkind hs ht => exact a.space_addEpsilon _ _

/-- What connects states still does so when others are connected. -/
theorem Connects.build {call' : Construction} (h : a.Connects call) (h' : a.Connects call') :
    (a.build call).automaton.Connects call' := by
  have hspace := h.space_build
  cases h' with
  | transition e hs ht =>
    rw [← hspace] at hs ht ⊢
    exact .transition e hs ht
  | epsilon e hkind hs ht =>
    rw [← kind_build a call] at hkind
    rw [← hspace] at hs ht ⊢
    exact .epsilon e hkind hs ht

/-- Calls that connect states are not refused. -/
theorem met_of_connects (h : ∀ call ∈ calls, a.Connects call) : a.Met calls := by
  induction calls generalizing a with
  | nil => nofun
  | cons call rest ih =>
    obtain ⟨hcall, hrest⟩ := List.forall_mem_cons.1 h
    exact List.forall_mem_cons.2
      ⟨hcall.isOk_result, ih fun call' hcall' => hcall.build (hrest call' hcall')⟩

/-- No call for a state is refused. -/
theorem met_cons_addState {accepting : Value}
    (h : (a.build (.addState accepting)).automaton.Met calls) :
    a.Met (.addState accepting :: calls) :=
  List.forall_mem_cons.2 ⟨congrArg Except.isOk (a.result_addState accepting), h⟩

/-! ### What is built -/

namespace Grown

variable (h : Grown kind owner calls a)
include h

theorem kind_eq : a.kind = kind := by
  induction h with
  | new => cases kind <;> rfl
  | call _ hgrowth ih => rw [hgrowth.kind_eq, ih]

theorem owner_eq : a.space.owner = owner := by
  induction h with
  | new => cases kind <;> rfl
  | call _ hgrowth ih => rw [hgrowth.owner_eq, ih]

/-- The states have the flags that the calls gave them. -/
theorem flags_eq : a.space.flags = calls.filterMap Construction.flag? := by
  induction h with
  | new => cases kind <;> rfl
  | @call calls a b call _ hgrowth ih =>
    rw [hgrowth.flags_eq, ih, List.filterMap_append]
    cases hflag : call.flag? <;> simp [hflag]

/-- The initial state is the last one that was chosen. -/
theorem chosen_eq : (calls.filterMap Construction.choice?).getLast? =
    a.space.chosen.map fun s => .state ⟨s, owner⟩ := by
  induction h with
  | new => cases kind <;> rfl
  | @call calls a b call hgrown hgrowth ih =>
    rw [List.filterMap_append]
    obtain ⟨hnone, hchosen⟩ | ⟨s, hsome, hchosen⟩ := hgrowth.chosen_eq
    · rw [List.filterMap_cons_none hnone, List.filterMap_nil, List.append_nil, ih, hchosen]
    · rw [List.filterMap_cons_some hsome, List.filterMap_nil, List.getLast?_concat, hchosen,
        Registry.state, Registry.id, hgrown.owner_eq]
      rfl

/-- The epsilon transitions are those that some call adds. -/
theorem goesSilently_iff : a.GoesSilently s t ↔ epsilonCall owner (s, t) ∈ calls := by
  induction h with
  | new => cases kind <;> exact iff_of_false nofun nofun
  | call hgrown hgrowth ih =>
    rw [hgrowth.goesSilently_iff, ih, hgrown.owner_eq, List.mem_append, List.mem_singleton,
      eq_comm (b := epsilonCall _ _)]

/-- The transitions are those that some call adds. In a deterministic automaton the calls must not
    send one state on one symbol to several ones. -/
theorem goes_iff (hone : kind = .dfa → ∀ {s c t u}, Sends owner calls s c t →
    Sends owner calls s c u → t = u) : a.Goes s c t ↔ Sends owner calls s c t := by
  induction h generalizing s c t with
  | new => cases kind <;> exact iff_of_false nofun nofun
  | @call calls a b call hgrown hgrowth ih =>
    have hbefore : a.Goes s c t ↔ Sends owner calls s c t := ih fun hkind _ _ _ _ ht hu =>
      hone hkind (sends_append.2 (.inl ht)) (sends_append.2 (.inl hu))
    rw [sends_append]
    cases hkind : kind with
    | nfa => rw [hgrowth.goes_iff_of_nfa (hgrown.kind_eq.trans hkind), hbefore, hgrown.owner_eq]
    | dfa =>
      rw [hgrowth.goes_iff_of_dfa (hgrown.kind_eq.trans hkind), hbefore, hgrown.owner_eq]
      constructor
      · rintro (hlast | ⟨-, hold⟩)
        · exact .inr hlast
        · exact .inl hold
      · rintro (hold | hlast)
        · by_cases hany : ∃ u, Sends owner [call] s c u
          · -- the last call replaces a target, by the same one
            obtain ⟨u, hu⟩ := hany
            have htu : t = u := hone hkind (sends_append.2 (.inl hold))
              (sends_append.2 (.inr hu))
            exact .inl (htu ▸ hu)
          · exact .inr ⟨fun u hu => hany ⟨u, hu⟩, hold⟩
        · exact .inl hlast

end Grown

end Automaton

end FiniteAutomata

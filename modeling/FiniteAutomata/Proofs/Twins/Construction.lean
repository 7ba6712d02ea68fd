import FiniteAutomata.Proofs.Dfa.Run
import FiniteAutomata.Proofs.Similar

namespace FiniteAutomata

/-!
# Automata of the two kinds built alike

The same calls are made on a deterministic and on a nondeterministic automaton, each state named by
the automaton that is called. The first one keeps the last target of a departure and the second one
keeps all of them, so that the second table holds the first one. As long as no target is replaced by
another one, it holds nothing else.

* `SameArgument`, `SameCall`: what is said to the two automata.
* `Dfa.Replaces`, `Dfa.NeverReplaces`: some departure gets another target.
* `Twins`, `ExactTwins`: the second table holds the first one, or it holds nothing else.
* `TwinChange`: what the same call does to both of them.
* `Twins.change`, `ExactTwins.change`: one call keeps them twins.
* `Twins.buildAll`, `ExactTwins.buildAll`: any number of calls do.
-/

/-! ### The same calls -/

/-- The same argument for two automata: their states at one position, or a value that is the name of
    a state of neither. -/
inductive SameArgument (owner owner' : Nat) : Value → Value → Prop
  | own (index : Int) : SameArgument owner owner' (.state ⟨index, owner⟩) (.state ⟨index, owner'⟩)
  | other {a : Value} (h : ∀ id, a = .state id → id.owner ≠ owner ∧ id.owner ≠ owner') :
    SameArgument owner owner' a a

/-- The same call on two automata, one of which has no epsilon transitions. -/
inductive SameCall (owner owner' : Nat) : Construction → Construction → Prop
  | addState (accepting : Value) :
    SameCall owner owner' (.addState accepting) (.addState accepting)
  | addTransition {source source' target target' : Value}
    (hsource : SameArgument owner owner' source source') (symbol : Value)
    (htarget : SameArgument owner owner' target target') :
    SameCall owner owner' (.addTransition source symbol target)
      (.addTransition source' symbol target')
  | setInitial {state state' : Value} (hstate : SameArgument owner owner' state state') :
    SameCall owner owner' (.setInitial state) (.setInitial state')

/-- The same arguments name states at the same positions. -/
theorem SameArgument.validate_eq_ok_iff {r r' : Registry} (hflags : r.flags = r'.flags)
    {a a' : Value} (h : SameArgument r.owner r'.owner a a') (s : Nat) :
    r.validate a = .ok s ↔ r'.validate a' = .ok s := by
  have hsize : r.size = r'.size := congrArg List.length hflags
  rw [Registry.validate_eq_ok_iff, Registry.validate_eq_ok_iff, hsize]
  refine and_congr_right fun _ => ?_
  cases h with
  | own index => simp [Registry.state, Registry.id]
  | other h =>
    -- a value that names a state of neither names no state of either
    exact iff_of_false (fun heq => (h _ heq).1 rfl) fun heq => (h _ heq).2 rfl

/-- The results of several calls, one after the other. -/
def Automaton.results (a : Automaton) : List Construction → List (Except Fault (Option Nat))
  | [] => []
  | call :: rest => (a.build call).result :: (a.build call).automaton.results rest

namespace Dfa

/-- A call gives another target to some departure that has one. -/
def Replaces (d : Dfa) (call : Construction) : Prop :=
  ∃ s a previous, d.target? s a = some previous ∧
    (d.build call).automaton.target? s a ≠ some previous

/-- None of several calls, one after the other, gives another target to a departure. -/
def NeverReplaces (d : Dfa) : List Construction → Prop
  | [] => True
  | call :: rest => ¬ d.Replaces call ∧ (d.build call).automaton.NeverReplaces rest

/-- Where there are no transitions there is nothing to replace. -/
theorem not_replaces_of_edges_eq_nil {d : Dfa} (h : d.edges = []) (call : Construction) :
    ¬ d.Replaces call := by
  rintro ⟨s, a, previous, hprevious, -⟩
  rw [target?, h] at hprevious
  cases hprevious

/-- A refused call replaces nothing. -/
theorem not_replaces_of_refused {d : Dfa} {call : Construction} {fault : Fault}
    (h : (d.build call).result = .error fault) : ¬ d.Replaces call := by
  rintro ⟨s, a, previous, hprevious, hother⟩
  rw [automaton_of_refused h] at hother
  exact hother hprevious

end Dfa

/-! ### Twins -/

/-- The two automata have the same states and the same initial state, and the second one goes
    wherever the first one goes. It never goes anywhere without reading. -/
structure Twins (d : Dfa) (n : Nfa) : Prop where
  flags : d.flags = n.flags
  chosen : d.chosen = n.chosen
  mem_targets : ∀ {s a t}, d.target? s a = some t → t ∈ n.targets s a
  epsilonTargets : ∀ s, n.epsilonTargets s = []

/-- The second automaton goes nowhere else. -/
structure ExactTwins (d : Dfa) (n : Nfa) : Prop extends Twins d n where
  targets : ∀ s a, n.targets s a = (d.target? s a).toList

theorem exactTwins_new (owner owner' : Nat) : ExactTwins (.new owner) (.new owner') where
  flags := rfl
  chosen := rfl
  mem_targets h := by cases h
  epsilonTargets _ := rfl
  targets _ _ := rfl

/-- What the same call does to two automata. A refused call leaves the first one as it is, and may
    make room for an entry in the second one. -/
inductive TwinChange (d : Dfa) (n : Nfa) : Dfa → Nfa → Prop
  | refused {m : Nfa} (h : n.Similar m) : TwinChange d n d m
  | addState (accepting : Value) :
    TwinChange d n { d with toStateSpace := d.addState accepting }
      { n with toStateSpace := n.addState accepting }
  | setInitial (s : Nat) : TwinChange d n { d with chosen := some s } { n with chosen := some s }
  | connect (s : Nat) (a : Symbol) (t : Nat) : TwinChange d n (d.connect s a t) (n.connect s a t)

variable {d d' : Dfa} {n n' : Nfa}

theorem TwinChange.owner_eq (h : TwinChange d n d' n') :
    d'.owner = d.owner ∧ n'.owner = n.owner := by
  cases h with
  | refused h => exact ⟨rfl, congrArg (·.owner) h.space.symm⟩
  | addState accepting => exact ⟨rfl, rfl⟩
  | setInitial s => exact ⟨rfl, rfl⟩
  | connect s a t => exact ⟨rfl, rfl⟩

/-- A transition is added exactly if the two states and the symbol are what they ought to be. -/
theorem Nfa.addTransition_eq_ok_iff {source symbol target : Value} :
    n.addTransition source symbol target = (n', .ok ()) ↔
      ∃ s a t, n.validate source = .ok s ∧ symbol.symbol = .ok a ∧ n.validate target = .ok t ∧
        n' = n.connect s a t := by
  rw [addTransition]
  cases n.validate source with
  | error fault => simp
  | ok s =>
    cases symbol.symbol with
    | error fault => simp
    | ok a =>
      cases n.validate target with
      | error fault => simp
      | ok t => simp [eq_comm]

/-- Adding the same transition is refused by both automata or by none. -/
theorem Twins.addTransition (h : Twins d n) {source source' symbol target target' : Value}
    (hsource : SameArgument d.owner n.owner source source')
    (htarget : SameArgument d.owner n.owner target target') :
    ((d.build (.addTransition source symbol target)).result.toOption =
        (n.build (.addTransition source' symbol target')).result.toOption) ∧
      TwinChange d n (d.build (.addTransition source symbol target)).automaton
        (n.build (.addTransition source' symbol target')).automaton := by
  have hs : ∀ s, d.validate source = .ok s ↔ n.validate source' = .ok s :=
    SameArgument.validate_eq_ok_iff h.flags hsource
  have ht : ∀ t, d.validate target = .ok t ↔ n.validate target' = .ok t :=
    SameArgument.validate_eq_ok_iff h.flags htarget
  cases hd : d.addTransition source symbol target with
  | ok result =>
    obtain ⟨s, a, t, hs', ha, ht', hconnect, -⟩ := Dfa.addTransition_eq_ok_iff.1 hd
    have hn : n.addTransition source' symbol target' = (n.connect s a t, .ok ()) :=
      Nfa.addTransition_eq_ok_iff.2 ⟨s, a, t, (hs s).1 hs', ha, (ht t).1 ht', rfl⟩
    simp only [Dfa.build, Nfa.build, hd, hn, hconnect]
    exact ⟨rfl, .connect s a t⟩
  | error fault =>
    -- were it added to the second automaton, it would be added to the first one as well
    obtain ⟨fault', hn⟩ : ∃ fault', (n.addTransition source' symbol target').2 = .error fault' := by
      cases hresult : (n.addTransition source' symbol target').2 with
      | error fault' => exact ⟨fault', rfl⟩
      | ok _ =>
        obtain ⟨s, a, t, hs', ha, ht', -⟩ := Nfa.addTransition_eq_ok_iff.1 (Prod.ext rfl hresult)
        rw [Dfa.addTransition_eq_ok_iff.2 ⟨s, a, t, (hs s).2 hs', ha, (ht t).2 ht', rfl, rfl⟩] at hd
        cases hd
    have hrefused : (n.build (.addTransition source' symbol target')).result = .error fault' := by
      simp only [Nfa.build, hn]
      rfl
    refine ⟨?_, ?_⟩
    · rw [hrefused]
      simp only [Dfa.build, hd]
      rfl
    · simp only [Dfa.build, hd]
      exact .refused (Nfa.similar_of_refused hrefused)

/-- Choosing the same initial state is refused by both automata or by none. -/
theorem Twins.setInitial (h : Twins d n) {state state' : Value}
    (hstate : SameArgument d.owner n.owner state state') :
    ((d.build (.setInitial state)).result.toOption =
        (n.build (.setInitial state')).result.toOption) ∧
      TwinChange d n (d.build (.setInitial state)).automaton
        (n.build (.setInitial state')).automaton := by
  have hs : ∀ s, d.validate state = .ok s ↔ n.validate state' = .ok s :=
    SameArgument.validate_eq_ok_iff h.flags hstate
  simp only [Dfa.build, Nfa.build, StateSpace.buildInitial, StateSpace.setInitial]
  cases hd : d.validate state with
  | ok s =>
    rw [(hs s).1 hd]
    exact ⟨rfl, .setInitial s⟩
  | error fault =>
    cases hn : n.validate state' with
    | ok s =>
      rw [(hs s).2 hn] at hd
      cases hd
    | error fault' => exact ⟨rfl, .refused (.refl n)⟩

/-- The same call is refused by both automata or has the same result, and does to both of them what
    `TwinChange` lists. -/
theorem Twins.build (h : Twins d n) {call call' : Construction}
    (hcall : SameCall d.owner n.owner call call') :
    (d.build call).result.toOption = (n.build call').result.toOption ∧
      TwinChange d n (d.build call).automaton (n.build call').automaton := by
  cases hcall with
  | addState accepting =>
    have hsize : d.size = n.size := congrArg List.length h.flags
    refine ⟨?_, .addState accepting⟩
    simp only [Dfa.build, Nfa.build, Built.map, StateSpace.buildState, hsize]
  | addTransition hsource symbol htarget => exact h.addTransition hsource htarget
  | setInitial hstate => exact h.setInitial hstate

/-! ### Twins stay twins -/

/-- One call keeps the automata twins. -/
theorem Twins.change (h : Twins d n) (hchange : TwinChange d n d' n') : Twins d' n' := by
  cases hchange with
  | refused hsimilar =>
    -- a refused call may leave an empty entry, which no target is in
    refine ⟨?_, ?_, ?_, ?_⟩
    · rw [h.flags, hsimilar.space]
    · rw [h.chosen, hsimilar.space]
    · rw [← hsimilar.targets]
      exact h.mem_targets
    · rw [← hsimilar.epsilonTargets]
      exact h.epsilonTargets
  | addState accepting =>
    refine { h with flags := ?_ }
    simp only [StateSpace.addState, Registry.add, h.flags]
  | setInitial s => exact { h with chosen := rfl }
  | connect s a t =>
    refine { h with mem_targets := ?_ }
    intro s' b t' ht
    rw [Dfa.target?_connect] at ht
    rw [Nfa.targets_connect]
    split at ht
    · rename_i hkey
      cases ht
      simp [hkey]
    · rename_i hkey
      simp only [hkey, Bool.false_eq_true, if_false]
      exact h.mem_targets ht

/-- A call that replaces no target keeps exact twins exact. -/
theorem ExactTwins.change (h : ExactTwins d n) (hchange : TwinChange d n d' n')
    (hkeeps : ∀ s a previous, d.target? s a = some previous → d'.target? s a = some previous) :
    ExactTwins d' n' := by
  refine { h.toTwins.change hchange with targets := ?_ }
  cases hchange with
  | refused hsimilar =>
    rw [← hsimilar.targets]
    exact h.targets
  | addState accepting => exact h.targets
  | setInitial s => exact h.targets
  | connect s a t =>
    intro s' b
    simp only [Nfa.targets_connect, Dfa.target?_connect]
    split
    · -- the departure had no target, or it had this one
      rw [h.targets, Option.toList_some]
      cases hprevious : d.target? s a with
      | none => rfl
      | some previous =>
        have hkept := hkeeps s a previous hprevious
        rw [Dfa.target?_connect, if_pos BEq.rfl, Option.some.injEq] at hkept
        subst hkept
        simp [StateSet.insert, Ascending.insert]
    · exact h.targets s' b

/-- The same calls have the same results or are refused together, and keep the automata twins. -/
theorem Twins.buildAll (h : Twins d n) {calls calls' : List Construction}
    (hcalls : List.Forall₂ (SameCall d.owner n.owner) calls calls') :
    ((Automaton.dfa d).results calls).map Except.toOption =
        ((Automaton.nfa n).results calls').map Except.toOption ∧
      Twins (d.buildAll calls) (n.buildAll calls') := by
  rw [Dfa.buildAll, Nfa.buildAll]
  induction calls generalizing d n calls' with
  | nil =>
    cases hcalls
    exact ⟨rfl, h⟩
  | cons call rest ih =>
    cases hcalls with
    | cons hcall hrest =>
      obtain ⟨hresult, hchange⟩ := h.build hcall
      obtain ⟨howner, howner'⟩ := hchange.owner_eq
      obtain ⟨hresults, htwins⟩ := ih (h.change hchange) (by rwa [howner, howner'])
      refine ⟨?_, htwins⟩
      rw [Automaton.results, Automaton.results, List.map_cons, List.map_cons, List.cons.injEq]
      exact ⟨hresult, hresults⟩

/-- Calls that replace no target keep exact twins exact. -/
theorem ExactTwins.buildAll (h : ExactTwins d n) {calls calls' : List Construction}
    (hcalls : List.Forall₂ (SameCall d.owner n.owner) calls calls') (hkeeps : d.NeverReplaces calls) :
    ExactTwins (d.buildAll calls) (n.buildAll calls') := by
  rw [Dfa.buildAll, Nfa.buildAll]
  induction calls generalizing d n calls' with
  | nil =>
    cases hcalls
    exact h
  | cons call rest ih =>
    cases hcalls with
    | cons hcall hrest =>
      obtain ⟨-, hchange⟩ := h.toTwins.build hcall
      obtain ⟨howner, howner'⟩ := hchange.owner_eq
      have hexact := h.change hchange fun s a previous hprevious => by
        by_contra hother
        exact hkeeps.1 ⟨s, a, previous, hprevious, hother⟩
      exact ih hexact (by rwa [howner, howner']) hkeeps.2

end FiniteAutomata

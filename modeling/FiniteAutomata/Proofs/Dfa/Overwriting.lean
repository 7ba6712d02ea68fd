import FiniteAutomata.Proofs.Allocation
import FiniteAutomata.Proofs.Dfa.Table

namespace FiniteAutomata

/-!
# Lost transitions are reported

A deterministic automaton has one target for a state and a symbol, so a transition that is added may
take the place of another one. Then it is reported which target was lost, and nothing is lost without
a report: a target goes away in one step only, and that step names it.

* `Replacement`: a transition together with the target that it took the place of.
* `Replacement.line`: how it is told in the log.
* `Step.reported`, `Step.Replaces`: what a step reports, and what it does.
* `Dfa.reported_step`: a step reports what it replaces.
* `Dfa.target?_step`: one step keeps the target of a departure or reports that it is lost.
* `Automaton.ReportsLosses`, `Dfa.reportsLosses_history`: whole histories.
-/

/-- A transition that was added, and the target that it took the place of. -/
structure Replacement extends Transition where
  previous : Nat
deriving DecidableEq

/-- The replacement that an event reports, if it reports one. -/
def Event.replacement? : Event → Option Replacement
  | .overwrote source symbol previous target => some { source, symbol, target, previous }
  | _ => none

/-- How a replacement is told in the log, with the literal of the symbol. -/
def Replacement.line (r : Replacement) (shown : String) : String :=
  "fsm.dfa DEBUG: overwriting transition " ++ stateName r.source ++ " -" ++ shown ++ "-> " ++
    stateName r.previous ++ " with " ++ stateName r.target

theorem Event.line?_of_replacement? {event : Event} {r : Replacement}
    (h : event.replacement? = some r) {shown : String}
    (hshown : r.symbol.value.literal = .ok shown) : event.line? = some (r.line shown) := by
  cases event with
  | overwrote source symbol previous target =>
    cases h
    have hmessage : (overwrote source symbol previous target).message =
        .ok ("overwriting transition " ++ stateName source ++ " -" ++ shown ++ "-> " ++
          stateName previous ++ " with " ++ stateName target) := by
      rw [message, hshown, ok_bind, pure_eq_ok]
    have hopening : "fsm.dfa" ++ " DEBUG: " ++ "overwriting transition " =
        "fsm.dfa DEBUG: overwriting transition " := by decide +kernel
    rw [line?, hmessage]
    unfold Replacement.line
    simp only [← hopening, channel, Channel.name, String.append_assoc]
  | _ => cases h

namespace Step

/-- The replacements that a step reports. -/
def reported (s : Step) : List Replacement := s.called.report.filterMap Event.replacement?

/-- The step adds the transition, and just before it the source led to another state on the
    symbol. -/
structure Replaces (s : Step) (r : Replacement) : Prop where
  added : s.transition? = some r.toTransition
  next : s.before.answer (.next (s.before.space.state r.source) r.symbol.value) =
    .ok (.state (some r.previous))
  ne : r.previous ≠ r.target

end Step

/-! ### One step -/

namespace Dfa

/-- The replacement that is made when a transition is put into the table. -/
def replaced? (d : Dfa) (e : Transition) : Option Replacement :=
  (d.target? e.source e.symbol).bind fun previous =>
    if previous = e.target then none else some { e with previous }

theorem replaced?_eq_some_iff {d : Dfa} {e : Transition} {r : Replacement} :
    d.replaced? e = some r ↔
      e = r.toTransition ∧ d.target? e.source e.symbol = some r.previous ∧ r.previous ≠ e.target := by
  rw [replaced?, Option.bind_eq_some_iff]
  constructor
  · rintro ⟨previous, hprevious, h⟩
    split at h
    · cases h
    · rename_i hne
      cases h
      exact ⟨rfl, hprevious, hne⟩
  · rintro ⟨rfl, hprevious, hne⟩
    exact ⟨r.previous, hprevious, if_neg hne⟩

theorem filterMap_replacement (d : Dfa) (e : Transition) :
    (d.replacement e.source e.symbol e.target).filterMap Event.replacement? =
      (d.replaced? e).toList := by
  rw [replacement, replaced?, target?]
  cases d.edges.get? ⟨e.source, e.symbol⟩ with
  | none => rfl
  | some previous =>
    simp only [Option.bind_some]
    split <;> rfl

/-- A step reports what the transition that it adds takes the place of. -/
theorem reported_step (d : Dfa) (call : Call) :
    ((Automaton.dfa d).step call).reported =
      (((Automaton.dfa d).step call).transition?.bind d.replaced?).toList := by
  cases call with
  | ask query =>
    -- a question reports at most how a run ended
    refine List.filterMap_eq_nil_iff.2 fun e he => ?_
    have hends := (Automaton.dfa d).endsRun_of_ask query e he
    cases e with
    | overwrote source symbol previous target => cases hends
    | _ => rfl
  | build call =>
    cases call with
    | addState accepting => rfl
    | addEpsilon source target => rfl
    | setInitial state =>
      show ((d.buildInitial state).report).filterMap Event.replacement? = []
      rw [StateSpace.buildInitial]
      cases d.setInitial state <;> rfl
    | addTransition source symbol target =>
      obtain ⟨fault, h, hnone⟩ | ⟨e, h, hsome⟩ := d.addTransition_step source symbol target
      · rw [hnone]
        simp only [Step.reported, Automaton.step, Automaton.perform, Automaton.build, build, h]
        rfl
      · rw [hsome, Option.bind_some, ← filterMap_replacement]
        simp only [Step.reported, Automaton.step, Automaton.perform, Automaton.build, build, h]
        rfl

/-- One step keeps where a state goes on a symbol, or it reports that the target is lost. -/
theorem target?_step {d d' : Dfa} {call : Call} {k : Departure} {t : Nat}
    (hwritten : d.Written d' ((Automaton.dfa d).step call).transition?)
    (ht : d.target? k.source k.symbol = some t) :
    d'.target? k.source k.symbol = some t ∨
      ∃ r ∈ ((Automaton.dfa d).step call).reported, (r.departure == k) = true ∧ r.previous = t := by
  rw [reported_step]
  cases hadded : ((Automaton.dfa d).step call).transition? with
  | none =>
    rw [hadded] at hwritten
    cases hwritten with
    | unchanged hedges => exact .inl (by rwa [target?, hedges])
  | some e =>
    rw [hadded] at hwritten
    cases hwritten with
    | connect =>
      rw [target?_connect]
      cases hk : (⟨e.source, e.symbol⟩ : Departure) == k with
      | false => exact .inl ht
      | true =>
        by_cases hne : t = e.target
        · exact .inl (by rw [hne]; rfl)
        · -- the old target is found under the new spelling of the departure
          have hprevious : d.target? e.source e.symbol = some t := by
            rwa [target?, Ledger.get?_congr hk]
          refine .inr ⟨{ e with previous := t }, ?_, hk, rfl⟩
          exact Option.mem_toList.2 (replaced?_eq_some_iff.2 ⟨rfl, hprevious, hne⟩)

end Dfa

/-! ### Whole histories -/

namespace Automaton

/-- What a history reports of the transitions that it adds, and where they lead now. -/
structure ReportsLosses (now : Automaton) (history : List Step) : Prop where
  /-- A step reports the replacement that it makes, if it makes one, and no other. -/
  reported : ∀ step ∈ history, ∃ r : Option Replacement,
    step.reported = r.toList ∧ ∀ r', r = some r' ↔ step.Replaces r'
  /-- The log names both states, the symbol and the target that was lost. -/
  worded : ∀ step ∈ history, ∀ event ∈ step.called.report, ∀ r shown,
    event.replacement? = some r → r.symbol.value.literal = .ok shown →
    event.line? = some (r.line shown)
  /-- Where a transition that was added does not lead to its target any more, a later step for its
      source and symbol reported the loss of that target. -/
  lost : ∀ before step behind e, history = before ++ step :: behind → step.transition? = some e →
    now.answer (.next (now.space.state e.source) e.symbol.value) ≠ .ok (.state (some e.target)) →
    ∃ later ∈ behind, ∃ r ∈ later.reported,
      (r.departure == e.departure) = true ∧ r.previous = e.target
  /-- Where nothing is reported, every transition that was added is there. -/
  kept : (∀ step ∈ history, step.reported = []) → ∀ step ∈ history, ∀ e, step.transition? = some e →
    now.answer (.next (now.space.state e.source) e.symbol.value) = .ok (.state (some e.target))

end Automaton

namespace Dfa

/-- The target of a transition that was added is in the table, or a later step reported its loss. -/
def Accounted (d : Dfa) (e : Transition) (behind : List Step) : Prop :=
  d.target? e.source e.symbol = some e.target ∨ ∃ later ∈ behind, ∃ r ∈ later.reported,
    (r.departure == e.departure) = true ∧ r.previous = e.target

/-- A further step keeps account of the transitions that were added. -/
theorem Accounted.step {d d' : Dfa} {call : Call} {e : Transition} {behind : List Step}
    (h : d.Accounted e behind)
    (hwritten : d.Written d' ((Automaton.dfa d).step call).transition?) :
    d'.Accounted e (behind ++ [(Automaton.dfa d).step call]) := by
  rcases h with ht | ⟨later, hlater, hreported⟩
  · rcases target?_step (k := e.departure) hwritten ht with ht' | hreported
    · exact .inl ht'
    · exact .inr ⟨_, List.mem_append_right _ (List.mem_singleton_self _), hreported⟩
  · exact .inr ⟨later, List.mem_append_left _ hlater, hreported⟩

/-- The transition that was added by the last step is in the table. -/
theorem accounted_of_written {d d' : Dfa} {e : Transition} (hwritten : d.Written d' (some e)) :
    d'.Accounted e [] := by
  cases hwritten with
  | connect =>
    refine .inl ?_
    rw [target?_connect, if_pos BEq.rfl]

theorem accounted_after (owner : Nat) (calls : List Call) :
    ∃ d, (Automaton.new .dfa owner).after calls = .dfa d ∧
      ∀ before step behind e, (Automaton.new .dfa owner).history calls = before ++ step :: behind →
        step.transition? = some e → d.Accounted e behind := by
  refine Automaton.history_induction (P := fun a steps => ∃ d, a = .dfa d ∧
    ∀ before step behind e, steps = before ++ step :: behind →
      step.transition? = some e → d.Accounted e behind) ⟨_, rfl, ?_⟩ ?_ calls
  · intro before step behind e hsteps
    exact absurd hsteps.symm (List.append_ne_nil_of_right_ne_nil _ (List.cons_ne_nil _ _))
  · rintro _ steps call ⟨d, rfl, h⟩
    obtain ⟨d', hd', hwritten⟩ := d.written_perform call
    refine ⟨d', hd', fun before step behind e hsteps he => ?_⟩
    rcases List.eq_nil_or_concat behind with rfl | ⟨behind, last, rfl⟩
    · -- the transition was added by the step itself
      obtain ⟨-, hlast⟩ := List.append_inj' hsteps rfl
      cases hlast
      exact accounted_of_written (he ▸ hwritten)
    · rw [List.concat_eq_append] at hsteps ⊢
      rw [← List.cons_append, ← List.append_assoc] at hsteps
      obtain ⟨hbefore, hlast⟩ := List.append_inj' hsteps rfl
      cases hlast
      exact (h before step behind e hbefore he).step hwritten

/-- The successor that is answered is the one in the table. -/
theorem Sound.answer_next_eq_iff {d : Dfa} (h : d.Sound) {s t : Nat} {c : Symbol} :
    (Automaton.dfa d).answer (.next (d.state s) c.value) = .ok (.state (some t)) ↔
      d.target? s c = some t := by
  have hanswer : s < d.size →
      (Automaton.dfa d).answer (.next (d.state s) c.value) = .ok (.state (d.target? s c)) :=
    fun hs => Automaton.next_dfa hs c
  constructor
  · intro hnext
    have hbind := (Automaton.next_of_dfa d _ _).symm.trans hnext
    obtain ⟨target, htarget, -⟩ := bind_eq_ok_iff.1 hbind
    rw [next_def] at htarget
    obtain ⟨s', hs', -⟩ := bind_eq_ok_iff.1 htarget
    obtain ⟨hlt, hstate⟩ := Registry.validate_eq_ok_iff.1 hs'
    rw [hanswer (Registry.state_injective hstate ▸ hlt)] at hnext
    exact Answer.state.inj (Except.ok.inj hnext)
  · intro ht
    obtain ⟨b, hmem, -⟩ := h.target?_eq_some_iff.1 ht
    rw [hanswer (h.within_transitions _ hmem).1, ht]

/-- A step of a sound automaton makes the replacement that it reports. -/
theorem Sound.replaces_iff {d : Dfa} (h : d.Sound) {call : Call} {r : Replacement} :
    ((Automaton.dfa d).step call).transition?.bind d.replaced? = some r ↔
      ((Automaton.dfa d).step call).Replaces r := by
  rw [Option.bind_eq_some_iff]
  constructor
  · rintro ⟨e, he, hr⟩
    obtain ⟨rfl, hprevious, hne⟩ := replaced?_eq_some_iff.1 hr
    exact ⟨he, h.answer_next_eq_iff.2 hprevious, hne⟩
  · rintro ⟨hadded, hnext, hne⟩
    exact ⟨_, hadded, replaced?_eq_some_iff.2 ⟨rfl, h.answer_next_eq_iff.1 hnext, hne⟩⟩

/-- **Every lost transition is reported, and only those.** Of the calls on a new deterministic
    automaton those report a replacement that succeed in adding a transition where there was another
    target just before. So a transition is in force until its loss is reported. -/
theorem reportsLosses_history (owner : Nat) (calls : List Call) :
    ((Automaton.new .dfa owner).after calls).ReportsLosses
      ((Automaton.new .dfa owner).history calls) := by
  obtain ⟨d, hd, haccounted⟩ := accounted_after owner calls
  have hsound := Automaton.sound_after_new .dfa owner calls
  rw [hd] at hsound ⊢
  have hsound : d.Sound := hsound
  refine ⟨fun step hstep => ?_, fun _ _ _ _ _ _ hr hshown => Event.line?_of_replacement? hr hshown,
    fun before step behind e hsteps he hnext => ?_, fun hnone step hstep e he => ?_⟩
  · -- the step is made by the automaton that the earlier calls left
    obtain ⟨earlier, call, rfl⟩ := Automaton.exists_step_of_mem_history hstep
    obtain ⟨d', hd', -⟩ := accounted_after owner earlier
    have hsound' := Automaton.sound_after_new .dfa owner earlier
    rw [hd'] at hsound' ⊢
    have hsound' : d'.Sound := hsound'
    exact ⟨_, d'.reported_step call, fun r => hsound'.replaces_iff⟩
  · rcases haccounted before step behind e hsteps he with ht | hlost
    · exact absurd (hsound.answer_next_eq_iff.2 ht) hnext
    · exact hlost
  · obtain ⟨before, behind, hsteps⟩ := List.append_of_mem hstep
    rcases haccounted before step behind e hsteps he with ht | ⟨later, hlater, r, hr, -⟩
    · exact hsound.answer_next_eq_iff.2 ht
    · -- a later loss would have been reported
      have hmem : later ∈ (Automaton.new .dfa owner).history calls := by
        rw [hsteps]
        exact List.mem_append_right _ (List.mem_cons_of_mem _ hlater)
      rw [hnone later hmem] at hr
      cases hr

/-- The transition on `1` leads back to the first state in the end, and the report on the call before
    that tells that it was lost in between. The fourth call is refused and reports nothing. -/
example :
    ((Automaton.new .dfa 0).history
        [.build (.addState (.truth true)), .build (.addState (.truth false)),
         .build (.addTransition (.state ⟨0, 0⟩) (.int 1) (.state ⟨0, 0⟩)),
         .build (.addTransition (.state ⟨0, 0⟩) (.int 1) (.state ⟨7, 0⟩)),
         .build (.addTransition (.state ⟨0, 0⟩) (.truth true) (.state ⟨1, 0⟩)),
         .build (.addTransition (.state ⟨0, 0⟩) (.int 1) (.state ⟨0, 0⟩))]).map Step.reported =
      [[], [], [], [], [⟨⟨0, ⟨.truth true, rfl⟩, 1⟩, 0⟩], [⟨⟨0, ⟨.int 1, rfl⟩, 0⟩, 1⟩]] := by
  decide +kernel

end Dfa

end FiniteAutomata

import FiniteAutomata.Proofs.Safety

namespace FiniteAutomata

/-!
# What a history puts into the tables

The calls of a history that succeed tell which transitions were added to an automaton, one after the
other. A call may name a source and a symbol even if it is refused, since its target is checked last.

* `Step.departure?`: the source and the symbol that a call names.
* `Step.transition?`, `Step.epsilon?`: the transition that a call adds.
* `Automaton.named`, `Automaton.added`, `Automaton.addedSilently`: the same for all calls of a history.
* `Automaton.exists_step_of_mem_history`: where a step of a history is made.
* `Automaton.history_induction`: what one call keeps true of an automaton and of the steps that led to
  it is true after any calls.
-/

/-- What is made of a further item comes last. -/
theorem filterMap_append_singleton {α β : Type} (f : α → Option β) (l : List α) (a : α) :
    (l ++ [a]).filterMap f = l.filterMap f ++ (f a).toList := by
  rw [List.filterMap_append]
  cases h : f a with
  | none => rw [List.filterMap_cons_none h]; rfl
  | some b => rw [List.filterMap_cons_some h]; rfl

/-- The departure of a transition. -/
def Transition.departure (t : Transition) : Departure := ⟨t.source, t.symbol⟩

namespace Step

/-- The source and the symbol that a call names: the one is a state of the automaton and the other can
    be a symbol. Nothing is asked of the target. -/
def departure? (s : Step) : Option Departure :=
  match s.call with
  | .build (.addTransition source symbol _) =>
    (s.before.space.validate source).toOption.bind fun source =>
      symbol.symbol.toOption.map fun symbol => ⟨source, symbol⟩
  | _ => none

/-- The transition that a call adds, its symbol as it is spelled there. -/
def transition? (s : Step) : Option Transition :=
  match s.call with
  | .build (.addTransition _ _ target) =>
    if s.succeeded then
      s.departure?.bind fun k =>
        (s.before.space.validate target).toOption.map fun target => ⟨k.source, k.symbol, target⟩
    else none
  | _ => none

/-- The epsilon transition that a call adds. -/
def epsilon? (s : Step) : Option (Nat × Nat) :=
  match s.call with
  | .build (.addEpsilon source target) =>
    if s.succeeded then
      (s.before.space.validate source).toOption.bind fun source =>
        (s.before.space.validate target).toOption.map fun target => (source, target)
    else none
  | _ => none

end Step

namespace Automaton

/-- A call on an automaton, as the first step of a history. -/
def step (a : Automaton) (call : Call) : Step := ⟨a, call, a.perform call⟩

/-- The departures that calls name, in order. -/
def named (a : Automaton) (calls : List Call) : List Departure :=
  (a.history calls).filterMap Step.departure?

/-- The transitions that calls add, in order and with repeats. -/
def added (a : Automaton) (calls : List Call) : List Transition :=
  (a.history calls).filterMap Step.transition?

/-- The epsilon transitions that calls add, in order and with repeats. -/
def addedSilently (a : Automaton) (calls : List Call) : List (Nat × Nat) :=
  (a.history calls).filterMap Step.epsilon?

variable {a : Automaton} {source symbol target : Value} {s t : Nat} {c : Symbol}

theorem succeeded_step (a : Automaton) (call : Construction) :
    (a.step (.build call)).succeeded = (a.build call).result.isOk := by
  rw [Step.succeeded]
  cases h : (a.build call).result with
  | error fault => simp only [step, perform, Built.called, h]; rfl
  | ok index => simp only [step, perform, Built.called, h]; rfl

theorem succeeded_step_of_error {call : Construction} {fault : Fault}
    (h : (a.build call).result = .error fault) : (a.step (.build call)).succeeded = false := by
  rw [succeeded_step, h]
  rfl

/-- A call that is refused adds nothing. -/
theorem transition?_step_of_error {call : Construction} {fault : Fault}
    (h : (a.build call).result = .error fault) : (a.step (.build call)).transition? = none := by
  cases call with
  | addTransition source symbol target =>
    show (if _ then _ else none) = none
    rw [succeeded_step_of_error h, if_neg Bool.false_ne_true]
  | _ => rfl

theorem epsilon?_step_of_error {call : Construction} {fault : Fault}
    (h : (a.build call).result = .error fault) : (a.step (.build call)).epsilon? = none := by
  cases call with
  | addEpsilon source target =>
    show (if _ then _ else none) = none
    rw [succeeded_step_of_error h, if_neg Bool.false_ne_true]
  | _ => rfl

theorem departure?_step (hs : a.space.validate source = .ok s) (hc : symbol.symbol = .ok c)
    (target : Value) :
    (a.step (.build (.addTransition source symbol target))).departure? = some ⟨s, c⟩ := by
  show (a.space.validate source).toOption.bind _ = _
  rw [hs, hc]
  rfl

/-- A call whose source or symbol is refused names nothing. -/
theorem departure?_step_of_error {fault : Fault}
    (h : (return (← a.space.validate source, ← symbol.symbol) : Except Fault (Nat × Symbol)) =
      .error fault) (target : Value) :
    (a.step (.build (.addTransition source symbol target))).departure? = none := by
  show (a.space.validate source).toOption.bind _ = none
  cases hs : a.space.validate source with
  | error fault => rfl
  | ok s =>
    rw [hs, ok_bind] at h
    cases hc : symbol.symbol with
    | error fault => rfl
    | ok c =>
      rw [hc] at h
      cases h

theorem transition?_step (hs : a.space.validate source = .ok s) (hc : symbol.symbol = .ok c)
    (ht : a.space.validate target = .ok t)
    (hok : (a.build (.addTransition source symbol target)).result.isOk = true) :
    (a.step (.build (.addTransition source symbol target))).transition? = some ⟨s, c, t⟩ := by
  rw [← succeeded_step] at hok
  show (if _ then Option.bind _ _ else none) = _
  rw [if_pos hok, departure?_step hs hc]
  show Option.map _ (a.space.validate target).toOption = _
  rw [ht]
  rfl

theorem epsilon?_step (hs : a.space.validate source = .ok s) (ht : a.space.validate target = .ok t)
    (hok : (a.build (.addEpsilon source target)).result.isOk = true) :
    (a.step (.build (.addEpsilon source target))).epsilon? = some (s, t) := by
  rw [← succeeded_step] at hok
  show (if _ then Option.bind (a.space.validate source).toOption _ else none) = _
  rw [if_pos hok, hs]
  show Option.map _ (a.space.validate target).toOption = _
  rw [ht]
  rfl

/-- Every step of a history is made on the automaton after the calls before it. -/
theorem exists_step_of_mem_history {calls : List Call} {step : Step} (h : step ∈ a.history calls) :
    ∃ before call, step = (a.after before).step call := by
  induction calls generalizing a with
  | nil => cases h
  | cons call rest ih =>
    rcases List.mem_cons.1 h with rfl | hrest
    · exact ⟨[], call, rfl⟩
    · obtain ⟨before, later, rfl⟩ := ih hrest
      exact ⟨call :: before, later, rfl⟩

/-- What is true of an automaton before any step, and stays true with every further step, is true
    after any calls. -/
theorem history_induction {P : Automaton → List Step → Prop} {a : Automaton} (hnil : P a [])
    (hstep : ∀ a steps call, P a steps → P (a.perform call).automaton (steps ++ [a.step call]))
    (calls : List Call) : P (a.after calls) (a.history calls) := by
  have hafter : ∀ (calls : List Call) (a : Automaton) (steps : List Step), P a steps →
      P (a.after calls) (steps ++ a.history calls) := by
    intro calls
    induction calls with
    | nil =>
      intro a steps h
      rwa [history, List.append_nil]
    | cons call rest ih =>
      intro a steps h
      have hrest := ih _ _ (hstep a steps call h)
      rwa [List.append_assoc] at hrest
  exact hafter calls a [] hnil

end Automaton

end FiniteAutomata

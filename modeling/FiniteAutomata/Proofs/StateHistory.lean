import FiniteAutomata.Proofs.Allocation
import FiniteAutomata.Proofs.Record

namespace FiniteAutomata

/-!
# The history of states

Only one sort of call adds a state, and none takes one away or changes it. So the states of a registry
tell how many were added, in what order and with what flags, whatever else was called. The states of an
automaton are those of a registry on which the same calls were made, and its initial state tells which
one was chosen last.

* `given`: the values that calls gave for the flags of new states.
* `Registry.after`, `Registry.returned`, `Automaton.returned`: several calls, and what those for new
  states result in.
* `Registry.flags_after`, `Registry.returned_eq`: the states of a registry after any calls.
* `Automaton.registry_after`, `Automaton.returned_eq_registry`: the states of an automaton are those of
  a registry.
* `Automaton.assigned`, `Automaton.chosen_after`: the states that were chosen as the initial one.
* `TellsStates`, `TellsInitial`, `tells_history`: what is answered after any calls.
-/

/-- The value that a call gives for the flag of a new state, if it adds one. -/
def Call.accepting? : Call → Option Value
  | .build (.addState accepting) => some accepting
  | _ => none

/-- The values that calls give for the flags of new states, in order: one for each state. -/
def given (calls : List Call) : List Value := calls.filterMap Call.accepting?

theorem given_cons (call : Call) (rest : List Call) :
    given (call :: rest) = call.accepting?.toList ++ given rest := by
  rw [given, List.filterMap_cons]
  cases call.accepting? <;> rfl

/-- What a call for a new state results in; nothing for any other call. -/
def Call.returned? (call : Call) (result : Except Fault Answer) : Option (Except Fault Answer) :=
  call.accepting?.map fun _ => result

/-! ### Registries -/

namespace Registry

/-- The registry after a call. A call that it does not know has no effect. -/
def afterOne (r : Registry) (call : Call) : Registry := ((r.perform? call).map (·.automaton)).getD r

/-- The registry after several calls. -/
def after (r : Registry) (calls : List Call) : Registry := calls.foldl afterOne r

/-- What the calls for new states result in, among several calls. -/
def returned (r : Registry) : List Call → List (Except Fault Answer)
  | [] => []
  | call :: rest =>
    ((r.perform? call).bind fun called => call.returned? called.result).toList ++
      (r.afterOne call).returned rest

/-- Only a call for a new state changes a registry. -/
theorem afterOne_eq (r : Registry) (call : Call) :
    r.afterOne call = (call.accepting?.map r.add).getD r := by
  cases call with
  | build call => cases call <;> rfl
  | ask query => cases query <;> rfl

theorem returned_cons (r : Registry) (call : Call) (rest : List Call) :
    r.returned (call :: rest) =
      (call.accepting?.map fun _ => .ok (.state (some r.size))).toList ++
        (r.afterOne call).returned rest := by
  cases call with
  | build call => cases call <;> rfl
  | ask query => cases query <;> rfl

theorem size_add (r : Registry) (accepting : Value) : (r.add accepting).size = r.size + 1 := by
  simp [add, size]

theorem owner_after (r : Registry) (calls : List Call) : (r.after calls).owner = r.owner := by
  induction calls generalizing r with
  | nil => rfl
  | cons call rest ih =>
    refine (ih (r.afterOne call)).trans ?_
    rw [afterOne_eq]
    cases call.accepting? <;> rfl

/-- Behind the flags that were there before come those that were given. -/
theorem flags_after (r : Registry) (calls : List Call) :
    (r.after calls).flags = r.flags ++ (given calls).map Value.isTrue := by
  induction calls generalizing r with
  | nil => exact (List.append_nil _).symm
  | cons call rest ih =>
    refine (ih (r.afterOne call)).trans ?_
    rw [given_cons, afterOne_eq]
    cases call.accepting? with
    | none => rfl
    | some accepting => exact List.append_assoc _ _ _

/-- Every new state is the next one. -/
theorem returned_eq (r : Registry) (calls : List Call) :
    r.returned calls =
      (List.range' r.size (given calls).length).map fun i => .ok (.state (some i)) := by
  induction calls generalizing r with
  | nil => rfl
  | cons call rest ih =>
    rw [returned_cons, ih, given_cons, afterOne_eq]
    cases call.accepting? with
    | none => rfl
    | some accepting =>
      simp only [Option.map_some, Option.getD_some, Option.toList_some, size_add,
        List.singleton_append, List.length_cons, List.range'_succ, List.map_cons]

theorem returned_new (owner : Nat) (calls : List Call) :
    ({ owner } : Registry).returned calls =
      (List.range (given calls).length).map fun i => .ok (.state (some i)) := by
  rw [returned_eq, List.range_eq_range']
  rfl

end Registry

/-! ### Automata -/

namespace Automaton

/-- What the calls for new states result in, among several calls. -/
def returned (a : Automaton) (calls : List Call) : List (Except Fault Answer) :=
  (a.history calls).filterMap fun step => step.call.returned? step.called.result

/-- A call does to the states of an automaton what it does to a registry. -/
theorem registry_perform (a : Automaton) (call : Call) :
    (a.perform call).automaton.space.toRegistry = a.space.toRegistry.afterOne call := by
  rw [Registry.afterOne_eq]
  cases call with
  | ask query =>
    rw [perform_ask]
    rfl
  | build call =>
    -- transitions and choices leave the states alone, and a registry does not know them
    show (a.build call).automaton.space.toRegistry = _
    cases call with
    | addState accepting => cases a <;> rfl
    | addTransition source symbol target => rw [space_addTransition]; rfl
    | addEpsilon source target => rw [space_addEpsilon]; rfl
    | setInitial state => rw [space_setInitial]; rfl

/-- The states of an automaton are those of a registry on which the same calls were made. -/
theorem registry_after (a : Automaton) (calls : List Call) :
    (a.after calls).space.toRegistry = a.space.toRegistry.after calls := by
  induction calls generalizing a with
  | nil => rfl
  | cons call rest ih =>
    refine (ih (a.perform call).automaton).trans ?_
    rw [registry_perform]
    rfl

theorem returned_eq_registry (a : Automaton) (calls : List Call) :
    a.returned calls = a.space.toRegistry.returned calls := by
  induction calls generalizing a with
  | nil => rfl
  | cons call rest ih =>
    have hrest := ih (a.perform call).automaton
    rw [registry_perform] at hrest
    rw [Registry.returned_cons, ← hrest, returned, history, List.filterMap_cons]
    cases call with
    | ask query => rfl
    | build call =>
      cases call with
      | addState accepting => cases a <;> rfl
      | _ => rfl

end Automaton

/-! ### Initial states -/

/-- The state that a step chooses as the initial one, if it succeeds in choosing one. -/
def Step.assigned? (s : Step) : Option Nat :=
  match s.call with
  | .build (.setInitial state) =>
    if s.succeeded then (s.before.space.validate state).toOption else none
  | _ => none

namespace Automaton

/-- The states that calls choose as the initial one, in order. -/
def assigned (a : Automaton) (calls : List Call) : List Nat :=
  (a.history calls).filterMap Step.assigned?

theorem assigned_cons (a : Automaton) (call : Call) (rest : List Call) :
    a.assigned (call :: rest) =
      (a.step call).assigned?.toList ++ (a.perform call).automaton.assigned rest := by
  show (a.step call :: (a.perform call).automaton.history rest).filterMap Step.assigned? = _
  rw [List.filterMap_cons]
  cases (a.step call).assigned? <;> rfl

/-- A step changes the choice of an initial state if it succeeds in choosing one. -/
theorem chosen_step (a : Automaton) (call : Call) :
    (a.perform call).automaton.space.chosen = (a.step call).assigned?.or a.space.chosen := by
  cases call with
  | ask query =>
    rw [perform_ask]
    rfl
  | build call =>
    show (a.build call).automaton.space.chosen = _
    cases call with
    | addState accepting => cases a <;> rfl
    | addTransition source symbol target => rw [space_addTransition]; rfl
    | addEpsilon source target => rw [space_addEpsilon]; rfl
    | setInitial state =>
      -- the call succeeds exactly if its argument names a state
      have hassigned : (a.step (.build (.setInitial state))).assigned? =
          if (a.step (.build (.setInitial state))).succeeded then
            (a.space.validate state).toOption else none := rfl
      rw [space_setInitial, hassigned, succeeded_step, result_setInitial_eq]
      cases a.space.validate state <;> rfl

/-- The choice of an initial state is the last one that succeeded. -/
theorem chosen_after (a : Automaton) (calls : List Call) :
    (a.after calls).space.chosen = (a.assigned calls).getLast?.or a.space.chosen := by
  induction calls generalizing a with
  | nil => rfl
  | cons call rest ih =>
    refine (ih (a.perform call).automaton).trans ?_
    rw [chosen_step, assigned_cons, List.getLast?_append, Option.or_assoc]
    cases (a.step call).assigned? <;> rfl

end Automaton

/-! ### What is answered -/

/-- What is answered about states and returned for new ones, when one was added for each of the given
    values and the truth of the value decided whether it accepts. -/
structure TellsStates (answer : StateQuery → Except Fault Answer)
    (returned : List (Except Fault Answer)) (owner : Nat) (given : List Value) : Prop where
  counted : answer .size = .ok (.count given.length)
  listed : answer .indexes = .ok (.set (List.range given.length))
  returned : returned = (List.range given.length).map fun i => .ok (.state (some i))
  recorded : answer .records = .ok (.records (given.mapIdx fun i v => ⟨i, v.isTrue⟩))
  lookedUp : ∀ (index : Int) (i : Nat),
    answer (.lookup index) = .ok (.state (some i)) ↔ i < given.length ∧ index = i
  /-- On both sides of the range no state is looked up. -/
  outside : ∀ index : Int, index < 0 ∨ given.length ≤ index →
    ∃ fault, answer (.lookup index) = .error fault
  contained : ∀ v : Value, ∃ b, answer (.contains v) = .ok (.flag b) ∧
    (b = true ↔ ∃ i < given.length, v = .state ⟨i, owner⟩)
  /-- A state keeps its position and the flag with which it was added. -/
  kept : ∀ (i : Nat) (v : Value), given[i]? = some v →
    answer (.validate (.state ⟨i, owner⟩)) = .ok (.state (some i)) ∧
      answer (.accepting (.state ⟨i, owner⟩)) = .ok (.flag v.isTrue) ∧
      answer (.record (.state ⟨i, owner⟩)) = .ok (.record ⟨i, v.isTrue⟩)

/-- What is answered about the initial state, when so many states were added and the assigned ones were
    chosen one after the other: it is the one chosen last, otherwise the first one that was added. -/
structure TellsInitial (now : Automaton) (given : List Value) (assigned : List Nat) : Prop where
  initial : now.answer .initial =
    .ok (.state (assigned.getLast?.or (List.range given.length).head?))
  /-- There is none exactly while there is no state. -/
  none_iff : now.answer .initial = .ok (.state none) ↔ given = []

namespace Registry

variable {r : Registry} {values : List Value}

theorem size_of_flags (h : r.flags = values.map Value.isTrue) : r.size = values.length := by
  rw [size, h, List.length_map]

theorem accepts_of_flags (h : r.flags = values.map Value.isTrue) {i : Nat} {v : Value}
    (hv : values[i]? = some v) : r.accepts i = v.isTrue := by
  rw [accepts, h, List.getD_eq_getElem?_getD, List.getElem?_map, hv]
  rfl

theorem records_of_flags (h : r.flags = values.map Value.isTrue) :
    r.indexes.map r.recordAt = values.mapIdx fun i v => ⟨i, v.isTrue⟩ := by
  refine List.ext_getElem (by simp [indexes, size_of_flags h]) fun i _ hi => ?_
  rw [List.length_mapIdx] at hi
  simp only [indexes, List.getElem_map, List.getElem_range, List.getElem_mapIdx, recordAt,
    accepts_of_flags h (List.getElem?_eq_getElem hi)]

/-- A registry with the flags that were given answers for the states. -/
theorem tellsStates (h : r.flags = values.map Value.isTrue)
    {returned : List (Except Fault Answer)}
    (hreturned : returned = (List.range values.length).map fun i => .ok (.state (some i))) :
    TellsStates r.answer returned r.owner values := by
  have hsize := size_of_flags h
  refine ⟨?_, ?_, hreturned, ?_, fun index i => ?_, fun index hindex => ?_, fun v => ?_,
    fun i v hv => ?_⟩
  · rw [answer, hsize]
  · rw [answer, indexes, hsize]
  · rw [answer, records_of_flags h]
  · rw [← hsize, ← lookup_eq_ok_iff, answer]
    cases r.lookup index <;> simp
  · rw [answer, lookup, if_neg (by omega)]
    exact ⟨_, rfl⟩
  · refine ⟨r.contains v, rfl, ?_⟩
    rw [contains_iff_exists_state, hsize]
    rfl
  · have hi : i < r.size := hsize ▸ (List.getElem?_eq_some_iff.1 hv).1
    have hvalid : r.validate (.state ⟨i, r.owner⟩) = .ok i := validate_state hi
    simp only [answer, hvalid, ok_bind, pure_eq_ok, recordAt, accepts_of_flags h hv, and_self]

/-- A new registry answers for the states that were added to it. -/
theorem tellsStates_after (owner : Nat) (calls : List Call) :
    TellsStates (({ owner } : Registry).after calls).answer (({ owner } : Registry).returned calls)
      owner (given calls) := by
  have hflags := flags_after { owner } calls
  rw [List.nil_append] at hflags
  have htells := tellsStates hflags (returned_new owner calls)
  rwa [owner_after] at htells

end Registry

namespace Automaton

/-- A new automaton answers for the states that were added to it. -/
theorem tellsStates_after (kind : AutomatonKind) (owner : Nat) (calls : List Call) :
    TellsStates (fun query => ((new kind owner).after calls).answer (.states query))
      ((new kind owner).returned calls) owner (given calls) := by
  have htells := Registry.tellsStates_after owner calls
  rw [← registry_new kind owner, ← registry_after, ← returned_eq_registry] at htells
  exact htells

/-- A new automaton answers for the choices of an initial state. -/
theorem tellsInitial_after (kind : AutomatonKind) (owner : Nat) (calls : List Call) :
    TellsInitial ((new kind owner).after calls) (given calls) ((new kind owner).assigned calls) := by
  have hsize : ((new kind owner).after calls).space.size = (given calls).length := by
    rw [registry_after, registry_new]
    exact Registry.size_of_flags (Registry.flags_after { owner } calls)
  have hchosen : ((new kind owner).after calls).space.chosen =
      ((new kind owner).assigned calls).getLast? := by
    have hnew : (new kind owner).space.chosen = none := by cases kind <;> rfl
    rw [chosen_after, hnew, Option.or_none]
  have hinitial := ((new kind owner).after calls).space.initial?_eq_or
  rw [hchosen, hsize] at hinitial
  refine ⟨by rw [answer_initial, hinitial], ?_⟩
  have hnone := (sound_after_new kind owner calls).space.initial_eq_none_iff
  rw [hsize, List.length_eq_zero_iff] at hnone
  rw [answer_initial, ← hnone, Except.ok.injEq, Answer.state.injEq]

end Automaton

/-- **The states tell their history.** After any calls on a new automaton or a new registry, refused ones
    and questions included, there is one state for each call that added one, in order and with the flag
    that was given for it. The initial state is the one that was chosen last, otherwise the first one. -/
theorem tells_history (owner : Nat) (calls : List Call) :
    (∀ kind,
      TellsStates (fun query => ((Automaton.new kind owner).after calls).answer (.states query))
        ((Automaton.new kind owner).returned calls) owner (given calls) ∧
      TellsInitial ((Automaton.new kind owner).after calls) (given calls)
        ((Automaton.new kind owner).assigned calls)) ∧
    TellsStates (({ owner } : Registry).after calls).answer (({ owner } : Registry).returned calls)
      owner (given calls) :=
  ⟨fun kind => ⟨Automaton.tellsStates_after kind owner calls,
    Automaton.tellsInitial_after kind owner calls⟩, Registry.tellsStates_after owner calls⟩

/-- A refused choice leaves the first state the initial one, and so does a state added later. -/
example :
    ((Automaton.new .nfa 0).after
        [.build (.addState (.int 0)), .build (.setInitial (.state ⟨1, 0⟩)),
         .build (.addState (.text "x"))]).answer .initial = .ok (.state (some 0)) := by
  decide +kernel

end FiniteAutomata

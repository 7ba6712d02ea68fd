import FiniteAutomata.Proofs.Outcome
import FiniteAutomata.Registry

namespace FiniteAutomata

/-!
# States and their names

A value names a state of a registry exactly if it is the name that the registry gave to one of its
states.

* `Registry.state`: the name of the state at a position, as a value.
* `Registry.validate_eq_ok_iff`: which values name which states.
* `Registry.contains_iff`, `Registry.validate_eq_error`: all other values are refused.
* `Registry.lookup_eq_ok_iff`: which positions have which states.
* `Registry.validateAll_map_state`, `Registry.validateAll_eq_error`: several states by their names, and
  the first value that names none.
* `StateSpace.Sound`, `StateSpace.initial?_eq_or`: the initial state is one of the states, the first one
  for want of a choice.
-/

namespace Registry

/-- The name of the state at a position, as it is given to a call. -/
def state (r : Registry) (index : Nat) : Value := .state (r.id index)

/-- Different states have different names. -/
theorem state_injective {r : Registry} : Function.Injective r.state := by
  intro s t h
  exact Int.ofNat.inj (congrArg StateId.index (Value.state.inj h))

theorem owns_iff {r : Registry} {id : StateId} :
    r.owns id = true ↔ id.owner = r.owner ∧ 0 ≤ id.index ∧ id.index < r.size := by
  simp [owns, and_assoc]

/-- Which states accept is told by the flags. -/
theorem accepts_congr {r r' : Registry} (h : r.flags = r'.flags) : r.accepts = r'.accepts := by
  funext s
  rw [accepts, accepts, h]

theorem accepts_eq_getElem {r : Registry} {s : Nat} (hs : s < r.flags.length) :
    r.accepts s = r.flags[s] := by
  simp [accepts, hs]

/-- A value names a state exactly if it is the name of that state. -/
theorem validate_eq_ok_iff {r : Registry} {a : Value} {s : Nat} :
    r.validate a = .ok s ↔ s < r.size ∧ a = r.state s := by
  constructor
  · intro h
    cases a with
    | state id =>
      obtain ⟨index, owner⟩ := id
      rw [validate] at h
      split at h
      · rename_i howns
        obtain ⟨howner, hnonneg, hlt⟩ := owns_iff.1 howns
        have hs : s = index.toNat := by cases h; rfl
        simp only at howner hnonneg hlt
        refine ⟨by omega, ?_⟩
        simp only [state, id, Value.state.injEq, StateId.mk.injEq]
        exact ⟨by omega, howner⟩
      · cases h
    | _ => cases h
  · rintro ⟨hs, rfl⟩
    have howns : r.owns (r.id s) = true := owns_iff.2 ⟨rfl, by simp [id], by simpa [id] using hs⟩
    rw [state, validate, if_pos howns]
    simp [id]

theorem validate_state {r : Registry} {s : Nat} (hs : s < r.size) :
    r.validate (r.state s) = .ok s :=
  validate_eq_ok_iff.2 ⟨hs, rfl⟩

theorem mem_indexes {r : Registry} {i : Nat} : i ∈ r.indexes ↔ i < r.size := List.mem_range

theorem validate_eq_ok_iff_mem {r : Registry} {v : Value} {i : Nat} :
    r.validate v = .ok i ↔ i ∈ r.indexes ∧ v = .state ⟨i, r.owner⟩ := by
  rw [validate_eq_ok_iff, mem_indexes]
  exact Iff.rfl

/-- A value that is refused is told to name no state. -/
theorem validate_eq_error {r : Registry} {v : Value} {fault : Fault}
    (h : r.validate v = .error fault) : ∃ reason, fault = v.invalid reason := by
  cases v with
  | state id =>
    rw [validate] at h
    split at h
    · cases h
    · cases h
      exact ⟨_, rfl⟩
  | _ =>
    cases h
    exact ⟨_, rfl⟩

/-- The second check agrees with the first one. -/
theorem contains_iff {r : Registry} {v : Value} :
    r.contains v = true ↔ ∃ i ∈ r.indexes, v = .state ⟨i, r.owner⟩ := by
  constructor
  · intro h
    cases v with
    | state id =>
      have howns : r.owns id = true := h
      have hvalid : r.validate (.state id) = .ok id.index.toNat := by rw [validate, if_pos howns]
      exact ⟨_, validate_eq_ok_iff_mem.1 hvalid⟩
    | _ => cases h
  · rintro ⟨i, hi, rfl⟩
    exact owns_iff.2 ⟨rfl, Int.natCast_nonneg i, by simpa using mem_indexes.1 hi⟩

/-- The state at a position, where there are so many. -/
theorem lookup_eq_ok_iff {r : Registry} {index : Int} {s : Nat} :
    r.lookup index = .ok s ↔ s < r.size ∧ index = s := by
  rw [lookup]
  split
  · rw [Except.ok.injEq]
    omega
  · simp only [reduceCtorEq, false_iff]
    omega

/-- A value is contained exactly if it is the name of a state. -/
theorem contains_iff_exists_state {r : Registry} {v : Value} :
    r.contains v = true ↔ ∃ s < r.size, v = r.state s := by
  simp only [contains_iff, mem_indexes]
  exact Iff.rfl

theorem contains_state {r : Registry} {s : Nat} (hs : s < r.size) : r.contains (r.state s) = true :=
  contains_iff_exists_state.2 ⟨s, hs, rfl⟩

/-- Several states by their names. -/
theorem validateAll_map_state {r : Registry} {states : List Nat} (h : ∀ s ∈ states, s < r.size) :
    r.validateAll (states.map r.state) = .ok states := by
  induction states with
  | nil => rfl
  | cons s rest ih =>
    have hs := validate_state (h s List.mem_cons_self)
    have hrest := ih fun t ht => h t (List.mem_cons_of_mem s ht)
    rw [List.map_cons, validateAll, hs, ok_bind, hrest, ok_bind, pure_eq_ok]

/-- Values that are all contained are the names of states, in order. -/
theorem exists_map_state {r : Registry} {items : List Value}
    (h : ∀ v ∈ items, r.contains v = true) :
    ∃ states : List Nat, items = states.map r.state ∧ ∀ s ∈ states, s < r.size := by
  induction items with
  | nil => exact ⟨[], rfl, by simp⟩
  | cons v rest ih =>
    obtain ⟨hv, hrest⟩ := List.forall_mem_cons.1 h
    obtain ⟨s, hs, rfl⟩ := contains_iff_exists_state.1 hv
    obtain ⟨states, rfl, hstates⟩ := ih hrest
    exact ⟨s :: states, rfl, List.forall_mem_cons.2 ⟨hs, hstates⟩⟩

/-- Several values are refused for the first of them that names no state. -/
theorem validateAll_eq_error {r : Registry} {before behind : List Value} {v : Value}
    (hbefore : ∀ u ∈ before, r.contains u = true) {fault : Fault}
    (hv : r.validate v = .error fault) :
    r.validateAll (before ++ v :: behind) = .error fault := by
  induction before with
  | nil => rw [List.nil_append, validateAll, hv, error_bind]
  | cons u rest ih =>
    obtain ⟨hu, hrest⟩ := List.forall_mem_cons.1 hbefore
    obtain ⟨s, hs, rfl⟩ := contains_iff_exists_state.1 hu
    rw [List.cons_append, validateAll, validate_state hs, ok_bind, ih hrest, error_bind]

end Registry

namespace StateSpace

/-- The initial state is one of the states. -/
def Sound (s : StateSpace) : Prop := ∀ index, s.chosen = some index → index < s.size

/-- The initial state is the one that was chosen, otherwise the first of all states. -/
theorem initial?_eq_or (s : StateSpace) : s.initial? = s.chosen.or (List.range s.size).head? := by
  rw [initial?]
  cases s.chosen with
  | some index => rfl
  | none => cases s.size <;> simp [List.range_succ_eq_map]

theorem size_addState (s : StateSpace) (accepting : Value) :
    (s.addState accepting).size = s.size + 1 := by
  simp [addState, Registry.add, Registry.size]

theorem Sound.addState {s : StateSpace} (h : s.Sound) (accepting : Value) :
    (s.addState accepting).Sound := by
  intro index hindex
  rw [size_addState]
  have := h index hindex
  omega

theorem Sound.initial_lt {s : StateSpace} (h : s.Sound) {index : Nat}
    (hinitial : s.initial? = some index) : index < s.size := by
  rw [initial?] at hinitial
  split at hinitial
  · rename_i hchosen
    cases hinitial
    exact h _ hchosen
  · split at hinitial
    · rename_i hpos
      cases hinitial
      exact hpos
    · cases hinitial

/-- There is an initial state exactly if there is any state. -/
theorem Sound.initial_eq_none_iff {s : StateSpace} (h : s.Sound) :
    s.initial? = none ↔ s.size = 0 := by
  rw [initial?]
  split
  · rename_i hchosen
    have := h _ hchosen
    simp only [reduceCtorEq, false_iff]
    omega
  · split
    · simp only [reduceCtorEq, false_iff]
      omega
    · simp only [true_iff]
      omega

theorem setInitial_eq_ok_iff {s s' : StateSpace} {state : Value} :
    s.setInitial state = .ok s' ↔
      ∃ index, index < s.size ∧ state = s.state index ∧ s' = { s with chosen := some index } := by
  rw [setInitial, bind_eq_ok_iff]
  constructor
  · rintro ⟨index, hindex, h⟩
    cases h
    obtain ⟨hlt, hstate⟩ := Registry.validate_eq_ok_iff.1 hindex
    exact ⟨index, hlt, hstate, rfl⟩
  · rintro ⟨index, hlt, hstate, rfl⟩
    exact ⟨index, Registry.validate_eq_ok_iff.2 ⟨hlt, hstate⟩, rfl⟩

theorem setInitial_state {space : StateSpace} {s : Nat} (hs : s < space.size) :
    space.setInitial (space.state s) = .ok { space with chosen := some s } :=
  setInitial_eq_ok_iff.2 ⟨s, hs, rfl, rfl⟩

end StateSpace

end FiniteAutomata

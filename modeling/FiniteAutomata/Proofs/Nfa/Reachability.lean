import FiniteAutomata.Proofs.Nfa.Acceptance
import FiniteAutomata.Proofs.Renumbering
import FiniteAutomata.Proofs.Showable
import Mathlib.Logic.Relation

namespace FiniteAutomata.Nfa

/-!
# Epsilon closures are reachability

The epsilon closure of some states holds the states to which the listed epsilon transitions lead
from them. So it is the least set that holds the given states and is closed under epsilon
transitions, and the other laws of closures follow.

* `Silent`, `Reaches`: one epsilon transition, and any number of them.
* `Sound.mem_closureOf_iff`: closures by the listed epsilon transitions.
* `Sound.closed_closureOf`, `Sound.closureOf_least`, `Sound.closureOf_mono`,
  `Sound.closureOf_idem`, `Sound.mem_closureOf_append_iff`: the laws of closures.
* `epsilonClosure_eq_error`: a closure is refused for the first value that names no state.
* `NamesOwn`: a value names states of the automaton.
* `ExactClosures`: what is true of the epsilon closures of an automaton.
* `epsilonClosure_exact`: it is true after any calls.
-/

/-- There is an epsilon transition from one state to the other. -/
def Silent (n : Nfa) (s t : Nat) : Prop := (s, t) ∈ n.epsilonTransitions

/-- Epsilon transitions lead from one state to the other: none, one or several. -/
def Reaches (n : Nfa) : Nat → Nat → Prop := Relation.ReflTransGen n.Silent

/-- No epsilon transition leads out of the set. -/
def Closed (n : Nfa) (set : StateSet) : Prop := ∀ s t, s ∈ set → n.Silent s t → t ∈ set

variable {n : Nfa}

/-! ### Reachability -/

/-- What a search finds is what the listed epsilon transitions lead to. -/
theorem Sound.reached_iff_reaches (h : n.Sound) {states : List Nat} {t : Nat} :
    Reached n.epsilonTargets states t ↔ ∃ s ∈ states, n.Reaches s t := by
  constructor
  · intro ht
    induction ht with
    | seed hs => exact ⟨_, hs, .refl⟩
    | follow _ hedge ih =>
      obtain ⟨s, hs, hreaches⟩ := ih
      exact ⟨s, hs, hreaches.tail (h.mem_epsilonTargets_iff.1 hedge)⟩
  · rintro ⟨s, hs, hreaches⟩
    induction hreaches with
    | refl => exact .seed hs
    | tail _ hedge ih => exact ih.follow (h.mem_epsilonTargets_iff.2 hedge)

/-- An epsilon closure holds what the listed epsilon transitions lead to. -/
theorem Sound.mem_closureOf_iff (h : n.Sound) {states : List Nat} {t : Nat} :
    t ∈ n.closureOf states ↔ ∃ s ∈ states, n.Reaches s t := by
  rw [mem_closureOf, h.reached_iff_reaches]

/-- What a state of a closed set leads to is in the set. -/
theorem Closed.mem_of_reaches {set : StateSet} (hclosed : n.Closed set) {s t : Nat} (hs : s ∈ set)
    (ht : n.Reaches s t) : t ∈ set := by
  induction ht with
  | refl => exact hs
  | tail _ hedge ih => exact hclosed _ _ ih hedge

/-! ### Laws of closures -/

section Laws

variable {given given' : List Nat}

theorem subset_closureOf (n : Nfa) (given : List Nat) : given ⊆ n.closureOf given := by
  intro s hs
  exact mem_closureOf.2 (.seed hs)

theorem Sound.closed_closureOf (h : n.Sound) (given : List Nat) : n.Closed (n.closureOf given) := by
  intro s t hs hedge
  exact mem_closureOf.2 ((mem_closureOf.1 hs).follow (h.mem_epsilonTargets_iff.2 hedge))

/-- A closed set that holds the given states holds their closure. -/
theorem Sound.closureOf_least (h : n.Sound) {set : StateSet} (hgiven : given ⊆ set)
    (hclosed : n.Closed set) : n.closureOf given ⊆ set := by
  intro t ht
  obtain ⟨s, hs, hreaches⟩ := h.mem_closureOf_iff.1 ht
  exact hclosed.mem_of_reaches (hgiven hs) hreaches

/-- The closure depends on which states are given, and not on their order. -/
theorem closureOf_congr (h : ∀ s, s ∈ given ↔ s ∈ given') :
    n.closureOf given = n.closureOf given' := by
  refine (ascends_closureOf n given).eq_of_mem_iff (ascends_closureOf n given') fun t => ?_
  rw [mem_closureOf, mem_closureOf]
  exact ⟨fun ht => ht.trans fun s hs => .seed ((h s).1 hs),
    fun ht => ht.trans fun s hs => .seed ((h s).2 hs)⟩

theorem Sound.closureOf_mono (h : n.Sound) (hsubset : given ⊆ given') :
    n.closureOf given ⊆ n.closureOf given' :=
  h.closureOf_least (List.Subset.trans hsubset (subset_closureOf n given'))
    (h.closed_closureOf given')

theorem Sound.closureOf_idem (h : n.Sound) (given : List Nat) :
    n.closureOf (n.closureOf given) = n.closureOf given := by
  refine (ascends_closureOf n _).eq_of_mem_iff (ascends_closureOf n given) fun t => ⟨?_, ?_⟩
  · intro ht
    exact h.closureOf_least (List.Subset.refl _) (h.closed_closureOf given) ht
  · intro ht
    exact subset_closureOf n _ ht

theorem Sound.mem_closureOf_append_iff (h : n.Sound) {t : Nat} :
    t ∈ n.closureOf (given ++ given') ↔ t ∈ n.closureOf given ∨ t ∈ n.closureOf given' := by
  simp only [h.mem_closureOf_iff, List.mem_append, or_and_right, exists_or]

end Laws

/-! ### Closures of values -/

/-- The value is the name of a state of the automaton, or it lists the names of several ones, in any
    order and with any repeats. -/
structure NamesOwn (n : Nfa) (v : Value) (given : List Nat) : Prop where
  names : n.Names v given
  lt : ∀ s ∈ given, s < n.size

theorem NamesOwn.epsilonClosure_eq {v : Value} {given : List Nat} (h : n.NamesOwn v given) :
    n.epsilonClosure v = .ok (n.closureOf given) :=
  epsilonClosure_of_names h.names h.lt

/-- A value whose items are all contained names the states that are its items. -/
theorem exists_namesOwn {v : Value} {items : List Value} (hitems : v.items? = some items)
    (h : ∀ u ∈ items, n.contains u = true) :
    ∃ given, n.NamesOwn v given ∧ ∀ s, s ∈ given ↔ n.state s ∈ items := by
  obtain ⟨states, rfl, hlt⟩ := Registry.exists_map_state h
  refine ⟨states, ⟨.several hitems, hlt⟩, fun s => ?_⟩
  rw [List.mem_map_of_injective Registry.state_injective]

/-- A closure is refused for the first value that names no state. -/
theorem epsilonClosure_eq_error {v u : Value} {before behind : List Value}
    (hitems : v.items? = some (before ++ u :: behind))
    (hbefore : ∀ x ∈ before, n.contains x = true) (hu : n.contains u = false) :
    ∃ reason, n.epsilonClosure v = .error (u.invalid reason) := by
  cases hvalid : n.validate u with
  | ok s =>
    have hcontains : n.contains u = true :=
      Registry.contains_iff.2 ⟨s, Registry.validate_eq_ok_iff_mem.1 hvalid⟩
    rw [hu] at hcontains
    cases hcontains
  | error fault =>
    obtain ⟨reason, rfl⟩ := Registry.validate_eq_error hvalid
    have hall : n.validateAll (before ++ u :: behind) = .error (u.invalid reason) :=
      Registry.validateAll_eq_error hbefore hvalid
    refine ⟨reason, ?_⟩
    cases v with
    | state id => cases hitems
    | _ => simp only [epsilonClosure_def, Value.word, hitems, ok_bind, hall, error_bind]

/-! ### Exact closures -/

/-- What is true of the epsilon closures of an automaton. -/
structure ExactClosures (n : Nfa) : Prop where
  /-- Whatever lists values that are all contained names states of the automaton. -/
  named : ∀ v items, v.items? = some items → (∀ u ∈ items, n.contains u = true) →
    ∃ given, n.NamesOwn v given ∧ ∀ s, s ∈ given ↔ n.state s ∈ items
  /-- The closure of states of the automaton is the set of those to which epsilon transitions lead
      from one of them. -/
  reaches : ∀ v given, n.NamesOwn v given → ∃ set, n.epsilonClosure v = .ok set ∧ set.Ascends ∧
    ∀ t, t ∈ set ↔ ∃ s ∈ given, n.Reaches s t
  /-- It is the least closed set that holds them. -/
  least : ∀ v given set, n.NamesOwn v given → n.epsilonClosure v = .ok set →
    given ⊆ set ∧ n.Closed set ∧ ∀ set', given ⊆ set' → n.Closed set' → set ⊆ set'
  /-- The closure of a closure is that closure, however it is listed. -/
  idempotent : ∀ v given set, n.NamesOwn v given → n.epsilonClosure v = .ok set →
    (∃ given', n.NamesOwn (n.setValue set) given') ∧
      ∀ w given', n.NamesOwn w given' → (∀ s, s ∈ given' ↔ s ∈ set) → n.epsilonClosure w = .ok set
  monotone : ∀ v v' given given' set set', n.NamesOwn v given → n.NamesOwn v' given' →
    n.epsilonClosure v = .ok set → n.epsilonClosure v' = .ok set' → given ⊆ given' → set ⊆ set'
  /-- The closure of a union is the union of the closures. -/
  union : ∀ v v' w given given' both set set' union, n.NamesOwn v given → n.NamesOwn v' given' →
    n.NamesOwn w both → (∀ s, s ∈ both ↔ s ∈ given ∨ s ∈ given') →
    n.epsilonClosure v = .ok set → n.epsilonClosure v' = .ok set' → n.epsilonClosure w = .ok union →
    ∀ t, t ∈ union ↔ t ∈ set ∨ t ∈ set'
  /-- A single state is as good as a list of it alone. -/
  single : ∀ id, n.epsilonClosure (.state id) = n.epsilonClosure (.list [.state id])
  /-- Where values name no state, the first such value is refused, because it names none. -/
  refused : ∀ (v u : Value) (before behind : List Value), v.items? = some (before ++ u :: behind) →
    (∀ x ∈ before, n.contains x = true) → n.contains u = false → u.Showable → ∃ shown reason,
      u.literal = .ok shown ∧ n.epsilonClosure v = .error (.invalidState u shown reason)
  /-- If it cannot be shown, it is refused as too long. -/
  unshown : ∀ (v u : Value) (before behind : List Value), v.items? = some (before ++ u :: behind) →
    (∀ x ∈ before, n.contains x = true) → n.contains u = false → ¬ u.Showable →
      n.epsilonClosure v = .error .numberTooLong

theorem Sound.exactClosures (h : n.Sound) : n.ExactClosures where
  named v items := exists_namesOwn
  reaches v given hv := by
    refine ⟨_, hv.epsilonClosure_eq, ascends_closureOf n given, fun t => ?_⟩
    exact h.mem_closureOf_iff
  least v given set hv hset := by
    rw [hv.epsilonClosure_eq, Except.ok.injEq] at hset
    subst hset
    exact ⟨subset_closureOf n given, h.closed_closureOf given, fun set' => h.closureOf_least⟩
  idempotent v given set hv hset := by
    rw [hv.epsilonClosure_eq, Except.ok.injEq] at hset
    subst hset
    refine ⟨⟨_, .several rfl, (h.within_closureOf hv.lt).lt⟩, fun w given' hw hmem => ?_⟩
    rw [hw.epsilonClosure_eq, closureOf_congr hmem, h.closureOf_idem]
  monotone v v' given given' set set' hv hv' hset hset' hsubset := by
    rw [hv.epsilonClosure_eq, Except.ok.injEq] at hset
    rw [hv'.epsilonClosure_eq, Except.ok.injEq] at hset'
    subst hset hset'
    exact h.closureOf_mono hsubset
  union v v' w given given' both set set' union hv hv' hw hboth hset hset' hunion := by
    rw [hv.epsilonClosure_eq, Except.ok.injEq] at hset
    rw [hv'.epsilonClosure_eq, Except.ok.injEq] at hset'
    rw [hw.epsilonClosure_eq, Except.ok.injEq] at hunion
    subst hset hset' hunion
    intro t
    have happend : ∀ s, s ∈ both ↔ s ∈ given ++ given' := fun s => by rw [hboth, List.mem_append]
    rw [closureOf_congr happend, h.mem_closureOf_append_iff]
  single _ := rfl
  refused v u before behind hitems hbefore hu hshowable := by
    obtain ⟨reason, hreason⟩ := epsilonClosure_eq_error hitems hbefore hu
    obtain ⟨shown, hshown, hinvalid⟩ := Value.invalid_of_showable hshowable
    exact ⟨shown, reason, hshown, hreason.trans (congrArg Except.error (hinvalid reason))⟩
  unshown v u before behind hitems hbefore hu hshowable := by
    obtain ⟨reason, hreason⟩ := epsilonClosure_eq_error hitems hbefore hu
    exact hreason.trans (congrArg Except.error (Value.invalid_of_not_showable hshowable reason))

/-- **Epsilon closures are reachability.** After any calls, refused ones included, the epsilon
    closure of states of the automaton is the set of states to which the listed epsilon transitions
    lead from one of them, and of anything else it is refused for the first value that names no
    state. -/
theorem epsilonClosure_exact (owner : Nat) (calls : List Construction) :
    ((new owner).buildAll calls).ExactClosures :=
  (sound_buildAll_new owner calls).exactClosures

/-- On a cycle of two epsilon transitions the closure of one state is what it reaches. A list with a
    state that was not added is refused for that one, whatever stands behind it. -/
theorem cycle_closures_exact :
    let n := (new 0).buildAll cycleCalls
    (∃ set, n.epsilonClosure (.list [.state ⟨1, 0⟩]) = .ok set ∧ ∀ t, t ∈ set ↔ n.Reaches 1 t) ∧
      ∃ shown reason, n.epsilonClosure (.list [.state ⟨1, 0⟩, .state ⟨7, 0⟩, .absent]) =
        .error (.invalidState (.state ⟨7, 0⟩) shown reason) := by
  intro n
  have hexact : n.ExactClosures := epsilonClosure_exact 0 cycleCalls
  constructor
  · obtain ⟨set, hset, -, hmem⟩ := hexact.reaches (.list [.state ⟨1, 0⟩]) [1]
      ⟨.several rfl, by decide +kernel⟩
    exact ⟨set, hset, fun t => (hmem t).trans (by simp)⟩
  · obtain ⟨shown, reason, -, hrefused⟩ := hexact.refused
      (.list [.state ⟨1, 0⟩, .state ⟨7, 0⟩, .absent]) (.state ⟨7, 0⟩) [.state ⟨1, 0⟩] [.absent] rfl
      (by decide +kernel) (by decide +kernel) (Value.showable_state (by decide))
    exact ⟨shown, reason, hrefused⟩

/-- A number that is too long to be shown is no state either, but it is not refused as such. -/
theorem too_long_for_closure :
    let result := (new 0).epsilonClosure (.list [.int (10 ^ 4300)])
    (new 0).contains (.int (10 ^ 4300)) = false ∧ result = .error .numberTooLong ∧
      ∀ shown reason, result ≠ .error (.invalidState (.int (10 ^ 4300)) shown reason) := by
  intro result
  have hexact : (new 0).ExactClosures := (sound_buildAll_new 0 []).exactClosures
  have hrefused : result = .error .numberTooLong :=
    hexact.unshown _ _ [] [] rfl (by simp) rfl Value.not_showable_int
  refine ⟨rfl, hrefused, fun shown reason heq => ?_⟩
  rw [hrefused] at heq
  cases heq

/-- On a cycle of two epsilon transitions each state reaches both. -/
example : ((new 0).buildAll cycleCalls).epsilonClosure (.state ⟨1, 0⟩) = .ok [0, 1] := by
  decide +kernel

end FiniteAutomata.Nfa

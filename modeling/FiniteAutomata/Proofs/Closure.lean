import FiniteAutomata.Nfa.Worklist
import FiniteAutomata.Proofs.Collection.Ascending
import Mathlib.Data.List.Basic
import Mathlib.Data.List.Nodup

namespace FiniteAutomata

/-!
# Worklists compute closures

The states found by a worklist are those that wait and those that were visited, each of them once.
Whoever was visited has all its successors among the found states. So when nothing waits any more,
the found states are exactly those that can be reached, and there were as many visits as there are
found states. The order in which seeds and successors are found does not matter.

* `Reached`: the states that can be reached from the seeds.
* `Worklist.Sound`: what is true of a search after any number of visits.
* `Worklist.Sound.visit`, `Worklist.Sound.drain`: one visit and any number of visits keep it true.
* `Worklist.Sound.waiting_eq_nil`: as many visits as states can be found leave nobody waiting.
* `mem_closure`: the closure holds the states that can be reached.
-/

/-- The states that can be reached from the seeds. -/
inductive Reached (next : Nat → List Nat) (seeds : List Nat) : Nat → Prop
  | seed {s : Nat} : s ∈ seeds → Reached next seeds s
  | follow {s t : Nat} : Reached next seeds s → t ∈ next s → Reached next seeds t

/-- What can be reached from states that can be reached can be reached. -/
theorem Reached.trans {next : Nat → List Nat} {seeds seeds' : List Nat} {t : Nat}
    (h : Reached next seeds' t) (hseeds : ∀ s ∈ seeds', Reached next seeds s) :
    Reached next seeds t := by
  induction h with
  | seed hs => exact hseeds _ hs
  | follow _ ht ih => exact ih.follow ht

/-- More seeds and more successors lead to no fewer states. -/
theorem Reached.mono {next next' : Nat → List Nat} {seeds seeds' : List Nat} {t : Nat}
    (h : Reached next seeds t) (hnext : ∀ s, next s ⊆ next' s) (hseeds : seeds ⊆ seeds') :
    Reached next' seeds' t := by
  induction h with
  | seed hs => exact .seed (hseeds hs)
  | follow _ ht ih => exact ih.follow (hnext _ ht)

/-- Where every seed and every successor is one of so many states, so is what can be reached. -/
theorem Reached.lt {next : Nat → List Nat} {seeds : List Nat} {size t : Nat}
    (h : Reached next seeds t) (hseeds : ∀ s ∈ seeds, s < size)
    (hnext : ∀ s, ∀ t ∈ next s, t < size) : t < size := by
  cases h with
  | seed hs => exact hseeds t hs
  | follow _ ht => exact hnext _ t ht

namespace Worklist

variable {next : Nat → List Nat} {seeds : List Nat} {w : Worklist}

/-! ### Finding states -/

/-- The found states are those that wait and those that were visited, each of them once. -/
structure Tidy (w : Worklist) : Prop where
  nodup : w.found.Nodup
  perm : w.found.Perm (w.waiting ++ w.visited)

theorem mem_found_find {s t : Nat} : t ∈ (w.find s).found ↔ t ∈ w.found ∨ t = s := by
  rw [find]
  split
  · rename_i hs
    constructor
    · exact .inl
    · rintro (ht | rfl)
      · exact ht
      · exact hs
  · rw [List.mem_cons, or_comm]

theorem visited_find (s : Nat) : (w.find s).visited = w.visited := by
  rw [find]
  split <;> rfl

theorem Tidy.find (h : w.Tidy) (s : Nat) : (w.find s).Tidy := by
  rw [Worklist.find]
  split
  · exact h
  · rename_i hs
    exact ⟨List.nodup_cons.2 ⟨hs, h.nodup⟩, h.perm.cons s⟩

theorem mem_found_findAll {states : List Nat} {t : Nat} :
    t ∈ (w.findAll states).found ↔ t ∈ w.found ∨ t ∈ states := by
  rw [findAll]
  induction states generalizing w with
  | nil => simp
  | cons s rest ih =>
    rw [List.foldl_cons, ih, mem_found_find, List.mem_cons, or_assoc]

theorem visited_findAll (states : List Nat) : (w.findAll states).visited = w.visited := by
  rw [findAll]
  induction states generalizing w with
  | nil => rfl
  | cons s rest ih => rw [List.foldl_cons, ih, visited_find]

theorem Tidy.findAll (h : w.Tidy) (states : List Nat) : (w.findAll states).Tidy := by
  rw [Worklist.findAll]
  induction states generalizing w with
  | nil => exact h
  | cons s rest ih => exact ih (h.find s)

/-! ### Visits -/

/-- What is true of a search after any number of visits. -/
structure Sound (next : Nat → List Nat) (seeds : List Nat) (w : Worklist) : Prop extends
    Tidy w where
  seeds_found : ∀ s ∈ seeds, s ∈ w.found
  reached : ∀ s ∈ w.found, Reached next seeds s
  closed : ∀ s ∈ w.visited, ∀ t ∈ next s, t ∈ w.found

/-- A search begins with the seeds, in whatever order they are found. -/
theorem sound_start (next : Nat → List Nat) {given : List Nat} (hgiven : ∀ s, s ∈ given ↔ s ∈ seeds) :
    (start given).Sound next seeds := by
  have htidy : ({} : Worklist).Tidy := ⟨List.nodup_nil, List.Perm.refl _⟩
  refine { htidy.findAll given with seeds_found := ?_, reached := ?_, closed := ?_ }
  · intro s hs
    exact mem_found_findAll.2 (.inr ((hgiven s).2 hs))
  · intro s hs
    rcases mem_found_findAll.1 hs with hs | hs
    · cases hs
    · exact .seed ((hgiven s).1 hs)
  · intro s hs
    rw [start, visited_findAll] at hs
    cases hs

/-- A visit moves one state from the stack to the visited ones and finds all its successors, in
    whatever order. -/
theorem Sound.visit (h : w.Sound next seeds) {order : Nat → List Nat}
    (horder : ∀ s t, t ∈ order s ↔ t ∈ next s) : (w.visit order).Sound next seeds := by
  rw [Worklist.visit]
  cases hwaiting : w.waiting with
  | nil => exact h
  | cons s rest =>
    have hperm : w.found.Perm (rest ++ s :: w.visited) := by
      have hperm := h.perm
      rw [hwaiting] at hperm
      exact hperm.trans List.perm_middle.symm
    have hs : s ∈ w.found := hperm.mem_iff.2 (List.mem_append_right _ List.mem_cons_self)
    -- taking the state from the stack keeps found states apart; finding its successors comes after
    have htidy : Tidy { w with waiting := rest, visited := s :: w.visited } := ⟨h.nodup, hperm⟩
    refine { htidy.findAll (order s) with seeds_found := ?_, reached := ?_, closed := ?_ }
    · intro t ht
      exact mem_found_findAll.2 (.inl (h.seeds_found t ht))
    · intro t ht
      rcases mem_found_findAll.1 ht with ht | ht
      · exact h.reached t ht
      · exact (h.reached s hs).follow ((horder s t).1 ht)
    · intro t ht u hu
      rw [visited_findAll] at ht
      rcases List.mem_cons.1 ht with rfl | ht
      · -- the successors of the state just visited are found now, those of the others were before
        exact mem_found_findAll.2 (.inr ((horder t u).2 hu))
      · exact mem_found_findAll.2 (.inl (h.closed t ht u hu))

theorem Sound.drain (h : w.Sound next seeds) (n : Nat) : (w.drain next n).Sound next seeds := by
  induction n generalizing w with
  | zero => exact h
  | succ n ih => exact ih (h.visit fun _ _ => Iff.rfl)

/-- The last one of several visits. -/
theorem drain_succ (next : Nat → List Nat) (n : Nat) (w : Worklist) :
    w.drain next (n + 1) = (w.drain next n).visit next := by
  induction n generalizing w with
  | zero => rfl
  | succ n ih =>
    show (w.visit next).drain next (n + 1) = _
    rw [ih]
    rfl

theorem visit_of_waiting_eq_nil (h : w.waiting = []) : w.visit next = w := by
  rw [visit, h]

theorem visited_visit {s : Nat} {rest : List Nat} (h : w.waiting = s :: rest) :
    (w.visit next).visited = s :: w.visited := by
  rw [visit, h]
  exact visited_findAll (next s)

/-- While somebody waits, each visit adds one state to those that were visited. -/
theorem length_visited_drain (n : Nat) (h : (w.drain next n).waiting ≠ []) :
    (w.drain next n).visited.length = w.visited.length + n := by
  induction n with
  | zero => rfl
  | succ n ih =>
    rw [drain_succ] at h ⊢
    cases hwaiting : (w.drain next n).waiting with
    | nil =>
      -- who did not wait before the last visit does not wait after it
      rw [visit_of_waiting_eq_nil hwaiting] at h
      exact absurd hwaiting h
    | cons s rest =>
      rw [visited_visit hwaiting, List.length_cons, ih (by simp [hwaiting])]
      omega

/-- As many visits as states can be found leave nobody waiting: a state that still waited would be
    one found state more than there were visits. -/
theorem Sound.waiting_eq_nil (h : w.Sound next seeds) {bound : Nat}
    (hbound : ∀ found : List Nat, found.Nodup → (∀ s ∈ found, Reached next seeds s) →
      found.length ≤ bound) :
    (w.drain next bound).waiting = [] := by
  by_contra hwaiting
  have hdrain := h.drain bound
  have hvisited := length_visited_drain bound hwaiting
  have hfound := hbound _ hdrain.nodup hdrain.reached
  have hlength := hdrain.perm.length_eq
  have hpos := List.length_pos_iff.2 hwaiting
  rw [List.length_append] at hlength
  omega

/-- When nobody waits, the found states are those that can be reached. -/
theorem Sound.mem_found_iff (h : w.Sound next seeds) (hwaiting : w.waiting = []) {t : Nat} :
    t ∈ w.found ↔ Reached next seeds t := by
  refine ⟨h.reached t, fun ht => ?_⟩
  have hperm := h.perm
  rw [hwaiting, List.nil_append] at hperm
  -- everything found was visited, so that what a found state leads to is found as well
  induction ht with
  | seed hs => exact h.seeds_found _ hs
  | follow _ hu ih => exact h.closed _ (hperm.mem_iff.1 ih) _ hu

end Worklist

/-! ### Closures -/

/-- The closure holds the states that can be reached, if no more can be found than are visited. -/
theorem mem_closure {next : Nat → List Nat} {seeds : List Nat} {bound : Nat}
    (hbound : ∀ found : List Nat, found.Nodup → (∀ s ∈ found, Reached next seeds s) →
      found.length ≤ bound) {t : Nat} :
    t ∈ closure next bound seeds ↔ Reached next seeds t := by
  have hstart := Worklist.sound_start next fun s => Iff.refl (s ∈ seeds)
  rw [closure, StateSet.mem_ofList]
  exact (hstart.drain bound).mem_found_iff (hstart.waiting_eq_nil hbound)

theorem ascends_closure (next : Nat → List Nat) (bound : Nat) (seeds : List Nat) :
    (closure next bound seeds).Ascends :=
  StateSet.ascends_ofList _

/-- No more states can be reached than there are seeds and targets. -/
theorem length_le_of_reached {next : Nat → List Nat} {seeds targets : List Nat}
    (htargets : ∀ s t, t ∈ next s → t ∈ targets) {found : List Nat} (hnodup : found.Nodup)
    (hfound : ∀ s ∈ found, Reached next seeds s) :
    found.length ≤ seeds.length + targets.length := by
  have hsubset : found ⊆ seeds ++ targets := by
    intro s hs
    cases hfound s hs with
    | seed h => exact List.mem_append_left _ h
    | follow _ h => exact List.mem_append_right _ (htargets _ _ h)
  rw [← List.length_append]
  exact (List.subperm_of_subset hnodup hsubset).length_le

end FiniteAutomata

import FiniteAutomata.Collection.Galloping
import FiniteAutomata.Proofs.Outcome

namespace FiniteAutomata.Galloping

/-!
# Counting finds where the test begins to fail

If the items that pass a test stand in front of all others, each way of counting finds how many they are,
whichever items it looks at.

* `Finds`: so many items are found to pass.
* `drop_append_eq_cons`: the item at a position is one of the former or one of the latter.
* `halve_append`, `leap_append`, `count_append`: the three ways of counting.
* `finds_append`: what is found in either way.
-/

variable {α ε : Type} {side : Side} {passes : α → Except ε Bool} {front behind : List α}

/-- So many items are found to pass, from whichever end they are looked at. -/
structure Finds (passes : α → Except ε Bool) (items : List α) (n : Nat) : Prop where
  halve : ∀ side, halve side passes items = .ok n
  count : ∀ side, count side passes items = .ok n

/-- The item at a position is in one of two lists. The other list is then on one side of it. -/
theorem drop_append_eq_cons {n : Nat} {a : α} {rest : List α}
    (h : (front ++ behind).drop n = a :: rest) :
    (a ∈ front ∧ n + 1 ≤ front.length ∧ rest = front.drop (n + 1) ++ behind) ∨
      (a ∈ behind ∧ (front ++ behind).take n = front ++ behind.take (n - front.length)) := by
  rcases Nat.lt_or_ge n front.length with hlt | hge
  · rw [List.drop_append_of_le_length (Nat.le_of_lt hlt), List.drop_eq_getElem_cons hlt, List.cons_append,
      List.cons.injEq] at h
    exact .inl ⟨h.1 ▸ List.getElem_mem hlt, hlt, h.2.symm⟩
  · refine .inr ⟨?_, by rw [List.take_append, List.take_of_length_le hge]⟩
    rw [List.drop_append, List.drop_of_length_le hge, List.nil_append] at h
    exact List.mem_of_mem_drop (h ▸ List.mem_cons_self)

theorem eq_nil_of_drop_middle (h : (front ++ behind).drop (side.middle (front ++ behind).length) = []) :
    front = [] := by
  have hle := List.drop_eq_nil_iff.1 h
  have hlength : (front ++ behind).length = 0 := by
    cases side <;> simp only [Side.middle] at hle <;> omega
  exact (List.append_eq_nil_iff.1 (List.length_eq_zero_iff.1 hlength)).1

variable (hfront : ∀ a ∈ front, passes a = .ok true) (hbehind : ∀ a ∈ behind, passes a = .ok false)

include hfront hbehind

/-- If the middle item passes, so do those before it, and otherwise none behind it does. -/
theorem halve_append : halve side passes (front ++ behind) = .ok front.length := by
  generalize hitems : front ++ behind = items
  induction items using halve.induct side generalizing front behind with
  | case1 items hnil =>
    subst hitems
    rw [halve.eq_def]
    split
    · rw [eq_nil_of_drop_middle hnil]
      rfl
    · rename_i heq
      rw [hnil] at heq
      cases heq
  | case2 items a rest hcons ihbehind ihbefore =>
    subst hitems
    rw [halve.eq_def]
    split
    · rename_i heq
      rw [hcons] at heq
      cases heq
    · rename_i heq
      cases hcons.symm.trans heq
      obtain ⟨ha, hle, rfl⟩ | ⟨ha, htake⟩ := drop_append_eq_cons hcons
      · -- the items up to the middle one pass, and the rest of `front` is counted behind it
        rw [hfront a ha, ok_bind, if_pos rfl,
          ihbehind (fun b hb => hfront b (List.mem_of_mem_drop hb)) hbehind rfl, ok_bind, pure_eq_ok,
          List.length_drop]
        congr 1
        omega
      · -- all of `front` stands before the middle item
        rw [hbehind a ha, ok_bind, if_neg Bool.false_ne_true]
        exact ihbefore hfront (fun b hb => hbehind b (List.mem_of_mem_take hb)) htake.symm

theorem leap_append (gap : Nat) :
    leap side passes gap (front ++ behind) = .ok front.length := by
  generalize hitems : front ++ behind = items
  induction gap, items using leap.induct generalizing front with
  | case1 gap items hnil =>
    subst hitems
    rw [leap.eq_def]
    split
    · exact halve_append hfront hbehind
    · rename_i heq
      rw [hnil] at heq
      cases heq
  | case2 gap items a rest hcons ih =>
    subst hitems
    rw [leap.eq_def]
    split
    · rename_i heq
      rw [hcons] at heq
      cases heq
    · rename_i heq
      cases hcons.symm.trans heq
      obtain ⟨ha, hle, rfl⟩ | ⟨ha, htake⟩ := drop_append_eq_cons hcons
      · rw [hfront a ha, ok_bind, if_pos rfl,
          ih (fun b hb => hfront b (List.mem_of_mem_drop hb)) rfl, ok_bind, pure_eq_ok,
          List.length_drop]
        congr 1
        omega
      · -- the last leap went too far: what it went over is halved
        rw [hbehind a ha, ok_bind, if_neg Bool.false_ne_true, htake]
        exact halve_append hfront fun b hb => hbehind b (List.mem_of_mem_take hb)

/-- Counting finds how many items pass. -/
theorem count_append : count side passes (front ++ behind) = .ok front.length := by
  cases front with
  | nil =>
    cases behind with
    | nil => rfl
    | cons b behind =>
      rw [List.nil_append, count, hbehind b List.mem_cons_self]
      rfl
  | cons a front =>
    have hrest : ∀ b ∈ front, passes b = .ok true := fun b hb => hfront b (List.mem_cons_of_mem a hb)
    rw [List.cons_append, count, hfront a List.mem_cons_self, ok_bind, if_pos rfl,
      leap_append hrest hbehind, ok_bind, pure_eq_ok, List.length_cons, Nat.add_comm]

theorem finds_append : Finds passes (front ++ behind) front.length where
  halve _ := halve_append hfront hbehind
  count _ := count_append hfront hbehind

end FiniteAutomata.Galloping

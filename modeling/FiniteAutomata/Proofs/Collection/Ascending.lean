import FiniteAutomata.Collection.Ascending
import Mathlib.Data.List.Sort
import Mathlib.Data.String.Basic

namespace FiniteAutomata.Ascending

/-!
# Ascending lists as canonical forms

A list that ascends strictly in a total order is determined by its members, and a list that ascends
weakly by its items with their numbers. Hence `ofList` forgets order and repeats, and `sort` forgets
order.

* `IsOrder`: what a comparison must satisfy to put any items in order.
* `pairwise_ofList`, `ofList_congr`: the set of a list ascends and depends on the members only.
* `perm_sort`, `sort_congr`, `sort_of_pairwise`: a sorted list has the items of the list, depends on
  them only, and is the list where that ascends.
* `isOrder_nat`, `isOrder_string`: the orders of numbers and of texts.
* `IsOrder.lex`, `IsOrder.comap`: orders of pairs, and of what is told apart by a key.
-/

/-- A comparison that puts any two items in order: a strict total order. -/
structure IsOrder {α : Type} (before : α → α → Bool) : Prop where
  irrefl : ∀ a, before a a = false
  trans : ∀ {a b c}, before a b = true → before b c = true → before a c = true
  total : ∀ {a b}, a ≠ b → before a b = true ∨ before b a = true

theorem IsOrder.asymm {α : Type} {before : α → α → Bool} (h : IsOrder before) {a b : α}
    (hab : before a b = true) : before b a = false := by
  rw [Bool.eq_false_iff]
  intro hba
  exact Bool.false_ne_true ((h.irrefl a).symm.trans (h.trans hab hba))

theorem IsOrder.antisymm {α : Type} {before : α → α → Bool} (h : IsOrder before) {a b : α}
    (hba : before b a = false) (hab : before a b = false) : a = b := by
  by_contra hne
  rcases h.total hne with h | h
  · exact Bool.false_ne_true (hab.symm.trans h)
  · exact Bool.false_ne_true (hba.symm.trans h)

theorem isOrder_nat : IsOrder fun a b : Nat => decide (a < b) where
  irrefl a := by simp
  trans hab hbc := by simp only [decide_eq_true_eq] at *; omega
  total h := by simp only [decide_eq_true_eq]; omega

theorem isOrder_string : IsOrder fun a b : String => decide (a < b) where
  irrefl a := by simp
  trans hab hbc := by
    simp only [decide_eq_true_eq] at *
    exact lt_trans hab hbc
  total h := by
    simp only [decide_eq_true_eq]
    exact lt_or_gt_of_ne h

/-- Pairs are ordered by their first parts, and by their second parts where the first ones agree. -/
theorem IsOrder.lex {α β : Type} [BEq α] [LawfulBEq α] {before : α → α → Bool}
    {before' : β → β → Bool} (h : IsOrder before) (h' : IsOrder before') :
    IsOrder fun a b : α × β => before a.1 b.1 || (a.1 == b.1 && before' a.2 b.2) where
  irrefl a := by simp [h.irrefl, h'.irrefl]
  trans {a b c} hab hbc := by
    simp only [Bool.or_eq_true, Bool.and_eq_true, beq_iff_eq] at *
    rcases hab with hab | ⟨hab, hab'⟩
    · rcases hbc with hbc | ⟨hbc, -⟩
      · exact .inl (h.trans hab hbc)
      · exact .inl (hbc ▸ hab)
    · rcases hbc with hbc | ⟨hbc, hbc'⟩
      · exact .inl (hab ▸ hbc)
      · exact .inr ⟨hab.trans hbc, h'.trans hab' hbc'⟩
  total {a b} hne := by
    simp only [Bool.or_eq_true, Bool.and_eq_true, beq_iff_eq]
    by_cases heq : a.1 = b.1
    · have hne' : a.2 ≠ b.2 := fun heq' => hne (Prod.ext heq heq')
      rcases h'.total hne' with hab | hba
      · exact .inl (.inr ⟨heq, hab⟩)
      · exact .inr (.inr ⟨heq.symm, hba⟩)
    · rcases h.total heq with hab | hba
      · exact .inl (.inl hab)
      · exact .inr (.inl hba)

/-- Items are ordered by a key that tells them apart. -/
theorem IsOrder.comap {α β : Type} {before : β → β → Bool} (h : IsOrder before) {key : α → β}
    (hkey : ∀ {a b}, key a = key b → a = b) : IsOrder fun a b => before (key a) (key b) where
  irrefl a := h.irrefl (key a)
  trans hab hbc := h.trans hab hbc
  total hne := h.total fun heq => hne (hkey heq)

variable {α : Type} {before : α → α → Bool}

/-! ### Sets -/

section Sets

variable [DecidableEq α]

theorem pairwise_insert (horder : IsOrder before) (a : α) {set : List α}
    (hset : set.Pairwise fun b c => before b c = true) :
    (insert before a set).Pairwise fun b c => before b c = true := by
  induction set with
  | nil => exact List.pairwise_singleton _ a
  | cons b rest ih =>
    obtain ⟨hb, hrest⟩ := List.pairwise_cons.1 hset
    rw [insert]
    split
    · exact hset
    · rename_i hne
      split
      · rename_i hab
        refine List.pairwise_cons.2 ⟨?_, hset⟩
        intro c hc
        rcases List.mem_cons.1 hc with rfl | hc
        · exact hab
        · exact horder.trans hab (hb c hc)
      · rename_i hab
        refine List.pairwise_cons.2 ⟨?_, ih hrest⟩
        intro c hc
        -- the head stays the head: it comes before the new member, and before the rest as it did
        rcases mem_insert.1 hc with rfl | hc
        · exact (horder.total hne).resolve_left hab
        · exact hb c hc

/-- The set of a list ascends. -/
theorem pairwise_ofList (horder : IsOrder before) (members : List α) :
    (ofList before members).Pairwise fun b c => before b c = true := by
  induction members with
  | nil => exact List.Pairwise.nil
  | cons a rest ih => exact pairwise_insert horder a ih

end Sets

/-- Two ascending lists with the same members are equal. -/
theorem eq_of_mem_iff (horder : IsOrder before) {set set' : List α}
    (hset : set.Pairwise fun b c => before b c = true)
    (hset' : set'.Pairwise fun b c => before b c = true) (h : ∀ a, a ∈ set ↔ a ∈ set') :
    set = set' := by
  have hirrefl : Std.Irrefl fun b c => before b c = true := ⟨fun a => by simp [horder.irrefl a]⟩
  have hperm : set.Perm set' :=
    (List.perm_ext_iff_of_nodup hset.nodup hset'.nodup).2 h
  refine hperm.eq_of_pairwise (fun a b _ _ hab hba => ?_) hset hset'
  rw [horder.asymm hab] at hba
  cases hba

/-- The set of a list depends on the members only. -/
theorem ofList_congr [DecidableEq α] (horder : IsOrder before) {l m : List α}
    (h : ∀ a, a ∈ l ↔ a ∈ m) : ofList before l = ofList before m := by
  refine eq_of_mem_iff horder (pairwise_ofList horder l) (pairwise_ofList horder m) ?_
  intro a
  rw [mem_ofList, mem_ofList, h a]

/-! ### Sorted lists -/

theorem perm_place (a : α) (items : List α) : (place before a items).Perm (a :: items) := by
  induction items with
  | nil => exact List.Perm.refl _
  | cons b rest ih =>
    rw [place]
    split
    · exact (ih.cons b).trans (List.Perm.swap a b rest)
    · exact List.Perm.refl _

/-- A sorted list has the items of the list. -/
theorem perm_sort (items : List α) : (sort before items).Perm items := by
  induction items with
  | nil => exact List.Perm.refl _
  | cons a rest ih => exact (perm_place a _).trans (ih.cons a)

theorem pairwise_place (horder : IsOrder before) (a : α) {items : List α}
    (hitems : items.Pairwise fun b c => before c b = false) :
    (place before a items).Pairwise fun b c => before c b = false := by
  induction items with
  | nil => exact List.pairwise_singleton _ a
  | cons b rest ih =>
    obtain ⟨hb, hrest⟩ := List.pairwise_cons.1 hitems
    rw [place]
    split
    · rename_i hba
      refine List.pairwise_cons.2 ⟨?_, ih hrest⟩
      intro c hc
      rcases List.mem_cons.1 ((perm_place a rest).mem_iff.1 hc) with rfl | hc
      · exact horder.asymm hba
      · exact hb c hc
    · rename_i hba
      refine List.pairwise_cons.2 ⟨?_, hitems⟩
      intro c hc
      rcases List.mem_cons.1 hc with rfl | hrest'
      · exact Bool.eq_false_iff.2 hba
      · -- `c` is not before `b`, and `b` is not before `a`
        have hcb := hb c hrest'
        rw [Bool.eq_false_iff]
        intro hca
        by_cases hab : a = b
        · rw [hab, hcb] at hca
          cases hca
        · have hab' := (horder.total hab).resolve_right hba
          rw [horder.trans hca hab'] at hcb
          cases hcb

/-- A sorted list ascends, repeats allowed. -/
theorem pairwise_sort (horder : IsOrder before) (items : List α) :
    (sort before items).Pairwise fun b c => before c b = false := by
  induction items with
  | nil => exact List.Pairwise.nil
  | cons a rest ih => exact pairwise_place horder a ih

/-- Sorting forgets the order of the list. -/
theorem sort_congr (horder : IsOrder before) {l m : List α} (h : l.Perm m) :
    sort before l = sort before m := by
  have hperm : (sort before l).Perm (sort before m) :=
    (perm_sort l).trans (h.trans (perm_sort m).symm)
  exact hperm.eq_of_pairwise (fun a b _ _ hab hba => horder.antisymm hab hba)
    (pairwise_sort horder l) (pairwise_sort horder m)

/-- A list that ascends is sorted already. -/
theorem sort_of_pairwise (horder : IsOrder before) {items : List α}
    (h : items.Pairwise fun a b => before a b = true) : sort before items = items := by
  exact (perm_sort items).eq_of_pairwise (fun a b _ _ hab hba => horder.antisymm hab hba)
    (pairwise_sort horder items) (h.imp fun hab => horder.asymm hab)

end FiniteAutomata.Ascending

namespace FiniteAutomata.StateSet

/-! ### Sets of states -/

/-- The positions ascend strictly, as they do in every set of states. -/
def Ascends (set : StateSet) : Prop := set.Pairwise fun s t => s < t

theorem Ascends.insert {set : StateSet} (h : set.Ascends) (s : Nat) : (set.insert s).Ascends := by
  have hset : List.Pairwise (fun t u => decide (t < u) = true) set := by simpa [Ascends] using h
  simpa [Ascends, StateSet.insert] using Ascending.pairwise_insert Ascending.isOrder_nat s hset

theorem ascends_ofList (states : List Nat) : (ofList states).Ascends := by
  simpa [Ascends, ofList] using Ascending.pairwise_ofList Ascending.isOrder_nat states

theorem Ascends.sort_eq {set : StateSet} (h : set.Ascends) :
    Ascending.sort (fun s t => s < t) set = set :=
  Ascending.sort_of_pairwise Ascending.isOrder_nat (h.imp fun hlt => decide_eq_true hlt)

theorem Ascends.nodup {set : StateSet} (h : set.Ascends) : set.Nodup :=
  h.imp fun hlt => Nat.ne_of_lt hlt

/-- Sets of states with the same members are equal. -/
theorem Ascends.eq_of_mem_iff {set set' : StateSet} (hset : set.Ascends) (hset' : set'.Ascends)
    (h : ∀ s, s ∈ set ↔ s ∈ set') : set = set' :=
  Ascending.eq_of_mem_iff Ascending.isOrder_nat (by simpa [Ascends] using hset)
    (by simpa [Ascends] using hset') h

/-- The set of given states depends on who is given only. -/
theorem ofList_congr {l m : List Nat} (h : ∀ s, s ∈ l ↔ s ∈ m) : ofList l = ofList m :=
  Ascending.ofList_congr Ascending.isOrder_nat h

end FiniteAutomata.StateSet

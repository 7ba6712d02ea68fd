import Mathlib.Data.List.Sort
import Mathlib.Data.List.TakeWhile

namespace FiniteAutomata.Sorting

/-!
# Stable sorting by a key

Items are sorted by keys, and items with the same key stay in the order in which they were. There is
only one such list. So lists that are sorted can be merged in any way that keeps the order of items with
the same key.

* `sorted`: the items by their keys, as the library sorts them.
* `Ascends`, `tied`: the keys ascend; the items with one key.
* `Ascends.eq_of_tied_eq`: there is only one list with ascending keys for given items with each key.
* `eq_sorted`: so only one such list has the items of another one in their order.
* `Ascends.exists_split`: an ascending list is split where a test begins to fail.
* `merge_sorted`, `sorted_concat`, `sorted_of_descends`, `reverse_merge`: ways to come by it.
* `merge_append_left`, `merge_append_right`, `merge_append_behind`: what is taken first or last when lists
  are merged.
-/

variable {α κ : Type} [LinearOrder κ] (key : α → κ)

/-- The key of the first item is not the greater one. -/
def inOrder (a b : α) : Bool := key a ≤ key b

/-- The items by ascending keys, and those with one key in their order. -/
def sorted (items : List α) : List α := items.mergeSort (inOrder key)

/-- The keys ascend. -/
def Ascends (items : List α) : Prop := items.Pairwise fun a b => key a ≤ key b

/-- The items with the given key in their order. -/
def tied (k : κ) (items : List α) : List α := items.filter fun a => key a = k

/-- The key with its order turned around. -/
def turned (a : α) : OrderDual κ := OrderDual.toDual (key a)

variable {key} {items xs ys front behind : List α} {a b : α}

@[simp] theorem inOrder_iff : inOrder key a b = true ↔ key a ≤ key b := decide_eq_true_iff

theorem ascends_iff : Ascends key items ↔ items.Pairwise fun a b => inOrder key a b = true := by
  simp only [Ascends, inOrder_iff]

theorem inOrder_trans (a b c : α) (hab : inOrder key a b = true) (hbc : inOrder key b c = true) :
    inOrder key a c = true := by
  rw [inOrder_iff] at *
  exact hab.trans hbc

theorem inOrder_total (a b : α) : (inOrder key a b || inOrder key b a) = true := by
  rw [Bool.or_eq_true, inOrder_iff, inOrder_iff]
  exact le_total _ _

theorem ascends_sorted (items : List α) : Ascends key (sorted key items) :=
  ascends_iff.2 (List.pairwise_mergeSort inOrder_trans inOrder_total items)

theorem ascends_merge (hx : Ascends key xs) (hy : Ascends key ys) :
    Ascends key (xs.merge ys (inOrder key)) :=
  ascends_iff.2 (List.pairwise_merge inOrder_trans inOrder_total _ _ (ascends_iff.1 hx)
    (ascends_iff.1 hy))

@[simp] theorem mem_sorted : a ∈ sorted key items ↔ a ∈ items := List.mem_mergeSort

theorem sorted_eq_self (h : Ascends key items) : sorted key items = items :=
  List.mergeSort_of_pairwise (ascends_iff.1 h)

/-- No item of an ascending list has a greater key than the last one. -/
theorem Ascends.le_getLast (h : Ascends key xs) (hlast : xs.getLast? = some b) :
    ∀ a ∈ xs, key a ≤ key b := by
  obtain ⟨others, rfl⟩ := List.getLast?_eq_some_iff.1 hlast
  intro a ha
  rcases List.mem_append.1 ha with ha | ha
  · exact (List.pairwise_append.1 h).2.2 a ha b List.mem_cons_self
  · rw [List.mem_singleton.1 ha]

/-- The items of an ascending list up to some key, and those behind. -/
theorem Ascends.exists_split (h : Ascends key xs) (p : α → Bool)
    (hp : ∀ a b, key a ≤ key b → p b = true → p a = true) :
    ∃ front behind, xs = front ++ behind ∧ (∀ a ∈ front, p a = true) ∧ ∀ a ∈ behind, p a = false := by
  refine ⟨xs.takeWhile p, xs.dropWhile p, List.takeWhile_append_dropWhile.symm,
    fun a ha => List.mem_takeWhile_imp ha, ?_⟩
  induction xs with
  | nil => exact nofun
  | cons x xs ih =>
    obtain ⟨hle, hxs⟩ := List.pairwise_cons.1 h
    rw [List.dropWhile_cons]
    split
    · exact ih hxs
    · rename_i hx
      intro a ha
      rw [Bool.eq_false_iff]
      intro hpa
      rcases List.mem_cons.1 ha with rfl | ha
      · exact hx hpa
      · exact hx (hp x a (hle a ha) hpa)

/-! ### Items with one key -/

@[simp] theorem tied_nil (k : κ) : tied key k [] = [] := rfl

@[simp] theorem tied_append (k : κ) (xs ys : List α) :
    tied key k (xs ++ ys) = tied key k xs ++ tied key k ys := List.filter_append xs ys

theorem tied_cons (k : κ) (a : α) (items : List α) :
    tied key k (a :: items) = if key a = k then a :: tied key k items else tied key k items := by
  simp only [tied, List.filter_cons, decide_eq_true_eq]

theorem tied_reverse (k : κ) (items : List α) :
    tied key k items.reverse = (tied key k items).reverse := List.filter_reverse

theorem tied_eq_nil {k : κ} (h : ∀ a ∈ items, key a ≠ k) : tied key k items = [] := by
  rw [tied, List.filter_eq_nil_iff]
  intro a ha
  rw [decide_eq_true_iff]
  exact h a ha

/-- What is taken from the second list stands before all items of the first one, so that no item with its
    key is among these. -/
theorem tied_merge (hx : Ascends key xs) (k : κ) :
    tied key k (xs.merge ys (inOrder key)) = tied key k xs ++ tied key k ys := by
  induction xs generalizing ys with
  | nil => rw [List.nil_merge, tied_nil, List.nil_append]
  | cons x xs ihx =>
    induction ys with
    | nil => rw [List.merge_right, tied_nil, List.append_nil]
    | cons y ys ihy =>
      obtain ⟨hle, hxs⟩ := List.pairwise_cons.1 hx
      rw [List.cons_merge_cons]
      split
      · rw [tied_cons, tied_cons, ihx hxs]
        split <;> rfl
      · rename_i hxy
        rw [inOrder_iff, not_le] at hxy
        rw [tied_cons, ihy, tied_cons k y]
        split
        · rename_i hk
          -- all keys of the first list are greater than that of the item taken from the second one
          have hnone : tied key k (x :: xs) = [] := by
            refine tied_eq_nil fun a ha heq => ?_
            have hxa : key x ≤ key a := by
              rcases List.mem_cons.1 ha with rfl | ha
              · exact le_refl _
              · exact hle a ha
            rw [heq, ← hk] at hxa
            exact absurd hxy (not_lt.2 hxa)
          rw [hnone, List.nil_append, List.nil_append]
        · rfl

theorem tied_sorted (k : κ) (items : List α) : tied key k (sorted key items) = tied key k items := by
  have hties : (tied key k items).Pairwise fun a b => inOrder key a b = true := by
    refine List.pairwise_of_forall_mem_list fun a ha b hb => ?_
    have hkeys := (of_decide_eq_true (List.mem_filter.1 ha).2).trans
      (of_decide_eq_true (List.mem_filter.1 hb).2).symm
    exact inOrder_iff.2 (le_of_eq hkeys)
  -- the items with the key are sorted among themselves, so that they keep their order
  have hsublist : (tied key k items).Sublist (sorted key items) :=
    List.sublist_mergeSort inOrder_trans inOrder_total hties List.filter_sublist
  have hsublist' : (tied key k items).Sublist (tied key k (sorted key items)) := by
    simpa [tied] using hsublist.filter fun a => decide (key a = k)
  have hperm : (tied key k (sorted key items)).Perm (tied key k items) :=
    (List.mergeSort_perm items _).filter _
  exact (hsublist'.eq_of_length_le (Nat.le_of_eq hperm.length_eq)).symm

theorem mem_of_tied_eq (h : ∀ k, tied key k xs = tied key k ys) (ha : a ∈ xs) : a ∈ ys := by
  have hmem : a ∈ tied key (key a) xs := List.mem_filter.2 ⟨ha, decide_eq_true rfl⟩
  rw [h] at hmem
  exact (List.mem_filter.1 hmem).1

/-! ### There is one sorted list -/

/-- The first item has a least key, and among the items with that key it is the first one. -/
theorem Ascends.eq_of_tied_eq (hx : Ascends key xs) (hy : Ascends key ys)
    (h : ∀ k, tied key k xs = tied key k ys) : xs = ys := by
  induction xs generalizing ys with
  | nil =>
    cases ys with
    | nil => rfl
    | cons y ys => exact absurd (mem_of_tied_eq (fun k => (h k).symm) List.mem_cons_self) (by simp)
  | cons x xs ih =>
    cases ys with
    | nil => exact absurd (mem_of_tied_eq h List.mem_cons_self) (by simp)
    | cons y ys =>
      obtain ⟨hlex, hxs⟩ := List.pairwise_cons.1 hx
      obtain ⟨hley, hys⟩ := List.pairwise_cons.1 hy
      have hyx : key y ≤ key x := by
        rcases List.mem_cons.1 (mem_of_tied_eq h List.mem_cons_self) with rfl | hmem
        · exact le_refl _
        · exact hley x hmem
      have hxy : key x ≤ key y := by
        rcases List.mem_cons.1 (mem_of_tied_eq (fun k => (h k).symm) List.mem_cons_self) with
          rfl | hmem
        · exact le_refl _
        · exact hlex y hmem
      have hkey : key x = key y := le_antisymm hxy hyx
      -- the first items have one key, and both are the first with it
      have hfirst := h (key x)
      rw [tied_cons, tied_cons, if_pos rfl, if_pos hkey.symm, List.cons.injEq] at hfirst
      obtain ⟨rfl, -⟩ := hfirst
      refine congrArg _ (ih hxs hys fun k => ?_)
      have hk := h k
      rw [tied_cons, tied_cons] at hk
      split at hk
      · exact (List.cons.inj hk).2
      · exact hk

/-- A list with ascending keys that has the items of another list, those with one key in their order, is
    the sorted one. -/
theorem eq_sorted (hy : Ascends key ys) (h : ∀ k, tied key k ys = tied key k xs) :
    ys = sorted key xs := by
  refine hy.eq_of_tied_eq (ascends_sorted xs) fun k => ?_
  rw [h, tied_sorted]

/-- Sorted lists are merged into the sorted list of both. -/
theorem merge_sorted (xs ys : List α) :
    (sorted key xs).merge (sorted key ys) (inOrder key) = sorted key (xs ++ ys) := by
  refine eq_sorted (ascends_merge (ascends_sorted xs) (ascends_sorted ys)) fun k => ?_
  rw [tied_merge (ascends_sorted xs), tied_sorted, tied_sorted, tied_append]

/-- One more item is put behind those whose key is not greater, and before all others. -/
theorem sorted_concat (hitems : sorted key items = front ++ behind)
    (hfront : ∀ b ∈ front, key b ≤ key a) (hbehind : ∀ b ∈ behind, key a < key b) :
    front ++ a :: behind = sorted key (items ++ [a]) := by
  have hascends : Ascends key (front ++ behind) := hitems ▸ ascends_sorted items
  obtain ⟨hf, hb, hcross⟩ := List.pairwise_append.1 hascends
  refine eq_sorted ?_ fun k => ?_
  · refine List.pairwise_append.2 ⟨hf, List.pairwise_cons.2 ⟨fun b hmem => (hbehind b hmem).le, hb⟩,
      fun b hmem c hc => ?_⟩
    rcases List.mem_cons.1 hc with rfl | hc
    · exact hfront b hmem
    · exact hcross b hmem c hc
  · have hk : tied key k items = tied key k front ++ tied key k behind := by
      rw [← tied_sorted, hitems, tied_append]
    rw [tied_append, tied_append, tied_cons, tied_cons, hk, List.append_assoc]
    split
    · rename_i heq
      -- no item behind has this key
      have hnone : tied key k behind = [] :=
        tied_eq_nil fun b hmem hbk => (hbehind b hmem).ne (heq.trans hbk.symm)
      rw [hnone]
      rfl
    · rw [tied_nil, List.append_nil]

/-- Where the keys descend strictly, no two items have one key, and the list is turned around. -/
theorem sorted_of_descends (h : items.Pairwise fun a b => key b < key a) :
    items.reverse = sorted key items := by
  refine eq_sorted (List.pairwise_reverse.2 (h.imp fun hlt => hlt.le)) fun k => ?_
  rw [tied_reverse]
  -- a list of at most one item is its own reverse
  have hlength : (tied key k items).length ≤ 1 := by
    have hpairwise := List.Pairwise.sublist (List.filter_sublist (p := fun a => decide (key a = k))) h
    rw [tied]
    match hties : items.filter fun a => decide (key a = k) with
    | [] => exact Nat.zero_le _
    | [_] => exact Nat.le_refl _
    | a :: b :: rest =>
      have ha : a ∈ items.filter fun a => decide (key a = k) := hties ▸ List.mem_cons_self
      have hb : b ∈ items.filter fun a => decide (key a = k) :=
        hties ▸ List.mem_cons_of_mem _ List.mem_cons_self
      rw [hties] at hpairwise
      have hlt := (List.pairwise_cons.1 hpairwise).1 b List.mem_cons_self
      rw [of_decide_eq_true (List.mem_filter.1 ha).2, of_decide_eq_true (List.mem_filter.1 hb).2]
        at hlt
      exact absurd hlt (lt_irrefl k)
  match hties : tied key k items, hlength with
  | [], _ => rfl
  | [_], _ => rfl

/-- Lists can be merged from their ends as well. -/
theorem reverse_merge (hx : Ascends key xs) (hy : Ascends key ys) :
    (ys.reverse.merge xs.reverse (inOrder (turned key))).reverse = xs.merge ys (inOrder key) := by
  have hx' : Ascends (turned key) xs.reverse := List.pairwise_reverse.2 hx
  have hy' : Ascends (turned key) ys.reverse := List.pairwise_reverse.2 hy
  have hmerged : Ascends key (ys.reverse.merge xs.reverse (inOrder (turned key))).reverse :=
    List.pairwise_reverse.2 (ascends_merge hy' hx')
  refine hmerged.eq_of_tied_eq (ascends_merge hx hy) fun k => ?_
  have hturned : ∀ items : List α, tied (turned key) (OrderDual.toDual k) items = tied key k items :=
    fun _ => rfl
  rw [tied_merge hx, tied_reverse, ← hturned, tied_merge hy', hturned, hturned, tied_reverse,
    tied_reverse, List.reverse_append, List.reverse_reverse, List.reverse_reverse]

/-! ### Stretches of merged lists -/

/-- What is not greater than the first item of the second list is taken first. -/
theorem merge_append_left (h : ∀ a ∈ front, ∀ b ∈ ys.head?, key a ≤ key b) :
    (front ++ behind).merge ys (inOrder key) = front ++ behind.merge ys (inOrder key) := by
  cases ys with
  | nil => rw [List.merge_right, List.merge_right]
  | cons b ys =>
    induction front with
    | nil => rfl
    | cons a front ih =>
      have hab : inOrder key a b = true := inOrder_iff.2 (h a List.mem_cons_self b rfl)
      rw [List.cons_append, List.cons_merge_cons_pos _ _ _ hab,
        ih fun c hc => h c (List.mem_cons_of_mem a hc), List.cons_append]

/-- What is less than the first item of the first list is taken first. -/
theorem merge_append_right (h : ∀ b ∈ front, ∀ a ∈ xs.head?, key b < key a) :
    xs.merge (front ++ behind) (inOrder key) = front ++ xs.merge behind (inOrder key) := by
  cases xs with
  | nil => rw [List.nil_merge, List.nil_merge]
  | cons a xs =>
    induction front with
    | nil => rfl
    | cons b front ih =>
      have hab : ¬ inOrder key a b = true := by
        rw [inOrder_iff, not_le]
        exact h b List.mem_cons_self a rfl
      rw [List.cons_append, List.cons_merge_cons_neg _ _ _ hab,
        ih fun c hc => h c (List.mem_cons_of_mem b hc), List.cons_append]

/-- What is not less than any item of the first list is taken last. -/
theorem merge_append_behind (h : ∀ a ∈ xs, ∀ b ∈ behind, key a ≤ key b) :
    xs.merge (ys ++ behind) (inOrder key) = xs.merge ys (inOrder key) ++ behind := by
  induction xs generalizing ys with
  | nil => rw [List.nil_merge, List.nil_merge]
  | cons a xs ihx =>
    have hrest : ∀ c ∈ xs, ∀ b ∈ behind, key c ≤ key b :=
      fun c hc => h c (List.mem_cons_of_mem a hc)
    induction ys with
    | nil =>
      rw [List.nil_append, List.merge_right]
      exact List.merge_of_le fun c b hc hb => inOrder_iff.2 (h c hc b hb)
    | cons b ys ihy =>
      rw [List.cons_append, List.cons_merge_cons, List.cons_merge_cons]
      split
      · rw [← List.cons_append, ihx hrest, List.cons_append]
      · rw [ihy, List.cons_append]

end FiniteAutomata.Sorting

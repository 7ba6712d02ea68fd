import FiniteAutomata.Proofs.Collection.Merging

namespace FiniteAutomata.Sorting

/-!
# Sorting sorts

However a list is cut into runs and in whichever order neighbouring runs are merged, the result is the one
sorted list.

* `run_eq`, `place_eq`, `nextRun_eq`: a run is the sorted list of the items at the front.
* `Covers`: the runs are the sorted lists of neighbouring stretches.
* `mergeDeeper_covers`, `push_covers`, `cut_covers`, `mergeAll_eq`: merges keep them such.
* `sort_eq`: the result is the sorted list.
-/

variable {α ε κ : Type} [LinearOrder κ] {before : α → α → Except ε Bool} {key : α → κ}
  {P : α → Prop} {items : List α} {patience : Nat}

/-! ### Runs -/

/-- The items continue a run that ends in `last`: each one is less than the one before it, or none is. -/
def Continues (key : α → κ) (descends : Bool) (last : α) (items : List α) : Prop :=
  (last :: items).IsChain fun a b => decide (key b < key a) = descends

theorem exists_runFrom (hbefore : Compares before key P) (descends : Bool) {last : α} (hlast : P last)
    (hP : ∀ a ∈ items, P a) : ∃ n, runFrom before descends last items = .ok n ∧
      Continues key descends last (items.take n) := by
  induction items generalizing last with
  | nil => exact ⟨0, rfl, List.IsChain.singleton last⟩
  | cons a rest ih =>
    have ha : P a := hP a List.mem_cons_self
    rw [runFrom, hbefore a last ha hlast, ok_bind]
    split
    · rename_i hdescends
      obtain ⟨n, hn, hchain⟩ := ih ha fun b hb => hP b (List.mem_cons_of_mem a hb)
      rw [hn, ok_bind]
      exact ⟨n + 1, rfl, List.isChain_cons_cons.2 ⟨hdescends, hchain⟩⟩
    · exact ⟨0, rfl, List.IsChain.singleton last⟩

/-- A run that ascends is sorted, and one that descends is when it is turned around. -/
theorem Continues.sorted_eq {descends : Bool} {last : α} (h : Continues key descends last items) :
    (if descends then (last :: items).reverse else last :: items) = sorted key (last :: items) := by
  cases descends with
  | true =>
    refine sorted_of_descends (List.isChain_iff_pairwise.1 (h.imp fun a b hab => ?_))
    exact of_decide_eq_true hab
  | false =>
    refine (sorted_eq_self (List.isChain_iff_pairwise.1 (h.imp fun a b hab => ?_))).symm
    exact not_lt.1 (of_decide_eq_false hab)

theorem run_eq (hbefore : Compares before key P) (hP : ∀ a ∈ items, P a) :
    ∃ front behind, items = front ++ behind ∧ run before items = .ok (sorted key front, behind) := by
  match items, hP with
  | [], _ => exact ⟨[], [], rfl, by simp [run, sorted]⟩
  | [a], _ => exact ⟨[a], [], rfl, by simp [run, sorted]⟩
  | a :: b :: rest, hP =>
    have ha : P a := hP a List.mem_cons_self
    have hb : P b := hP b (List.mem_cons_of_mem a List.mem_cons_self)
    obtain ⟨n, hn, hchain⟩ := exists_runFrom hbefore (decide (key b < key a)) hb
      fun c hc => hP c (List.mem_cons_of_mem a (List.mem_cons_of_mem b hc))
    have hrun : Continues key (decide (key b < key a)) a (b :: rest.take n) :=
      List.isChain_cons_cons.2 ⟨rfl, hchain⟩
    refine ⟨a :: b :: rest.take n, rest.drop n, by simp, ?_⟩
    rw [← hrun.sorted_eq, run, hbefore b a hb ha, ok_bind, hn, ok_bind]
    rfl

theorem place_eq (hbefore : Compares before key P) (hP : ∀ b ∈ items, P b) {a : α} (ha : P a) :
    place before (sorted key items) a = .ok (sorted key (items ++ [a])) := by
  have hsorted : ∀ b ∈ sorted key items, P b := fun b hb => hP b (mem_sorted.1 hb)
  obtain ⟨front, behind, hitems, hfront, hbehind, hfinds⟩ :=
    hbefore.exists_notGreater (ascends_sorted items) hsorted ha
  rw [place, hfinds.halve .front, ok_bind, hitems, List.take_left, List.drop_left,
    sorted_concat hitems hfront hbehind]
  rfl

theorem foldlM_place_eq (hbefore : Compares before key P) {more : List α} (hP : ∀ b ∈ items, P b)
    (hP' : ∀ a ∈ more, P a) :
    more.foldlM (place before) (sorted key items) = .ok (sorted key (items ++ more)) := by
  induction more generalizing items with
  | nil => rw [List.foldlM_nil, List.append_nil]; rfl
  | cons a more ih =>
    have ha : P a := hP' a List.mem_cons_self
    rw [List.foldlM_cons, place_eq hbefore hP ha, ok_bind, ih, List.append_assoc]
    · rfl
    · intro b hb
      rcases List.mem_append.1 hb with hb | hb
      · exact hP b hb
      · rwa [List.mem_singleton.1 hb]
    · exact fun b hb => hP' b (List.mem_cons_of_mem a hb)

/-- The next run is the sorted list of the items at the front. -/
theorem nextRun_eq (hbefore : Compares before key P) (hP : ∀ a ∈ items, P a) (least : Nat) :
    ∃ front behind, items = front ++ behind ∧
      nextRun before least items = .ok (sorted key front, behind) := by
  obtain ⟨front, behind, rfl, hrun⟩ := run_eq hbefore hP
  have hP' : ∀ a ∈ behind, P a := fun a ha => hP a (List.mem_append_right _ ha)
  have hfill : ∀ n, (behind.take n).foldlM (place before) (sorted key front) =
      .ok (sorted key (front ++ behind.take n)) := fun n =>
    foldlM_place_eq hbefore (fun a ha => hP a (List.mem_append_left _ ha))
      fun a ha => hP' a (List.mem_of_mem_take ha)
  refine ⟨front ++ behind.take (least - (sorted key front).length),
    behind.drop (least - (sorted key front).length), ?_, ?_⟩
  · rw [List.append_assoc, List.take_append_drop]
  · rw [nextRun, hrun, ok_bind]
    simp only [hfill, ok_bind]
    rfl

/-! ### Merging runs -/

/-- The runs, the last one first, are the sorted lists of neighbouring stretches that make up the list. -/
inductive Covers (key : α → κ) : List (List α) → List α → Prop
  | nil : Covers key [] []
  | cons {runs : List (List α)} {front : List α} (h : Covers key runs front) (stretch : List α) :
    Covers key (sorted key stretch :: runs) (front ++ stretch)

/-- Neighbouring runs are joined into the run of both stretches. -/
theorem join_sorted (hbefore : Compares before key P) {left right : List α} (hP : ∀ a ∈ left, P a)
    (hP' : ∀ b ∈ right, P b) : ∃ patience', Merge.join before patience (sorted key left)
      (sorted key right) = .ok (sorted key (left ++ right), patience') := by
  rw [← merge_sorted]
  exact Merge.join_eq hbefore (ascends_sorted left) (ascends_sorted right)
    (fun a ha => hP a (mem_sorted.1 ha)) fun b hb => hP' b (mem_sorted.1 hb)

/-- The last run is that of the last stretch. -/
theorem Covers.exists_last {run : List α} {runs : List (List α)} (h : Covers key (run :: runs) items) :
    ∃ front stretch, run = sorted key stretch ∧ items = front ++ stretch ∧ Covers key runs front := by
  cases h with
  | cons h stretch => exact ⟨_, stretch, rfl, rfl, h⟩

/-- Two runs cover a list still when they are joined. -/
theorem Covers.join (hbefore : Compares before key P) (hP : ∀ a ∈ items, P a) {left right : List α}
    {runs : List (List α)} (h : Covers key (right :: left :: runs) items) :
    ∃ joined patience', Merge.join before patience left right = .ok (joined, patience') ∧
      Covers key (joined :: runs) items := by
  obtain ⟨front, stretch, rfl, rfl, hfront⟩ := h.exists_last
  obtain ⟨front, stretch', rfl, rfl, hrest⟩ := hfront.exists_last
  obtain ⟨patience', hjoin⟩ : ∃ patience', Merge.join before patience (sorted key stretch')
      (sorted key stretch) = .ok (sorted key (stretch' ++ stretch), patience') :=
    join_sorted hbefore
      (fun a ha => hP a (List.mem_append_left _ (List.mem_append_right _ ha)))
      fun a ha => hP a (List.mem_append_right _ ha)
  refine ⟨_, patience', hjoin, ?_⟩
  rw [List.append_assoc]
  exact hrest.cons _

theorem mergeDeeper_covers (hbefore : Compares before key P) (hP : ∀ a ∈ items, P a) {last : Run α}
    {rest : List (Run α)} (h : Covers key (last.items :: rest.map Run.items) items) :
    ∃ r, mergeDeeper before patience last rest = .ok r ∧ Covers key (r.runs.map Run.items) items := by
  induction rest generalizing last patience with
  | nil => exact ⟨_, rfl, h⟩
  | cons front rest ih =>
    rw [mergeDeeper]
    split
    · obtain ⟨joined, patience', hjoin, hcovers⟩ := h.join hbefore hP
      rw [hjoin, ok_bind]
      exact ih hcovers
    · exact ⟨_, rfl, h⟩

/-- The next run is added after some of the runs have been merged. -/
theorem push_covers (hbefore : Compares before key P) (hP : ∀ a ∈ items, P a) {r : Runs α}
    (h : Covers key (r.runs.map Run.items) items) (total : Nat) (stretch : List α) :
    ∃ r', r.push before total (sorted key stretch) = .ok r' ∧
      Covers key (r'.runs.map Run.items) (items ++ stretch) := by
  rw [Runs.push]
  split
  · rename_i hruns
    rw [hruns] at h
    exact ⟨_, rfl, h.cons stretch⟩
  · rename_i last rest hruns
    rw [hruns] at h
    obtain ⟨r', hr', hcovers⟩ : ∃ r', mergeDeeper before r.patience { last with
        depth := boundaryDepth total last.start last.items.length (sorted key stretch).length } rest =
        .ok r' ∧ Covers key (r'.runs.map Run.items) items :=
      mergeDeeper_covers hbefore hP h
    simp only [hr', ok_bind]
    exact ⟨_, rfl, hcovers.cons stretch⟩

/-- The list is cut into runs that cover it. -/
theorem cut_covers (hbefore : Compares before key P) {total bound : Nat} {r : Runs α}
    {front : List α} (hP : ∀ a ∈ front ++ items, P a) (hbound : items.length ≤ bound)
    (h : Covers key (r.runs.map Run.items) front) :
    ∃ r', cut before total bound items r = .ok r' ∧
      Covers key (r'.runs.map Run.items) (front ++ items) := by
  induction bound generalizing items front r with
  | zero =>
    rw [List.length_eq_zero_iff.1 (Nat.le_zero.1 hbound), List.append_nil]
    exact ⟨r, cut_nil before total 0 r, h⟩
  | succ bound ih =>
    cases items with
    | nil =>
      rw [List.append_nil]
      exact ⟨r, cut_nil before total (bound + 1) r, h⟩
    | cons a rest =>
      obtain ⟨stretch, behind, hitems, hnext⟩ := nextRun_eq hbefore
        (fun b hb => hP b (List.mem_append_right _ hb)) (leastLength total)
      -- a run takes at least one item, so that the bound is not reached before the end
      have hlt := length_behind_lt hnext (List.cons_ne_nil a rest)
      obtain ⟨r', hr', hcovers⟩ := push_covers hbefore
        (fun b hb => hP b (List.mem_append_left _ hb)) h total stretch
      rw [hitems, ← List.append_assoc] at hP ⊢
      simp only [cut, hnext, ← hitems, ok_bind, hr']
      exact ih hP (by omega) hcovers

theorem Covers.eq_sorted {run : List α} (h : Covers key [run] items) : run = sorted key items := by
  obtain ⟨front, stretch, rfl, rfl, hfront⟩ := h.exists_last
  cases hfront
  rfl

/-- In whichever order they are merged, what the runs cover is sorted at the end. -/
theorem mergeAll_eq (hbefore : Compares before key P) (hP : ∀ a ∈ items, P a) {runs : List (List α)}
    (h : Covers key runs items) : mergeAll before patience runs = .ok (sorted key items) := by
  induction patience, runs using mergeAll.induct generalizing items with
  | case1 patience =>
    cases h
    rw [mergeAll, sorted, List.mergeSort_nil]
  | case2 patience a => rw [mergeAll, h.eq_sorted]
  | case3 patience b a =>
    obtain ⟨joined, patience', hjoin, hcovers⟩ := h.join hbefore hP
    rw [mergeAll, hjoin, hcovers.eq_sorted]
    rfl
  | case4 patience c b a rest hlt ih =>
    -- the two runs before the last one are joined
    obtain ⟨front, stretch, rfl, rfl, hfront⟩ := h.exists_last
    obtain ⟨joined, patience', hjoin, hcovers⟩ :=
      hfront.join hbefore fun d hd => hP d (List.mem_append_left _ hd)
    rw [mergeAll, if_pos hlt, hjoin]
    exact ih joined patience' hP (hcovers.cons stretch)
  | case5 patience c b a rest hlt ih =>
    -- the last two runs are joined
    obtain ⟨joined, patience', hjoin, hcovers⟩ := h.join hbefore hP
    rw [mergeAll, if_neg hlt, hjoin]
    exact ih joined patience' hP hcovers

/-- **Sorting sorts.** Where the comparison answers by a key for any two of the items, sorting them
    results in the items by ascending keys, those with one key in their order. -/
theorem sort_eq (h : ∀ a ∈ items, ∀ b ∈ items, before a b = .ok (decide (key a < key b))) :
    sort before items = .ok (items.mergeSort fun a b => key a ≤ key b) := by
  have hbefore : Compares before key (· ∈ items) := fun a b ha hb => h a ha b hb
  obtain ⟨r, hr, hcovers⟩ : ∃ r, cut before items.length items.length items {} = .ok r ∧
      Covers key (r.runs.map Run.items) ([] ++ items) :=
    cut_covers hbefore (fun a ha => ha) (Nat.le_refl _) .nil
  rw [sort, hr, ok_bind]
  exact mergeAll_eq hbefore (fun a ha => ha) hcovers

end FiniteAutomata.Sorting

import FiniteAutomata.Collection.Sorting
import FiniteAutomata.Proofs.Outcome

namespace FiniteAutomata

/-!
# Sorting loses nothing

Whatever a comparison answers, even where its answers do not go together, the sorted list has the items
of the list that is sorted, each as often as there.

* `Merge.takeBoth`: two stretches, whichever list gives the first one.
* `Merge.step_perm`, `Merge.finish_perm`, `Merge.join_perm`: merges keep all items.
* `Sorting.nextRun_perm`, `Sorting.length_behind_lt`: a run and what is behind it are all items, and a
  run has one at least.
* `Sorting.push_perm`, `Sorting.cut_perm`, `Sorting.mergeAll_perm`: the runs keep all items.
* `Sorting.sort_perm`: the sorted list has all items.
-/

variable {α ε : Type} {before : α → α → Except ε Bool} {side : Side} {patience patience' : Nat}

namespace Merge

variable {m m' : Merge α} {n k : Nat}

/-! ### Steps -/

theorem result_takeShorter_perm (m : Merge α) (n : Nat) :
    (m.takeShorter n).result.Perm m.result := by
  have hmoved : (m.shorter.take n ++ (m.longer ++ m.shorter.drop n)).Perm
      (m.longer ++ (m.shorter.take n ++ m.shorter.drop n)) := List.perm_append_comm_assoc _ _ _
  rw [List.take_append_drop] at hmoved
  simpa [result, takeShorter] using hmoved.append_left m.taken.reverse

theorem result_takeLonger (m : Merge α) (n : Nat) : (m.takeLonger n).result = m.result := by
  simp [result, takeLonger]

theorem stepSingle_perm (h : m.stepSingle before n k = .ok m') : m'.result.Perm m.result := by
  unfold stepSingle at h
  split at h
  · obtain ⟨answer, -, h⟩ := bind_eq_ok_iff.1 h
    split at h <;> cases h
    · exact .of_eq (m.result_takeLonger 1)
    · exact m.result_takeShorter_perm 1
  · cases h
    exact .refl _

theorem stretchOfShorter_perm (h : m.stretchOfShorter side before = .ok (m', n)) :
    m'.result.Perm m.result := by
  unfold stretchOfShorter at h
  split at h
  · cases h
    exact .refl _
  · obtain ⟨k, -, h⟩ := bind_eq_ok_iff.1 h
    cases h
    split
    · exact m.result_takeShorter_perm _
    · rw [result_takeLonger]
      exact m.result_takeShorter_perm _

theorem stretchOfLonger_perm (h : m.stretchOfLonger side before = .ok (m', n)) :
    m'.result.Perm m.result := by
  unfold stretchOfLonger at h
  split at h
  · cases h
    exact .refl _
  · obtain ⟨k, -, h⟩ := bind_eq_ok_iff.1 h
    cases h
    split
    · exact .of_eq (m.result_takeLonger _)
    · exact (result_takeShorter_perm _ 1).trans (.of_eq (m.result_takeLonger _))

/-- Takes two stretches, the second one unless nothing is left to be compared. -/
def takeBoth (f g : Merge α → Except ε (Merge α × Nat)) (m : Merge α) : Except ε (Merge α) := do
  let (m, n) ← f m
  if m.isFinished then return m
  let (m, k) ← g m
  if m.isFinished then return m
  if worthwhile ≤ n ∨ worthwhile ≤ k then return { m with patience := max 1 (m.patience - 1) }
  else return { m with patience := m.patience + 1, pace := .single 0 0 }

/-- Which of the two lists gives the first stretch depends on the side. -/
theorem stepStretches_eq (side : Side) (before : α → α → Except ε Bool) (m : Merge α) :
    m.stepStretches side before = match side with
      | .front => takeBoth (stretchOfShorter .front before) (stretchOfLonger .front before) m
      | .back => takeBoth (stretchOfLonger .back before) (stretchOfShorter .back before) m := by
  cases side <;> rfl

theorem takeBoth_perm {f g : Merge α → Except ε (Merge α × Nat)}
    (hf : ∀ m m' n, f m = .ok (m', n) → m'.result.Perm m.result)
    (hg : ∀ m m' n, g m = .ok (m', n) → m'.result.Perm m.result) (h : takeBoth f g m = .ok m') :
    m'.result.Perm m.result := by
  obtain ⟨⟨m₁, n⟩, hm₁, h⟩ := bind_eq_ok_iff.1 h
  have hperm₁ := hf m m₁ n hm₁
  dsimp only at h
  split at h
  · cases h
    exact hperm₁
  obtain ⟨⟨m₂, k⟩, hm₂, h⟩ := bind_eq_ok_iff.1 h
  have hperm₂ := (hg m₁ m₂ k hm₂).trans hperm₁
  dsimp only at h
  split at h
  · cases h
    exact hperm₂
  · split at h <;> cases h <;> exact hperm₂

theorem stepStretches_perm (h : m.stepStretches side before = .ok m') :
    m'.result.Perm m.result := by
  rw [stepStretches_eq] at h
  cases side with
  | front =>
    exact takeBoth_perm (fun _ _ _ => stretchOfShorter_perm) (fun _ _ _ => stretchOfLonger_perm) h
  | back =>
    exact takeBoth_perm (fun _ _ _ => stretchOfLonger_perm) (fun _ _ _ => stretchOfShorter_perm) h

theorem step_perm (h : m.step side before = .ok m') : m'.result.Perm m.result := by
  rw [step] at h
  split at h
  · exact stepSingle_perm h
  · exact stepStretches_perm h

/-! ### Whole merges -/

theorem finish_perm {bound : Nat} (h : finish side before bound m = .ok m') :
    m'.result.Perm m.result := by
  induction bound generalizing m with
  | zero =>
    cases h
    exact .refl _
  | succ bound ih =>
    rw [finish] at h
    split at h
    · cases h
      exact .refl _
    · obtain ⟨m₁, hm₁, h⟩ := bind_eq_ok_iff.1 h
      exact (ih h).trans (step_perm hm₁)

theorem run_perm {shorter longer : List α} (h : run side before patience shorter longer = .ok m) :
    m.result.Perm (longer ++ shorter) := by
  have hperm := finish_perm h
  rwa [result_takeLonger] at hperm

/-- Two neighbouring lists are joined into one that has the items of both. -/
theorem join_perm {left right joined : List α}
    (h : join before patience left right = .ok (joined, patience')) :
    joined.Perm (left ++ right) := by
  -- the middle parts are merged, and the outer ones stay where they are
  have houter : ∀ (n k : Nat) (middle : List α),
      middle.Perm (left.drop n ++ right.take k) →
        (left.take n ++ middle ++ right.drop k).Perm (left ++ right) := by
    intro n k middle hmiddle
    have hperm := (hmiddle.append_left (left.take n)).append_right (right.drop k)
    have hparts : left.take n ++ (left.drop n ++ right.take k) ++ right.drop k = left ++ right := by
      rw [← List.append_assoc, List.take_append_drop, List.append_assoc, List.take_append_drop]
    rwa [hparts] at hperm
  unfold join at h
  split at h
  · cases h
    rw [List.append_nil]
  · obtain ⟨n, -, h⟩ := bind_eq_ok_iff.1 h
    dsimp only at h
    split at h
    · cases h
      exact .refl _
    · obtain ⟨k, -, h⟩ := bind_eq_ok_iff.1 h
      split at h
      · obtain ⟨m, hm, h⟩ := bind_eq_ok_iff.1 h
        cases h
        exact houter n _ _ ((run_perm hm).trans List.perm_append_comm)
      · obtain ⟨m, hm, h⟩ := bind_eq_ok_iff.1 h
        cases h
        have hmiddle := (List.reverse_perm m.result).trans (run_perm hm)
        exact houter n _ _ (hmiddle.trans ((List.reverse_perm _).append (List.reverse_perm _)))

end Merge

namespace Sorting

variable {items front behind sorted : List α}

/-! ### Runs -/

theorem run_perm (h : run before items = .ok (front, behind)) : (front ++ behind).Perm items := by
  unfold run at h
  split at h
  · obtain ⟨descends, -, h⟩ := bind_eq_ok_iff.1 h
    obtain ⟨n, -, h⟩ := bind_eq_ok_iff.1 h
    cases h
    split
    · exact ((List.reverse_perm _).append_right _).trans (.of_eq (List.take_append_drop _ _))
    · exact .of_eq (List.take_append_drop _ _)
  · cases h
    rw [List.append_nil]

theorem place_perm {a : α} {placed : List α} (h : place before items a = .ok placed) :
    placed.Perm (items ++ [a]) := by
  obtain ⟨n, -, h⟩ := bind_eq_ok_iff.1 h
  cases h
  have hperm : (items.take n ++ a :: items.drop n).Perm (a :: (items.take n ++ items.drop n)) :=
    List.perm_middle
  rw [List.take_append_drop] at hperm
  exact hperm.trans (List.perm_append_singleton a items).symm

theorem foldlM_place_perm {more placed : List α}
    (h : more.foldlM (place before) items = .ok placed) : placed.Perm (items ++ more) := by
  induction more generalizing items with
  | nil =>
    cases h
    rw [List.append_nil]
  | cons a more ih =>
    rw [List.foldlM_cons] at h
    obtain ⟨placed₁, hplaced₁, h⟩ := bind_eq_ok_iff.1 h
    have hperm := (place_perm hplaced₁).append_right more
    rw [List.append_assoc] at hperm
    exact (ih h).trans hperm

theorem nextRun_perm {least : Nat} (h : nextRun before least items = .ok (front, behind)) :
    (front ++ behind).Perm items := by
  obtain ⟨⟨front₁, behind₁⟩, hrun, h⟩ := bind_eq_ok_iff.1 h
  obtain ⟨filled, hfilled, h⟩ := bind_eq_ok_iff.1 h
  cases h
  have hperm := (foldlM_place_perm hfilled).append_right
    (behind₁.drop (least - front₁.length))
  rw [List.append_assoc, List.take_append_drop] at hperm
  exact hperm.trans (run_perm hrun)

/-- A run has one item at least, so that fewer are behind it. -/
theorem length_behind_lt {least : Nat} (h : nextRun before least items = .ok (front, behind))
    (hne : items ≠ []) : behind.length < items.length := by
  have hpos := List.length_pos_of_ne_nil hne
  obtain ⟨⟨front₁, behind₁⟩, hrun, h⟩ := bind_eq_ok_iff.1 h
  obtain ⟨filled, -, h⟩ := bind_eq_ok_iff.1 h
  cases h
  have hlt : behind₁.length < items.length := by
    unfold run at hrun
    split at hrun
    · obtain ⟨descends, -, hrun⟩ := bind_eq_ok_iff.1 hrun
      obtain ⟨n, -, hrun⟩ := bind_eq_ok_iff.1 hrun
      cases hrun
      rw [List.length_drop]
      omega
    · cases hrun
      exact hpos
  rw [List.length_drop]
  omega

/-! ### Merging runs -/

theorem mergeDeeper_perm {last : Run α} {rest : List (Run α)} {r : Runs α}
    (h : mergeDeeper before patience last rest = .ok r) :
    (r.runs.flatMap Run.items).Perm (last.items ++ rest.flatMap Run.items) := by
  induction rest generalizing last patience with
  | nil =>
    cases h
    exact .refl _
  | cons front rest ih =>
    rw [mergeDeeper] at h
    split at h
    · obtain ⟨⟨joined, patience'⟩, hjoin, h⟩ := bind_eq_ok_iff.1 h
      have hjoined : joined.Perm (last.items ++ front.items) :=
        (Merge.join_perm hjoin).trans List.perm_append_comm
      rw [List.flatMap_cons, ← List.append_assoc]
      exact (ih h).trans (hjoined.append_right _)
    · cases h
      exact .refl _

theorem push_perm {r r' : Runs α} {total : Nat} (h : r.push before total items = .ok r') :
    (r'.runs.flatMap Run.items).Perm (items ++ r.runs.flatMap Run.items) := by
  rw [Runs.push] at h
  split at h
  · rename_i hruns
    cases h
    rw [hruns]
    exact .refl _
  · rename_i last rest hruns
    obtain ⟨r₁, hr₁, h⟩ := bind_eq_ok_iff.1 h
    cases h
    rw [hruns]
    exact (mergeDeeper_perm hr₁).append_left items

@[simp] theorem cut_nil (before : α → α → Except ε Bool) (total bound : Nat) (r : Runs α) :
    cut before total bound [] r = .ok r := by
  cases bound <;> rfl

/-- The runs into which a list is cut have its items. -/
theorem cut_perm {total bound : Nat} {r r' : Runs α} (hbound : items.length ≤ bound)
    (h : cut before total bound items r = .ok r') :
    (r'.runs.flatMap Run.items).Perm (items ++ r.runs.flatMap Run.items) := by
  induction bound generalizing items r with
  | zero =>
    obtain rfl := List.length_eq_zero_iff.1 (Nat.le_zero.1 hbound)
    rw [cut_nil] at h
    cases h
    exact .refl _
  | succ bound ih =>
    cases items with
    | nil =>
      rw [cut_nil] at h
      cases h
      exact .refl _
    | cons a rest =>
      simp only [cut] at h
      obtain ⟨⟨front, behind⟩, hnext, h⟩ := bind_eq_ok_iff.1 h
      obtain ⟨r₁, hr₁, h⟩ := bind_eq_ok_iff.1 h
      -- a run takes at least one item, so that the bound is not reached before the end
      have hlt := length_behind_lt hnext (List.cons_ne_nil a rest)
      have hcut : (r'.runs.flatMap Run.items).Perm (behind ++ r₁.runs.flatMap Run.items) :=
        ih (by omega) h
      have hpushed := (push_perm hr₁).append_left behind
      have hswap : (behind ++ (front ++ r.runs.flatMap Run.items)).Perm
          (front ++ behind ++ r.runs.flatMap Run.items) := by
        rw [List.append_assoc]
        exact List.perm_append_comm_assoc _ _ _
      calc r'.runs.flatMap Run.items
          _ |>.Perm (behind ++ r₁.runs.flatMap Run.items) := hcut
          _ |>.Perm (behind ++ (front ++ r.runs.flatMap Run.items)) := hpushed
          _ |>.Perm (front ++ behind ++ r.runs.flatMap Run.items) := hswap
          _ |>.Perm (a :: rest ++ r.runs.flatMap Run.items) := (nextRun_perm hnext).append_right _

theorem mergeAll_perm {runs : List (List α)} (h : mergeAll before patience runs = .ok sorted) :
    sorted.Perm runs.flatten := by
  induction patience, runs using mergeAll.induct generalizing sorted with
  | case1 patience =>
    rw [mergeAll] at h
    cases h
    exact .refl _
  | case2 patience a =>
    rw [mergeAll] at h
    cases h
    simp
  | case3 patience b a =>
    rw [mergeAll] at h
    obtain ⟨⟨joined, patience'⟩, hjoin, h⟩ := bind_eq_ok_iff.1 h
    cases h
    simpa using (Merge.join_perm hjoin).trans List.perm_append_comm
  | case4 patience c b a rest hlt ih =>
    -- the two runs before the last one are joined
    rw [mergeAll, if_pos hlt] at h
    obtain ⟨⟨joined, patience'⟩, hjoin, h⟩ := bind_eq_ok_iff.1 h
    have hjoined := (Merge.join_perm hjoin).trans List.perm_append_comm
    refine (ih joined patience' h).trans ?_
    simpa using (hjoined.append_right rest.flatten).append_left c
  | case5 patience c b a rest hlt ih =>
    -- the last two runs are joined
    rw [mergeAll, if_neg hlt] at h
    obtain ⟨⟨joined, patience'⟩, hjoin, h⟩ := bind_eq_ok_iff.1 h
    have hjoined := (Merge.join_perm hjoin).trans List.perm_append_comm
    refine (ih joined patience' h).trans ?_
    simpa using hjoined.append_right (a ++ rest.flatten)

/-- **Sorting loses nothing.** Whatever the comparison answers, the sorted list has the items of the
    list that is sorted. -/
theorem sort_perm (h : sort before items = .ok sorted) : sorted.Perm items := by
  obtain ⟨r, hcut, h⟩ := bind_eq_ok_iff.1 h
  have hperm := cut_perm (Nat.le_refl _) hcut
  rw [List.flatMap_nil, List.append_nil] at hperm
  refine (mergeAll_perm h).trans ?_
  rwa [← List.flatMap_def]

end Sorting

end FiniteAutomata

import FiniteAutomata.Proofs.Collection.Galloping
import FiniteAutomata.Proofs.Collection.Lossless
import FiniteAutomata.Proofs.Collection.Stable

namespace FiniteAutomata

/-!
# Merging takes stretches of the merged list

Whatever is taken, and from whichever end, it is what comes next in the list that the two lists make when
they are merged item by item.

* `Compares`: a comparison of some items answers by their keys.
* `Compares.exists_notGreater`, `Compares.exists_less`, `Compares.exists_notLess`: an ascending list is
  split by a comparison with one item, and counting finds where.
* `Merge.merged`: what was taken, and what the rest would be merged into.
* `Merge.Sound`: what is left of the two lists ascends, and the last item of the shorter one is the last.
* `Merge.Leads`: some steps keep that, take something and do not change what the lists are merged into.
* `Merge.leads_stretchOfShorter`, `Merge.leads_stretchOfLonger`, `Merge.leads_step`: each step does so.
* `Merge.run_eq`, `Merge.join_eq`: the result is the merged list.
-/

open Sorting

variable {α ε κ : Type} [LinearOrder κ]

/-- Among the items with the property, the first comes before the second if its key is less. -/
def Compares (before : α → α → Except ε Bool) (key : α → κ) (P : α → Prop) : Prop :=
  ∀ a b, P a → P b → before a b = .ok (decide (key a < key b))

namespace Compares

variable {before : α → α → Except ε Bool} {key : α → κ} {P : α → Prop} {xs : List α} {b : α}

theorem turned (h : Compares before key P) : Compares (fun a b => before b a) (turned key) P :=
  fun a b ha hb => h b a hb ha

/-- An ascending list consists of the items that are not greater than a given one, and the others. -/
theorem exists_notGreater (hbefore : Compares before key P) (hxs : Ascends key xs)
    (hP : ∀ a ∈ xs, P a) (hb : P b) : ∃ front behind, xs = front ++ behind ∧
      (∀ a ∈ front, key a ≤ key b) ∧ (∀ a ∈ behind, key b < key a) ∧
        Galloping.Finds (fun a => return !(← before b a)) xs front.length := by
  obtain ⟨front, behind, rfl, hfront, hbehind⟩ :=
    hxs.exists_split (fun a => decide (key a ≤ key b)) (by
      simp only [decide_eq_true_eq]
      exact fun a c hac hcb => hac.trans hcb)
  simp only [decide_eq_true_eq, decide_eq_false_iff_not, not_le] at hfront hbehind
  refine ⟨front, behind, rfl, hfront, hbehind, Galloping.finds_append (fun a ha => ?_) fun a ha => ?_⟩
  · rw [hbefore b a hb (hP a (List.mem_append_left _ ha)), ok_bind,
      decide_eq_false (not_lt.2 (hfront a ha))]
    rfl
  · rw [hbefore b a hb (hP a (List.mem_append_right _ ha)), ok_bind, decide_eq_true (hbehind a ha)]
    rfl

/-- An ascending list consists of the items that are less than a given one, and the others. -/
theorem exists_less (hbefore : Compares before key P) (hxs : Ascends key xs) (hP : ∀ a ∈ xs, P a)
    (hb : P b) : ∃ front behind, xs = front ++ behind ∧ (∀ a ∈ front, key a < key b) ∧
      (∀ a ∈ behind, key b ≤ key a) ∧ Galloping.Finds (fun a => before a b) xs front.length := by
  obtain ⟨front, behind, rfl, hfront, hbehind⟩ :=
    hxs.exists_split (fun a => decide (key a < key b)) (by
      simp only [decide_eq_true_eq]
      exact fun a c hac hcb => lt_of_le_of_lt hac hcb)
  simp only [decide_eq_true_eq, decide_eq_false_iff_not, not_lt] at hfront hbehind
  refine ⟨front, behind, rfl, hfront, hbehind, Galloping.finds_append (fun a ha => ?_) fun a ha => ?_⟩
  · rw [hbefore a b (hP a (List.mem_append_left _ ha)) hb, decide_eq_true (hfront a ha)]
  · rw [hbefore a b (hP a (List.mem_append_right _ ha)) hb, decide_eq_false (not_lt.2 (hbehind a ha))]

/-- The items that are not less than a given one are found from the end as well. -/
theorem exists_notLess (hbefore : Compares before key P) (hxs : Ascends key xs)
    (hP : ∀ a ∈ xs, P a) (hb : P b) : ∃ front behind, xs = front ++ behind ∧
      (∀ a ∈ front, key a < key b) ∧ (∀ a ∈ behind, key b ≤ key a) ∧
        Galloping.Finds (fun a => return !(← before a b)) xs.reverse behind.length := by
  have hP' : ∀ a ∈ xs.reverse, P a := fun a ha => hP a (List.mem_reverse.1 ha)
  obtain ⟨behind, front, hsplit, hbehind, hfront, hfinds⟩ :=
    hbefore.turned.exists_notGreater (List.pairwise_reverse.2 hxs) hP' hb
  refine ⟨front.reverse, behind.reverse, ?_, fun a ha => hfront a (List.mem_reverse.1 ha),
    fun a ha => hbehind a (List.mem_reverse.1 ha), ?_⟩
  · rw [← List.reverse_append, ← hsplit, List.reverse_reverse]
  · rw [List.length_reverse]
    exact hfinds

end Compares

namespace Merge

variable {key : α → κ} {P : α → Prop} {before : α → α → Except ε Bool} {side : Side}
  {m m' m'' : Merge α} {n : Nat}

/-- What was taken, and what the rest would be merged into item by item. -/
def merged (key : α → κ) (m : Merge α) : List α :=
  m.taken.reverse ++ m.shorter.merge m.longer (inOrder key)

/-- How many items are left. -/
def left (m : Merge α) : Nat := m.shorter.length + m.longer.length

/-- What is left of the two lists ascends and can be compared. The last item of the shorter list is
    greater than all of the longer one. -/
structure Sound (m : Merge α) (key : α → κ) (P : α → Prop) : Prop where
  shorter : Ascends key m.shorter
  longer : Ascends key m.longer
  shorter_comparable : ∀ a ∈ m.shorter, P a
  longer_comparable : ∀ b ∈ m.longer, P b
  last : ∀ a ∈ m.shorter.getLast?, ∀ b ∈ m.longer, key b < key a

/-- The second merge comes from the first one by taking some items: the lists are still merged into the
    same list. -/
structure Leads (m m' : Merge α) (key : α → κ) (P : α → Prop) : Prop where
  sound : m'.Sound key P
  merged : m'.merged key = m.merged key
  left : m'.left ≤ m.left

theorem Sound.leads_self (h : m.Sound key P) : m.Leads m key P := ⟨h, rfl, Nat.le_refl _⟩

theorem Leads.trans (h : m.Leads m' key P) (h' : m'.Leads m'' key P) : m.Leads m'' key P :=
  ⟨h'.sound, h'.merged.trans h.merged, h'.left.trans h.left⟩

/-- How the next items will be chosen does not matter. -/
theorem Leads.paced (h : m.Leads m' key P) (pace : Pace) (patience : Nat) :
    m.Leads { m' with pace, patience } key P :=
  ⟨⟨h.sound.shorter, h.sound.longer, h.sound.shorter_comparable, h.sound.longer_comparable,
    h.sound.last⟩, h.merged, h.left⟩

/-! ### Taking items -/

theorem left_takeShorter : (m.takeShorter n).left = m.shorter.length - n + m.longer.length := by
  rw [left, takeShorter, List.length_drop]

theorem left_takeLonger : (m.takeLonger n).left = m.shorter.length + (m.longer.length - n) := by
  rw [left, takeLonger, List.length_drop]

/-- Items of the shorter list are taken that are not greater than the first one of the longer list. -/
theorem Sound.leads_takeShorter (h : m.Sound key P)
    (hn : ∀ a ∈ m.shorter.take n, ∀ b ∈ m.longer.head?, key a ≤ key b) :
    m.Leads (m.takeShorter n) key P where
  sound :=
    { shorter := h.shorter.drop
      longer := h.longer
      shorter_comparable := fun a ha => h.shorter_comparable a (List.mem_of_mem_drop ha)
      longer_comparable := h.longer_comparable
      last := fun a ha => by
        have hlast : a ∈ (m.shorter.drop n).getLast? := ha
        rw [List.getLast?_drop] at hlast
        split at hlast
        · cases hlast
        · exact h.last a hlast }
  merged := by
    rw [merged, merged, takeShorter, List.reverse_append, List.reverse_reverse, List.append_assoc,
      ← merge_append_left hn, List.take_append_drop]
  left := by
    rw [left_takeShorter, left]
    omega

/-- Items of the longer list are taken that are less than the first one of the shorter list. -/
theorem Sound.leads_takeLonger (h : m.Sound key P)
    (hn : ∀ b ∈ m.longer.take n, ∀ a ∈ m.shorter.head?, key b < key a) :
    m.Leads (m.takeLonger n) key P where
  sound :=
    { shorter := h.shorter
      longer := h.longer.drop
      shorter_comparable := h.shorter_comparable
      longer_comparable := fun b hb => h.longer_comparable b (List.mem_of_mem_drop hb)
      last := fun a ha b hb => h.last a ha b (List.mem_of_mem_drop hb) }
  merged := by
    rw [merged, merged, takeLonger, List.reverse_append, List.reverse_reverse, List.append_assoc,
      ← merge_append_right hn, List.take_append_drop]
  left := by
    rw [left_takeLonger, left]
    omega

theorem Sound.leads_takeShorter_one (h : m.Sound key P) {a : α} {as : List α}
    (hshorter : m.shorter = a :: as) (ha : ∀ b ∈ m.longer.head?, key a ≤ key b) :
    m.Leads (m.takeShorter 1) key P ∧ (m.takeShorter 1).left < m.left := by
  refine ⟨h.leads_takeShorter fun c hc b hb => ?_, ?_⟩
  · rw [hshorter] at hc
    rw [List.mem_singleton.1 hc]
    exact ha b hb
  · rw [left_takeShorter, left, hshorter, List.length_cons]
    omega

theorem Sound.leads_takeLonger_one (h : m.Sound key P) {b : α} {bs : List α}
    (hlonger : m.longer = b :: bs) (hb : ∀ a ∈ m.shorter.head?, key b < key a) :
    m.Leads (m.takeLonger 1) key P ∧ (m.takeLonger 1).left < m.left := by
  refine ⟨h.leads_takeLonger fun c hc a ha => ?_, ?_⟩
  · rw [hlonger] at hc
    rw [List.mem_singleton.1 hc]
    exact hb a ha
  · rw [left_takeLonger, left, hlonger, List.length_cons]
    omega

/-- Where no comparison is needed any more, both lists are not empty, or rather there would be one. -/
theorem exists_cons_of_not_isFinished (h : m.isFinished = false) :
    ∃ a as b bs, m.shorter = a :: as ∧ m.longer = b :: bs := by
  cases hshorter : m.shorter with
  | nil => simp [isFinished, hshorter] at h
  | cons a as =>
    cases hlonger : m.longer with
    | nil => cases as <;> simp [isFinished, hshorter, hlonger] at h
    | cons b bs => exact ⟨a, as, b, bs, rfl, rfl⟩

/-! ### Steps -/

theorem Sound.leads_stepSingle (hbefore : Compares before key P) (h : m.Sound key P)
    (hunfinished : m.isFinished = false) (fromShorter fromLonger : Nat) :
    ∃ m', m.stepSingle before fromShorter fromLonger = .ok m' ∧ m.Leads m' key P ∧
      m'.left < m.left := by
  obtain ⟨a, as, b, bs, hshorter, hlonger⟩ := exists_cons_of_not_isFinished hunfinished
  have hanswer := hbefore b a (h.longer_comparable b (by simp [hlonger]))
    (h.shorter_comparable a (by simp [hshorter]))
  simp only [stepSingle, hshorter, hlonger, hanswer, ok_bind, pure_eq_ok]
  by_cases hba : key b < key a
  · rw [if_pos (decide_eq_true hba)]
    obtain ⟨hleads, hleft⟩ := h.leads_takeLonger_one hlonger (by simp [hshorter, hba])
    exact ⟨_, rfl, hleads.paced _ _, hleft⟩
  · rw [if_neg (by simpa using hba)]
    obtain ⟨hleads, hleft⟩ :=
      h.leads_takeShorter_one hshorter (by simp [hlonger, not_lt.1 hba])
    exact ⟨_, rfl, hleads.paced _ _, hleft⟩

/-- The function takes a stretch of one list and an item of the other one. -/
def Takes (f : Merge α → Except ε (Merge α × Nat)) (key : α → κ) (P : α → Prop) : Prop :=
  ∀ m : Merge α, m.Sound key P → m.isFinished = false → ∃ m' n, f m = .ok (m', n) ∧
    m.Leads m' key P ∧ (m'.isFinished = true ∨ m'.left < m.left)

theorem takes_stretchOfShorter (hbefore : Compares before key P) :
    Takes (stretchOfShorter side before) key P := by
  intro m h hunfinished
  obtain ⟨-, -, b, bs, -, hlonger⟩ := exists_cons_of_not_isFinished hunfinished
  have hb : P b := h.longer_comparable b (by simp [hlonger])
  obtain ⟨front, behind, hshorter, hfront, hbehind, hfinds⟩ :=
    hbefore.exists_notGreater h.shorter h.shorter_comparable hb
  have htake : m.Leads (m.takeShorter front.length) key P := by
    refine h.leads_takeShorter fun a ha c hc => ?_
    rw [hshorter, List.take_left] at ha
    rw [hlonger] at hc
    cases hc
    exact hfront a ha
  simp only [stretchOfShorter, hlonger, hfinds.count side, ok_bind]
  split
  · rename_i hfinished
    exact ⟨_, _, rfl, htake, .inl hfinished⟩
  · have hhead : ∀ a ∈ (m.shorter.drop front.length).head?, key b < key a := by
      rw [hshorter, List.drop_left]
      exact fun a ha => hbehind a (List.mem_of_mem_head? ha)
    obtain ⟨hleads, hleft⟩ := htake.sound.leads_takeLonger_one hlonger hhead
    exact ⟨_, _, rfl, htake.trans hleads, .inr (hleft.trans_le htake.left)⟩

theorem takes_stretchOfLonger (hbefore : Compares before key P) :
    Takes (stretchOfLonger side before) key P := by
  intro m h hunfinished
  obtain ⟨a, as, -, -, hshorter, -⟩ := exists_cons_of_not_isFinished hunfinished
  have ha : P a := h.shorter_comparable a (by simp [hshorter])
  obtain ⟨front, behind, hlonger, hfront, hbehind, hfinds⟩ :=
    hbefore.exists_less h.longer h.longer_comparable ha
  have htake : m.Leads (m.takeLonger front.length) key P := by
    refine h.leads_takeLonger fun b hb c hc => ?_
    rw [hlonger, List.take_left] at hb
    rw [hshorter] at hc
    cases hc
    exact hfront b hb
  simp only [stretchOfLonger, hshorter, hfinds.count side, ok_bind]
  split
  · rename_i hfinished
    exact ⟨_, _, rfl, htake, .inl hfinished⟩
  · have hhead : ∀ b ∈ (m.longer.drop front.length).head?, key a ≤ key b := by
      rw [hlonger, List.drop_left]
      exact fun b hb => hbehind b (List.mem_of_mem_head? hb)
    obtain ⟨hleads, hleft⟩ := htake.sound.leads_takeShorter_one hshorter hhead
    exact ⟨_, _, rfl, htake.trans hleads, .inr (hleft.trans_le htake.left)⟩

/-- Two stretches are taken, the second one unless nothing is left to be compared. -/
theorem Takes.exists_leads {f g : Merge α → Except ε (Merge α × Nat)} (hf : Takes f key P)
    (hg : Takes g key P) (h : m.Sound key P) (hunfinished : m.isFinished = false) :
    ∃ m', takeBoth f g m = .ok m' ∧ m.Leads m' key P ∧
      (m'.isFinished = true ∨ m'.left < m.left) := by
  obtain ⟨m₁, n, hm₁, hleads₁, hleft₁⟩ := hf m h hunfinished
  rw [takeBoth, hm₁, ok_bind]
  by_cases hfinished₁ : m₁.isFinished = true
  · simp only [if_pos hfinished₁]
    exact ⟨m₁, rfl, hleads₁, .inl hfinished₁⟩
  obtain ⟨m₂, k, hm₂, hleads₂, -⟩ := hg m₁ hleads₁.sound (by simpa using hfinished₁)
  have hleads := hleads₁.trans hleads₂
  have hleft : m₂.left < m.left := hleads₂.left.trans_lt (hleft₁.resolve_left hfinished₁)
  simp only [if_neg hfinished₁, hm₂, ok_bind]
  split
  · rename_i hfinished₂
    exact ⟨m₂, rfl, hleads, .inl hfinished₂⟩
  · -- the patience and the pace do not matter
    split
    · exact ⟨_, rfl, hleads.paced _ _, .inr hleft⟩
    · exact ⟨_, rfl, hleads.paced _ _, .inr hleft⟩

theorem Sound.leads_stepStretches (hbefore : Compares before key P) (h : m.Sound key P)
    (hunfinished : m.isFinished = false) :
    ∃ m', m.stepStretches side before = .ok m' ∧ m.Leads m' key P ∧
      (m'.isFinished = true ∨ m'.left < m.left) := by
  rw [stepStretches_eq]
  cases side with
  | front =>
    exact (takes_stretchOfShorter hbefore).exists_leads (takes_stretchOfLonger hbefore) h hunfinished
  | back =>
    exact (takes_stretchOfLonger hbefore).exists_leads (takes_stretchOfShorter hbefore) h hunfinished

theorem Sound.leads_step (hbefore : Compares before key P) (h : m.Sound key P)
    (hunfinished : m.isFinished = false) :
    ∃ m', m.step side before = .ok m' ∧ m.Leads m' key P ∧
      (m'.isFinished = true ∨ m'.left < m.left) := by
  rw [step]
  split
  · obtain ⟨m', hm', hleads, hleft⟩ := h.leads_stepSingle hbefore hunfinished _ _
    exact ⟨m', hm', hleads, .inr hleft⟩
  · exact h.leads_stepStretches hbefore hunfinished

/-! ### Whole merges -/

/-- Every step takes something, so that the bound is not reached before there is nothing to compare. -/
theorem Sound.leads_finish (hbefore : Compares before key P) (h : m.Sound key P) {bound : Nat}
    (hbound : m.isFinished = true ∨ m.left ≤ bound) :
    ∃ m', finish side before bound m = .ok m' ∧ m.Leads m' key P ∧ m'.isFinished = true := by
  induction bound generalizing m with
  | zero =>
    refine ⟨m, rfl, h.leads_self, hbound.elim id fun hle => ?_⟩
    -- no items are left
    rw [left] at hle
    have hshorter : m.shorter = [] := List.length_eq_zero_iff.1 (by omega)
    rw [isFinished, hshorter]
  | succ bound ih =>
    rw [finish]
    split
    · rename_i hfinished
      exact ⟨m, rfl, h.leads_self, hfinished⟩
    · rename_i hunfinished
      obtain ⟨m₁, hm₁, hleads₁, hleft₁⟩ := h.leads_step hbefore (by simpa using hunfinished)
      have hle := hbound.resolve_left hunfinished
      obtain ⟨m', hm', hleads, hfinished⟩ := ih hleads₁.sound (hleft₁.imp_right fun hlt => by omega)
      rw [hm₁, ok_bind]
      exact ⟨m', hm', hleads₁.trans hleads, hfinished⟩

/-- Where no comparison is needed any more, the rest is in order: one item of the shorter list may be left,
    and it belongs to the end. -/
theorem Sound.result_eq_merged (h : m.Sound key P) (hfinished : m.isFinished = true) :
    m.result = m.merged key := by
  rw [result, merged, List.append_assoc]
  congr 1
  rw [isFinished] at hfinished
  split at hfinished
  · rename_i hshorter
    rw [hshorter, List.nil_merge, List.append_nil]
  · -- one item is left that is greater than all of the longer list
    rename_i a hshorter
    have hlast : ∀ b ∈ m.longer, ∀ c ∈ m.shorter.head?, key b < key c := by
      intro b hb c hc
      rw [hshorter] at hc
      cases hc
      exact h.last a (by rw [hshorter]; rfl) b hb
    rw [← List.append_nil m.longer, merge_append_right hlast, List.merge_right, List.append_nil]
  · rw [List.isEmpty_iff.1 hfinished, List.merge_right]
    rfl

/-- A merge results in the merged list. The longer list has the first item and the shorter one the last. -/
theorem run_eq (hbefore : Compares before key P) {patience : Nat} {shorter longer : List α}
    (h : ({ shorter, longer, patience } : Merge α).Sound key P)
    (hfirst : ∀ b ∈ longer.head?, ∀ a ∈ shorter.head?, key b < key a) :
    ∃ m, run side before patience shorter longer = .ok m ∧
      m.result = shorter.merge longer (inOrder key) := by
  have hleads := h.leads_takeLonger (n := 1) fun b hb => hfirst b (by
    cases longer with
    | nil => cases hb
    | cons c longer => rw [List.mem_singleton.1 hb]; rfl)
  obtain ⟨m, hm, hleads', hfinished⟩ :
      ∃ m, run side before patience shorter longer = .ok m ∧ Leads _ m key P ∧ m.isFinished = true :=
    hleads.sound.leads_finish hbefore (.inr hleads.left)
  refine ⟨m, hm, ?_⟩
  rw [hleads'.sound.result_eq_merged hfinished, (hleads.trans hleads').merged]
  rfl

variable {patience : Nat} {front inner innerRight behind left right : List α}

/-- Both ends of two lists stay where they are. -/
theorem merge_outer {first last : α} (hfirst : ∀ b ∈ innerRight ++ behind, key first ≤ key b)
    (hlast : ∀ a ∈ inner, key a ≤ key last) (hfront : ∀ a ∈ front, key a ≤ key first)
    (hbehind : ∀ b ∈ behind, key last ≤ key b) :
    (front ++ inner).merge (innerRight ++ behind) (inOrder key) =
      front ++ inner.merge innerRight (inOrder key) ++ behind := by
  have hleft : ∀ a ∈ front, ∀ b ∈ (innerRight ++ behind).head?, key a ≤ key b :=
    fun a ha b hb => (hfront a ha).trans (hfirst b (List.mem_of_mem_head? hb))
  have hright : ∀ a ∈ inner, ∀ b ∈ behind, key a ≤ key b :=
    fun a ha b hb => (hlast a ha).trans (hbehind b hb)
  rw [merge_append_left hleft, merge_append_behind hright, List.append_assoc]

/-- The inner parts of two lists: the left one has the last item, and the right one has the first. -/
structure Crossed (key : α → κ) (P : α → Prop) (inner innerRight : List α) : Prop where
  left : Ascends key inner
  right : Ascends key innerRight
  left_comparable : ∀ a ∈ inner, P a
  right_comparable : ∀ b ∈ innerRight, P b
  last : ∀ a ∈ inner.getLast?, ∀ b ∈ innerRight, key b < key a
  first : ∀ b ∈ innerRight.head?, ∀ a ∈ inner, key b < key a

/-- The inner parts are merged from the end at which the shorter one is. -/
theorem Crossed.run_front (h : Crossed key P inner innerRight) (hbefore : Compares before key P)
    (patience : Nat) : ∃ m, run .front before patience inner innerRight = .ok m ∧
      m.result = inner.merge innerRight (inOrder key) :=
  run_eq hbefore ⟨h.left, h.right, h.left_comparable, h.right_comparable, h.last⟩
    fun b hb a ha => h.first b hb a (List.mem_of_mem_head? ha)

theorem Crossed.run_back (h : Crossed key P inner innerRight) (hbefore : Compares before key P)
    (patience : Nat) :
    ∃ m, run .back (fun a b => before b a) patience innerRight.reverse inner.reverse = .ok m ∧
      m.result.reverse = inner.merge innerRight (inOrder key) := by
  have hsound : ({ shorter := innerRight.reverse, longer := inner.reverse, patience } :
      Merge α).Sound (turned key) P := by
    refine ⟨List.pairwise_reverse.2 h.right, List.pairwise_reverse.2 h.left,
      fun b hb => h.right_comparable b (List.mem_reverse.1 hb),
      fun a ha => h.left_comparable a (List.mem_reverse.1 ha), fun b hb a ha => ?_⟩
    have hb : b ∈ innerRight.reverse.getLast? := hb
    rw [List.getLast?_reverse] at hb
    exact h.first b hb a (List.mem_reverse.1 ha)
  have hends : ∀ a ∈ inner.reverse.head?, ∀ b ∈ innerRight.reverse.head?,
      turned key a < turned key b := by
    intro a ha b hb
    rw [List.head?_reverse] at ha
    exact h.last a ha b (List.mem_reverse.1 (List.mem_of_mem_head? hb))
  obtain ⟨m, hm, hresult⟩ := run_eq hbefore.turned hsound hends
  exact ⟨m, hm, by rw [hresult, reverse_merge h.left h.right]⟩

/-- Two neighbouring ascending lists are joined into the merged list. -/
theorem join_eq (hbefore : Compares before key P) (hleft : Ascends key left)
    (hright : Ascends key right) (hP : ∀ a ∈ left, P a) (hP' : ∀ b ∈ right, P b) :
    ∃ patience', join before patience left right =
      .ok (left.merge right (inOrder key), patience') := by
  cases right with
  | nil => exact ⟨patience, by rw [join, List.merge_right]⟩
  | cons first rest =>
    have hfirst : ∀ b ∈ first :: rest, key first ≤ key b := fun b hb => by
      rcases List.mem_cons.1 hb with rfl | hb
      · exact le_refl _
      · exact (List.pairwise_cons.1 hright).1 b hb
    -- what is not greater than the first item of the right list stays in front
    obtain ⟨front, inner, rfl, hfront, hinner, hfinds⟩ :=
      hbefore.exists_notGreater hleft hP (hP' first List.mem_cons_self)
    have hleft' : Ascends key inner := (List.pairwise_append.1 hleft).2.1
    have hPinner : ∀ a ∈ inner, P a := fun a ha => hP a (List.mem_append_right _ ha)
    rw [join, hfinds.count .front, ok_bind, List.drop_left, List.take_left]
    cases hlast : inner.getLast? with
    | none =>
      rw [List.getLast?_eq_none_iff] at hlast
      subst hlast
      rw [List.append_nil]
      refine ⟨patience, congrArg Except.ok (congrArg (·, patience) ?_)⟩
      exact (List.merge_of_le fun a b ha hb => inOrder_iff.2 ((hfront a ha).trans (hfirst b hb))).symm
    | some last =>
      have hmem : last ∈ inner := List.mem_of_getLast? hlast
      -- what is not less than the last item of the left list stays at the end
      obtain ⟨innerRight, behind, hsplit, hless, hbehind, hfinds'⟩ :=
        hbefore.exists_notLess hright hP' (hPinner last hmem)
      have hcrossed : Crossed key P inner innerRight :=
        { left := hleft'
          right := (List.pairwise_append.1 (hsplit ▸ hright)).1
          left_comparable := hPinner
          right_comparable := fun b hb => hP' b (hsplit ▸ List.mem_append_left _ hb)
          last := fun a ha => by
            rw [hlast] at ha
            cases ha
            exact hless
          first := fun b hb a ha => by
            have hb : b ∈ (first :: rest).head? := by
              rw [hsplit, List.head?_append, hb]
              rfl
            cases hb
            exact hinner a ha }
      have hlength : (innerRight ++ behind).length - behind.length = innerRight.length := by
        rw [List.length_append]
        omega
      rw [hsplit] at hfirst hfinds' ⊢
      rw [merge_outer hfirst (hleft'.le_getLast hlast) hfront hbehind]
      simp only [hlast, hfinds'.count .back, ok_bind, hlength, List.take_left, List.drop_left]
      split
      · obtain ⟨m, hm, hresult⟩ := hcrossed.run_front hbefore patience
        rw [hm, ok_bind, hresult]
        exact ⟨_, rfl⟩
      · obtain ⟨m, hm, hresult⟩ := hcrossed.run_back hbefore patience
        rw [hm, ok_bind, hresult]
        exact ⟨_, rfl⟩

end Merge

end FiniteAutomata

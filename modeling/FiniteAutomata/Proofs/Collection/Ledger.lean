import FiniteAutomata.Collection.Ledger

namespace FiniteAutomata.Ledger

/-!
# Ledgers with distinct keys

An update looks for its key before it adds an entry, so no two entries of a ledger that was built by
updates have the same key. What is kept under a key is then what its entry holds.

* `Distinct`: no two entries have the same key.
* `Distinct.update`: an update keeps the keys distinct.
* `Distinct.get?_eq_some_iff`: a key is found exactly if some spelling of it has an entry.
* `get?_update`: an update is seen under every spelling of its key and under no other key.
* `mem_of_mem_update`: an update leaves every entry alone but that of its own key.
* `forall_mem_update`, `forall_key_update`: what is true of all entries stays true of them.
* `update_of_get?_eq_some`: an update that changes nothing leaves the ledger as it is.
* `get?_filter_ne`: an entry that is taken out is found no more, and all others are.
-/

variable {κ α : Type} [BEq κ]

/-- No two entries have the same key. -/
def Distinct (l : Ledger κ α) : Prop := l.Pairwise fun e e' => (e.1 == e'.1) = false

theorem distinct_nil : Distinct ([] : Ledger κ α) := List.Pairwise.nil

/-- What is kept under a key stands in an entry whose key is the same. -/
theorem exists_mem_of_get?_eq_some {l : Ledger κ α} {key : κ} {a : α}
    (h : l.get? key = some a) : ∃ k, (k, a) ∈ l ∧ (k == key) = true := by
  induction l with
  | nil => cases h
  | cons e rest ih =>
    obtain ⟨k, b⟩ := e
    rw [get?] at h
    split at h
    · rename_i hk
      cases h
      exact ⟨k, List.mem_cons_self, hk⟩
    · obtain ⟨k', hmem, hk'⟩ := ih h
      exact ⟨k', List.mem_cons_of_mem _ hmem, hk'⟩

theorem Distinct.get?_of_mem [EquivBEq κ] {l : Ledger κ α} (h : l.Distinct) {k key : κ} {a : α}
    (hmem : (k, a) ∈ l) (hk : (k == key) = true) : l.get? key = some a := by
  induction l with
  | nil => cases hmem
  | cons e rest ih =>
    obtain ⟨k', b⟩ := e
    obtain ⟨hne, hrest⟩ := List.pairwise_cons.1 h
    rw [get?]
    rcases List.mem_cons.1 hmem with heq | hmem
    · cases heq
      rw [if_pos hk]
    · -- the entry in front has another key, since it differs from the one that was found
      have hk' : (k' == key) = false := by
        rw [← BEq.congr_right hk]
        exact hne (k, a) hmem
      rw [hk', if_neg Bool.false_ne_true]
      exact ih hrest hmem

/-- In a ledger with distinct keys a key is found exactly if some spelling of it has an entry. -/
theorem Distinct.get?_eq_some_iff [EquivBEq κ] {l : Ledger κ α} (h : l.Distinct) {key : κ} {a : α} :
    l.get? key = some a ↔ ∃ k, (k, a) ∈ l ∧ (k == key) = true :=
  ⟨exists_mem_of_get?_eq_some, fun ⟨_, hmem, hk⟩ => h.get?_of_mem hmem hk⟩

/-! ### Updates -/

/-- An update is seen under every spelling of its key and under no other key. -/
theorem get?_update [EquivBEq κ] {l : Ledger κ α} {key key' : κ} {f : Option α → α} :
    (l.update key f).get? key' = if key == key' then some (f (l.get? key)) else l.get? key' := by
  split
  · rename_i h
    rw [← get?_congr h, get?_update_self]
  · rename_i h
    exact get?_update_of_ne (Bool.eq_false_iff.2 h)

/-- An entry after an update was there before, or it is the one that was updated. -/
theorem mem_of_mem_update {l : Ledger κ α} {key k : κ} {a : α} {f : Option α → α}
    (h : (k, a) ∈ l.update key f) :
    (k, a) ∈ l ∨ a = f (l.get? key) ∧ (k = key ∨ ∃ b, (k, b) ∈ l) := by
  induction l with
  | nil =>
    rw [update, List.mem_singleton] at h
    cases h
    exact .inr ⟨rfl, .inl rfl⟩
  | cons e rest ih =>
    obtain ⟨k', b⟩ := e
    rw [update] at h
    rw [get?]
    split at h
    · rename_i hk
      rw [if_pos hk]
      rcases List.mem_cons.1 h with heq | hmem
      · cases heq
        exact .inr ⟨rfl, .inr ⟨b, List.mem_cons_self⟩⟩
      · exact .inl (List.mem_cons_of_mem _ hmem)
    · rename_i hk
      rw [if_neg hk]
      rcases List.mem_cons.1 h with heq | hmem
      · cases heq
        exact .inl List.mem_cons_self
      · rcases ih hmem with hold | ⟨ha, hkey | ⟨c, hc⟩⟩
        · exact .inl (List.mem_cons_of_mem _ hold)
        · exact .inr ⟨ha, .inl hkey⟩
        · exact .inr ⟨ha, .inr ⟨c, List.mem_cons_of_mem _ hc⟩⟩

/-- What is true of all keys and of all that is kept stays true of them. -/
theorem forall_mem_update {l : Ledger κ α} {key : κ} {f : Option α → α} {p : κ → Prop}
    {q : α → Prop} (hl : ∀ k a, (k, a) ∈ l → p k ∧ q a) (hkey : p key)
    (hf : ∀ o : Option α, (∀ a, o = some a → q a) → q (f o)) :
    ∀ k a, (k, a) ∈ l.update key f → p k ∧ q a := by
  intro k a hmem
  rcases mem_of_mem_update hmem with hold | ⟨rfl, hk⟩
  · exact hl k a hold
  · constructor
    · rcases hk with rfl | ⟨b, hb⟩
      · exact hkey
      · exact (hl k b hb).1
    · refine hf _ fun b hb => ?_
      obtain ⟨k', hmem', -⟩ := exists_mem_of_get?_eq_some hb
      exact (hl k' b hmem').2

/-- What is true of all keys stays true of them. -/
theorem forall_key_update {l : Ledger κ α} {key : κ} {f : Option α → α} {p : κ → Prop}
    (hl : ∀ k a, (k, a) ∈ l → p k) (hkey : p key) : ∀ k a, (k, a) ∈ l.update key f → p k := by
  intro k a hmem
  have h := forall_mem_update (q := fun _ => True) (fun k a hk => ⟨hl k a hk, trivial⟩) hkey
    (fun _ _ => trivial) k a hmem
  exact h.1

/-- An update keeps the keys distinct. -/
theorem Distinct.update [EquivBEq κ] {l : Ledger κ α} (h : l.Distinct) (key : κ)
    (f : Option α → α) : (l.update key f).Distinct := by
  induction l with
  | nil => exact List.pairwise_singleton _ _
  | cons e rest ih =>
    obtain ⟨k, a⟩ := e
    obtain ⟨hne, hrest⟩ := List.pairwise_cons.1 h
    rw [Ledger.update]
    split
    · -- an update in place changes no key
      exact List.pairwise_cons.2 ⟨hne, hrest⟩
    · rename_i hk
      refine List.pairwise_cons.2 ⟨?_, ih hrest⟩
      rintro ⟨k', b⟩ hmem
      -- the new entries have the key that was looked for, or a key that was there before
      rcases mem_of_mem_update hmem with hold | ⟨-, rfl | ⟨c, hc⟩⟩
      · exact hne (k', b) hold
      · exact Bool.eq_false_iff.2 hk
      · exact hne (k', c) hc

/-- To keep under a key what is kept there already changes nothing. -/
theorem update_of_get?_eq_some {l : Ledger κ α} {key : κ} {a : α} {f : Option α → α}
    (h : l.get? key = some a) (hf : f (some a) = a) : l.update key f = l := by
  induction l with
  | nil => cases h
  | cons e rest ih =>
    obtain ⟨k, b⟩ := e
    rw [get?] at h
    rw [Ledger.update]
    split
    · rename_i hk
      rw [if_pos hk, Option.some.injEq] at h
      rw [h, hf]
    · rename_i hk
      rw [if_neg hk] at h
      rw [ih h]

/-- Without the entries under a key nothing is found under it, and what is under other keys is. -/
theorem get?_filter_ne [LawfulBEq κ] (l : Ledger κ α) (key key' : κ) :
    get? (l.filter fun e => e.1 != key) key' = if key == key' then none else l.get? key' := by
  induction l with
  | nil => simp [get?]
  | cons e rest ih =>
    obtain ⟨k, a⟩ := e
    by_cases hk : k = key
    · subst hk
      simp only [List.filter_cons, bne_self_eq_false, Bool.false_eq_true, if_false, ih, get?]
      by_cases hkey : k = key'
      · simp [hkey]
      · simp [hkey]
    · simp only [List.filter_cons, bne_iff_ne, ne_eq, hk, not_false_eq_true, if_true, get?, ih]
      by_cases hkey : k = key'
      · subst hkey
        simp [Ne.symm hk]
      · simp [hkey]

end FiniteAutomata.Ledger

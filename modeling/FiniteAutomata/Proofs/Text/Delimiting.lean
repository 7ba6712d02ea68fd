import Mathlib.Data.List.Basic

namespace FiniteAutomata.Text

/-!
# Codes whose end can be seen

A text that is put together from codes can be taken apart again if it can be seen where each code
ends. Some codes end by themselves; others need something behind them that cannot be part of them.

* `Delimits`: a code that can be told apart from whatever follows it.
* `Delimits.of_reader`: a code with a reader.
* `Delimits.flatMap`: a sequence of codes up to a text that no code begins with.
* `append_inj_of_inside`: characters of one sort up to a character of another sort.
-/

variable {α : Type}

/-- Where the code of an item with `p` is followed by a text with `stop`, both can be told from the
    whole. -/
def Delimits (code : α → List Char) (p : α → Prop) (stop : List Char → Prop) : Prop :=
  ∀ ⦃a b : α⦄ ⦃r r' : List Char⦄, p a → p b → stop r → stop r' →
    code a ++ r = code b ++ r' → a = b ∧ r = r'

/-- What a reader makes of the text is the item and what follows its code. -/
theorem Delimits.of_reader {code : α → List Char} {p : α → Prop} {stop : List Char → Prop}
    (read : List Char → Option (α × List Char))
    (hread : ∀ a r, p a → stop r → read (code a ++ r) = some (a, r)) : Delimits code p stop := by
  intro a b r r' ha hb hr hr' h
  have hpair : some (a, r) = some (b, r') := by
    rw [← hread a r ha hr, ← hread b r' hb hr', h]
  simpa using hpair

theorem Delimits.injective {code : α → List Char} {p : α → Prop} {stop : List Char → Prop}
    (h : Delimits code p stop) (hnil : stop []) {a b : α} (ha : p a) (hb : p b)
    (hab : code a = code b) : a = b :=
  (h ha hb hnil hnil (by rw [hab])).1

/-- A sequence of codes can be taken apart up to a final text that no code begins with. -/
theorem Delimits.flatMap {code : α → List Char} {p : α → Prop} {stop : List Char → Prop}
    (h : Delimits code p stop) (fin : List Char → Prop) (hstop : ∀ a r, p a → stop (code a ++ r))
    (hfin : ∀ r, fin r → stop r) (hne : ∀ a r, p a → ¬ fin (code a ++ r)) :
    Delimits (fun items : List α => items.flatMap code) (fun items => ∀ a ∈ items, p a) fin := by
  -- what follows a code is the next code or the final text
  have hrest : ∀ (items : List α) (r : List Char), (∀ a ∈ items, p a) → fin r →
      stop (items.flatMap code ++ r) := by
    intro items r hitems hr
    cases items with
    | nil => exact hfin r hr
    | cons a rest =>
      rw [List.flatMap_cons, List.append_assoc]
      exact hstop a _ (hitems a List.mem_cons_self)
  intro items items' r r' hitems hitems' hr hr' heq
  induction items generalizing items' with
  | nil =>
    cases items' with
    | nil => exact ⟨rfl, heq⟩
    | cons b rest' =>
      simp only [List.flatMap_nil, List.nil_append, List.flatMap_cons, List.append_assoc] at heq
      exact absurd (heq ▸ hr) (hne b _ (hitems' b List.mem_cons_self))
  | cons a rest ih =>
    cases items' with
    | nil =>
      simp only [List.flatMap_nil, List.nil_append, List.flatMap_cons, List.append_assoc] at heq
      exact absurd (heq.symm ▸ hr') (hne a _ (hitems a List.mem_cons_self))
    | cons b rest' =>
      rw [List.forall_mem_cons] at hitems hitems'
      simp only [List.flatMap_cons, List.append_assoc] at heq
      obtain ⟨hab, htail⟩ := h hitems.1 hitems'.1 (hrest rest r hitems.2 hr)
        (hrest rest' r' hitems'.2 hr') heq
      obtain ⟨hrests, hends⟩ := ih hitems.2 hitems'.2 htail
      exact ⟨by rw [hab, hrests], hends⟩

/-- Characters of one sort can be told from a text that begins with another one, if it is not
    empty. -/
theorem append_inj_of_inside {inside : Char → Prop} {u v r r' : List Char}
    (hu : ∀ c ∈ u, inside c) (hv : ∀ c ∈ v, inside c) (hr : ∀ c ∈ r.head?, ¬ inside c)
    (hr' : ∀ c ∈ r'.head?, ¬ inside c) (h : u ++ r = v ++ r') : u = v ∧ r = r' := by
  induction u generalizing v with
  | nil =>
    cases v with
    | nil => exact ⟨rfl, h⟩
    | cons d v =>
      rw [List.nil_append] at h
      subst h
      -- the rest of one text would begin with a character of that sort
      exact absurd (hv d List.mem_cons_self) (hr d rfl)
  | cons c u ih =>
    cases v with
    | nil =>
      rw [List.nil_append] at h
      subst h
      exact absurd (hu c List.mem_cons_self) (hr' c rfl)
    | cons d v =>
      rw [List.forall_mem_cons] at hu hv
      rw [List.cons_append, List.cons_append, List.cons.injEq] at h
      obtain ⟨huv, hends⟩ := ih hu.2 hv.2 h.2
      exact ⟨by rw [h.1, huv], hends⟩

end FiniteAutomata.Text

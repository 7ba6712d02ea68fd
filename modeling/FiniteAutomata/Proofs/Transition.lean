import FiniteAutomata.Proofs.Spelling
import FiniteAutomata.Transition

namespace FiniteAutomata

/-!
# Listings of transitions

An edge is listed as a transition on one spelling of its symbol. Two listings hold the same edges
when one is the other in some order and some spelling.

* `Transition.Same`: the same edge, however its symbol is spelled.
* `SameEdges`: two listings of the same edges.
* `sameEdges_iff_perm`: what all spellings of an edge share decides.
* `SameEdges.perm_of_onlyTexts`: where all symbols are texts, only the order is free.
* `SameEdges.sameRefusal_mapM`: the texts of the symbols exist in both listings or in none.
-/

/-- A value that is taken for a symbol is the value of that symbol. -/
theorem Value.eq_value_of_symbol {v : Value} {a : Symbol} (h : v.symbol = .ok a) : v = a.value := by
  unfold Value.symbol at h
  split at h
  · cases h
    rfl
  · cases h

/-- Transitions between the same states on spellings of one symbol. -/
structure Transition.Same (t u : Transition) : Prop where
  source : t.source = u.source
  symbol : (t.symbol == u.symbol) = true
  target : t.target = u.target

/-- The two listings hold the same edges: the second one is a spelling of the first one in some
    order. -/
def SameEdges (ts us : List Transition) : Prop :=
  ∃ vs, List.Forall₂ Transition.Same ts vs ∧ vs.Perm us

/-- All symbols are texts. -/
def OnlyTexts (ts : List Transition) : Prop := ∀ t ∈ ts, ∃ s, t.symbol.value = .text s

/-! ### What all spellings of an edge share -/

/-- What all spellings of an edge share. -/
def Transition.edge (t : Transition) : Nat × Value × Nat :=
  (t.source, t.symbol.value.canonical, t.target)

theorem Transition.same_iff {t u : Transition} : t.Same u ↔ t.edge = u.edge := by
  simp only [edge, Prod.mk.injEq]
  exact ⟨fun h => ⟨h.source, Symbol.beq_iff.1 h.symbol, h.target⟩,
    fun ⟨hs, ha, ht⟩ => ⟨hs, Symbol.beq_iff.2 ha, ht⟩⟩

theorem forall₂_same_iff {ts us : List Transition} :
    List.Forall₂ Transition.Same ts us ↔
      ts.map Transition.edge = us.map Transition.edge := by
  have hsame : Transition.Same = fun t u => t.edge = u.edge := by
    funext t u
    exact propext Transition.same_iff
  rw [← List.forall₂_eq_eq_eq, List.forall₂_map_left_iff, List.forall₂_map_right_iff, hsame]

theorem sameEdges_iff_perm {ts us : List Transition} :
    SameEdges ts us ↔ (ts.map Transition.edge).Perm (us.map Transition.edge) := by
  simp only [SameEdges, forall₂_same_iff]
  exact iff_of_eq (congrFun (congrFun (List.eq_map_comp_perm Transition.edge) _) us)

/-! ### Same edges -/

variable {ts us : List Transition}

theorem SameEdges.length_eq (h : SameEdges ts us) : ts.length = us.length := by
  obtain ⟨vs, hsame, hperm⟩ := h
  exact hsame.length_eq.trans hperm.length_eq

/-- Every edge of the first listing is in the second one. -/
theorem SameEdges.exists_same (h : SameEdges ts us) {t : Transition} (ht : t ∈ ts) :
    ∃ u ∈ us, t.Same u := by
  have hmem : t.edge ∈ us.map Transition.edge :=
    (sameEdges_iff_perm.1 h).mem_iff.1 (List.mem_map_of_mem ht)
  obtain ⟨u, hu, hedge⟩ := List.mem_map.1 hmem
  exact ⟨u, hu, Transition.same_iff.2 hedge.symm⟩

theorem SameEdges.symm (h : SameEdges ts us) : SameEdges us ts :=
  sameEdges_iff_perm.2 (sameEdges_iff_perm.1 h).symm

/-- A transition on a text has one spelling. -/
theorem Transition.Same.eq_of_text {t u : Transition} (h : t.Same u) {s : String}
    (hs : t.symbol.value = .text s) : t = u := by
  obtain ⟨source, ⟨value, hvalue⟩, target⟩ := t
  obtain ⟨source', ⟨value', hvalue'⟩, target'⟩ := u
  obtain ⟨rfl, hsymbol, rfl⟩ := h
  simp only at hs
  subst hs
  have : value' = .text s := Value.eq_of_same_text hsymbol
  subst this
  rfl

/-- Where all symbols are texts, only the order of the listing is free. -/
theorem SameEdges.perm_of_onlyTexts (h : SameEdges ts us) (htexts : OnlyTexts ts) :
    ts.Perm us := by
  obtain ⟨vs, hsame, hperm⟩ := h
  -- no text has a second spelling, so respelling changes nothing
  have heq : ts = vs := by
    induction hsame generalizing us with
    | nil => rfl
    | @cons t v ts vs hcons hrest ih =>
      obtain ⟨s, hs⟩ := htexts t List.mem_cons_self
      rw [hcons.eq_of_text hs,
        ih (fun t' ht' => htexts t' (List.mem_cons_of_mem t ht')) (List.Perm.refl vs)]
  exact heq ▸ hperm

/-! ### Texts of the symbols -/

/-- What is made of the text of each symbol can only be refused because a number is too long. -/
theorem mapM_plain_eq_error {α : Type} {f : Transition → String → α} {fault : Fault}
    (h : ts.mapM (fun t => return f t (← t.symbol.value.plain)) = .error fault) :
    fault = .numberTooLong := by
  obtain ⟨t, -, ht⟩ := mapM_eq_error h
  cases hplain : t.symbol.value.plain with
  | ok s => rw [hplain] at ht; cases ht
  | error e => rw [hplain] at ht; cases ht; exact Value.plain_eq_error hplain

/-- What is made of the text of each symbol exists for both listings of the same edges or for
    none. -/
theorem SameEdges.sameRefusal_mapM {α : Type} (h : SameEdges ts us)
    (f : Transition → String → α) :
    SameRefusal (ts.mapM fun t => return f t (← t.symbol.value.plain) : Except Fault (List α))
      (us.mapM fun t => return f t (← t.symbol.value.plain) : Except Fault (List α)) := by
  refine .of_isOk (fun _ => mapM_plain_eq_error) (fun _ => mapM_plain_eq_error) ?_
  have hle : ∀ {ts us : List Transition}, SameEdges ts us →
      (∀ u ∈ us, u.symbol.value.plain.isOk = true) →
        ∀ t ∈ ts, t.symbol.value.plain.isOk = true := by
    intro ts us h hus t ht
    obtain ⟨u, hu, hsame⟩ := h.exists_same ht
    rw [Value.isOk_plain_congr hsame.symbol]
    exact hus u hu
  rw [Bool.eq_iff_iff, isOk_mapM, isOk_mapM]
  simp only [isOk_bind_pure]
  exact ⟨hle h.symm, hle h⟩

end FiniteAutomata

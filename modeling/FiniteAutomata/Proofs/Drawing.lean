import FiniteAutomata.Description
import FiniteAutomata.Proofs.Collection.Ascending

namespace FiniteAutomata

/-!
# Order in drawings and descriptions

What is drawn or described is put in order first, so that neither the order of transitions nor
repeated edges show.

* `isOrder_pairBefore`, `TransitionLine.isOrder_before`: the orders that are used.
* `pairwise_arrowsOf`, `exists_arrow_iff`, `mem_labels_iff`: which arrows there are, in which order and
  with which labels.
* `arrowsOf_congr`, `arrowsOf_eq_iff`: the arrows of a drawing show which edges there are and
  nothing else.
-/

theorem isOrder_pairBefore : Ascending.IsOrder pairBefore :=
  Ascending.isOrder_nat.lex Ascending.isOrder_nat

/-- What the order of lines looks at. -/
def TransitionLine.key (t : TransitionLine) : Nat × String × Nat := (t.source, t.symbol, t.target)

theorem TransitionLine.isOrder_before : Ascending.IsOrder TransitionLine.before := by
  have hlex := Ascending.isOrder_nat.lex (Ascending.isOrder_string.lex Ascending.isOrder_nat)
  refine hlex.comap (?_ : ∀ {a b : TransitionLine}, a.key = b.key → a = b)
  rintro ⟨s, a, t⟩ ⟨s', a', t'⟩ h
  cases h
  rfl

/-- The arrows of a drawing depend on which edges there are, not on their order or number. -/
theorem arrowsOf_congr {es fs : List LabelledEdge} (h : ∀ e, e ∈ es ↔ e ∈ fs) :
    arrowsOf es = arrowsOf fs := by
  have hpairs : Ascending.ofList pairBefore (es.map fun e => (e.source, e.target)) =
      Ascending.ofList pairBefore (fs.map fun e => (e.source, e.target)) := by
    refine Ascending.ofList_congr isOrder_pairBefore fun p => ?_
    simp only [List.mem_map, h]
  have hlabels : ∀ s t, Ascending.ofList (fun a b : String => decide (a < b))
        ((es.filter fun e => e.source == s && e.target == t).map (·.label)) =
      Ascending.ofList (fun a b => decide (a < b))
        ((fs.filter fun e => e.source == s && e.target == t).map (·.label)) := by
    intro s t
    refine Ascending.ofList_congr Ascending.isOrder_string fun label => ?_
    simp only [List.mem_map, List.mem_filter, h]
  simp only [arrowsOf, hpairs, hlabels]

/-! ### Arrows -/

section Arrows

variable {es : List LabelledEdge} {x : Arrow}

/-- There is one arrow for each ordered pair of states with an edge, in ascending order. -/
theorem pairwise_arrowsOf (es : List LabelledEdge) :
    (arrowsOf es).Pairwise fun x y => pairBefore (x.source, x.target) (y.source, y.target) = true := by
  rw [arrowsOf, List.pairwise_map]
  exact Ascending.pairwise_ofList isOrder_pairBefore _

theorem exists_arrow_iff {source target : Nat} :
    (∃ x ∈ arrowsOf es, x.source = source ∧ x.target = target) ↔
      ∃ label, ⟨source, target, label⟩ ∈ es := by
  simp only [arrowsOf, List.mem_map, Ascending.mem_ofList]
  constructor
  · rintro ⟨_, ⟨_, ⟨e, he, rfl⟩, rfl⟩, rfl, rfl⟩
    exact ⟨e.label, he⟩
  · rintro ⟨label, he⟩
    exact ⟨_, ⟨_, ⟨_, he, rfl⟩, rfl⟩, rfl, rfl⟩

/-- The labels of an arrow are those of the edges between its states. -/
theorem mem_labels_iff (hx : x ∈ arrowsOf es) {label : String} :
    label ∈ x.labels ↔ ⟨x.source, x.target, label⟩ ∈ es := by
  obtain ⟨⟨s, t⟩, -, rfl⟩ := List.mem_map.1 hx
  simp only [Ascending.mem_ofList, List.mem_map, List.mem_filter, Bool.and_eq_true, beq_iff_eq]
  constructor
  · rintro ⟨e, ⟨he, rfl, rfl⟩, rfl⟩
    exact he
  · intro he
    exact ⟨_, ⟨he, rfl, rfl⟩, rfl⟩

theorem pairwise_labels (hx : x ∈ arrowsOf es) : x.labels.Pairwise fun l m => l < m := by
  obtain ⟨⟨s, t⟩, -, rfl⟩ := List.mem_map.1 hx
  exact (Ascending.pairwise_ofList Ascending.isOrder_string _).imp of_decide_eq_true

/-- The edges are the labels of the arrows. -/
theorem mem_iff_exists_arrow {e : LabelledEdge} :
    e ∈ es ↔ ∃ a ∈ arrowsOf es, a.source = e.source ∧ a.target = e.target ∧ e.label ∈ a.labels := by
  obtain ⟨s, t, label⟩ := e
  constructor
  · intro he
    obtain ⟨x, hx, rfl, rfl⟩ := exists_arrow_iff.2 ⟨label, he⟩
    exact ⟨x, hx, rfl, rfl, (mem_labels_iff hx).2 he⟩
  · rintro ⟨x, hx, rfl, rfl, hlabel⟩
    exact (mem_labels_iff hx).1 hlabel

end Arrows

/-- Two sets of edges have the same arrows exactly if they are the same. -/
theorem arrowsOf_eq_iff {es fs : List LabelledEdge} :
    arrowsOf es = arrowsOf fs ↔ ∀ e, e ∈ es ↔ e ∈ fs := by
  refine ⟨fun h e => ?_, arrowsOf_congr⟩
  rw [mem_iff_exists_arrow, mem_iff_exists_arrow, h]

end FiniteAutomata

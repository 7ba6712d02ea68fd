import FiniteAutomata.Proofs.Automaton.Asking
import FiniteAutomata.Proofs.Drawing
import FiniteAutomata.Proofs.Drawing.Source
import FiniteAutomata.Proofs.Outcome

namespace FiniteAutomata.Automaton

/-!
# The text of a drawing and the automaton that is drawn

The text shows the kind of an automaton, its states with their flags, its initial state and which
texts and epsilon transitions lead from which state to which. It shows nothing else: not the order
of calls, not repeated or refused calls.

* `HasTexts`: every symbol of the automaton has a text.
* `Reads`: the texts that lead from one state to another.
* `SameDrawing`: what two automata with the same text share.
* `mem_edges_iff`: the edges to draw.
* `dot_eq_iff_sameDrawing`: the text determines the drawing and nothing else.
-/

/-- Every symbol in the table has a text. -/
def HasTexts (a : Automaton) : Prop :=
  ∀ t ∈ a.transitions, ∃ text, t.symbol.value.plain = .ok text

/-- Some symbol with the given text leads from one state to another. -/
def Reads (a : Automaton) (source target : Nat) (text : String) : Prop :=
  ∃ t ∈ a.transitions, t.source = source ∧ t.target = target ∧ t.symbol.value.plain = .ok text

/-- What two automata share that are drawn alike. -/
structure SameDrawing (a b : Automaton) : Prop where
  kind : a.kind = b.kind
  flags : a.space.flags = b.space.flags
  initial : a.space.initial? = b.space.initial?
  texts : ∀ i j text, a.Reads i j text ↔ b.Reads i j text
  epsilons : ∀ i j, (i, j) ∈ a.epsilonTransitions ↔ (i, j) ∈ b.epsilonTransitions

/-! ### Edges to draw -/

variable {a b : Automaton} {es fs : List LabelledEdge}

/-- There are edges to draw exactly if every symbol has a text. -/
theorem exists_symbolEdges_iff : (∃ es, a.symbolEdges = .ok es) ↔ a.HasTexts := by
  rw [symbolEdges, symbolEdgesOf, exists_mapM_eq_ok_iff, HasTexts]
  refine forall₂_congr fun t _ => ⟨?_, ?_⟩
  · rintro ⟨e, he⟩
    obtain ⟨label, hlabel, -⟩ := bind_eq_ok_iff.1 he
    obtain ⟨text, htext, -⟩ := labelOf_eq_ok_iff.1 hlabel
    exact ⟨text, htext⟩
  · rintro ⟨text, htext⟩
    exact ⟨⟨t.source, t.target, textLabel text⟩, by rw [labelOf, htext]; rfl⟩

theorem HasTexts.exists_symbolEdges (h : a.HasTexts) : ∃ es, a.symbolEdges = .ok es :=
  exists_symbolEdges_iff.2 h

theorem mem_epsilonEdges_iff {source target : Nat} {label : String} :
    ⟨source, target, label⟩ ∈ a.epsilonEdges ↔
      (source, target) ∈ a.epsilonTransitions ∧ label = epsilonLabel := by
  rw [epsilonEdges, epsilonEdgesOf, List.mem_map]
  constructor
  · rintro ⟨⟨s, t⟩, hmem, heq⟩
    cases heq
    exact ⟨hmem, rfl⟩
  · rintro ⟨hmem, rfl⟩
    exact ⟨_, hmem, rfl⟩

theorem mem_symbolEdges_iff (h : a.symbolEdges = .ok es) {source target : Nat} {label : String} :
    ⟨source, target, label⟩ ∈ es ↔ ∃ text, a.Reads source target text ∧ label = textLabel text := by
  rw [mem_iff_of_mapM_eq_ok h]
  constructor
  · rintro ⟨t, ht, hedge⟩
    obtain ⟨label', hlabel, heq⟩ := bind_eq_ok_iff.1 hedge
    obtain ⟨text, htext, htextLabel⟩ := bind_eq_ok_iff.1 hlabel
    cases heq
    cases htextLabel
    exact ⟨text, ⟨t, ht, rfl, rfl, htext⟩, rfl⟩
  · rintro ⟨text, ⟨t, ht, rfl, rfl, htext⟩, rfl⟩
    exact ⟨t, ht, by rw [labelOf, htext]; rfl⟩

/-- An edge to draw is the label of a text or of an epsilon transition. -/
theorem mem_edges_iff (h : a.symbolEdges = .ok es) {source target : Nat} {label : String} :
    ⟨source, target, label⟩ ∈ es ++ a.epsilonEdges ↔
      LabelAmong (a.Reads source target) ((source, target) ∈ a.epsilonTransitions) label := by
  rw [List.mem_append, mem_symbolEdges_iff h, mem_epsilonEdges_iff, LabelAmong]

/-- Two automata have the same edges to draw exactly if the same texts and the same epsilon
    transitions lead from each state to each other one. -/
theorem edges_iff (ha : a.symbolEdges = .ok es) (hb : b.symbolEdges = .ok fs) :
    (∀ e, e ∈ es ++ a.epsilonEdges ↔ e ∈ fs ++ b.epsilonEdges) ↔
      (∀ i j text, a.Reads i j text ↔ b.Reads i j text) ∧
        ∀ i j, (i, j) ∈ a.epsilonTransitions ↔ (i, j) ∈ b.epsilonTransitions := by
  constructor
  · intro h
    have hlabels : ∀ i j, (∀ text, a.Reads i j text ↔ b.Reads i j text) ∧
        ((i, j) ∈ a.epsilonTransitions ↔ (i, j) ∈ b.epsilonTransitions) := by
      intro i j
      rw [← labelAmong_iff]
      intro label
      rw [← mem_edges_iff ha, ← mem_edges_iff hb, h]
    exact ⟨fun i j => (hlabels i j).1, fun i j => (hlabels i j).2⟩
  · rintro ⟨htexts, hepsilons⟩ ⟨source, target, label⟩
    rw [mem_edges_iff ha, mem_edges_iff hb]
    exact labelAmong_iff.2 ⟨htexts source target, hepsilons source target⟩ label

/-! ### Drawings -/

/-- All labels in the drawing of an automaton are labels. -/
theorem wellLabelled_drawing {d : Drawing} (h : a.drawing = .ok d) : d.WellLabelled := by
  obtain ⟨es, hes, heq⟩ := bind_eq_ok_iff.1 (a.drawing_def.symm.trans h)
  cases heq
  intro arrow harrow label hlabel
  have hmem : (⟨arrow.source, arrow.target, label⟩ : LabelledEdge) ∈ es ++ a.epsilonEdges :=
    mem_iff_exists_arrow.2 ⟨arrow, harrow, rfl, rfl, hlabel⟩
  exact ((mem_edges_iff hes).1 hmem).isLabel

/-- **The text determines the drawing and nothing else.** Automata whose symbols have texts are
    drawn as the same text exactly if they are of one kind, have the same states with the same flags
    and the same initial state, and the same texts and epsilon transitions lead from each state to
    each other one. -/
theorem dot_eq_iff_sameDrawing (a b : Automaton) (ha : a.HasTexts) (hb : b.HasTexts) :
    ∃ s t, a.dot = .ok s ∧ b.dot = .ok t ∧ (s = t ↔ a.SameDrawing b) := by
  obtain ⟨es, hes⟩ := ha.exists_symbolEdges
  obtain ⟨fs, hfs⟩ := hb.exists_symbolEdges
  have hdrawing : a.drawing = .ok ⟨a.kind, a.space.flags, a.space.initial?,
      arrowsOf (es ++ a.epsilonEdges)⟩ := by
    rw [drawing_def, hes]
    rfl
  have hdrawing' : b.drawing = .ok ⟨b.kind, b.space.flags, b.space.initial?,
      arrowsOf (fs ++ b.epsilonEdges)⟩ := by
    rw [drawing_def, hfs]
    rfl
  refine ⟨_, _, by rw [dot_def, hdrawing]; rfl, by rw [dot_def, hdrawing']; rfl, ?_⟩
  constructor
  · intro hsource
    -- the text gives back the drawing, and the drawing shows the edges
    have hequal := Drawing.source_injective (wellLabelled_drawing hdrawing)
      (wellLabelled_drawing hdrawing') hsource
    simp only [Drawing.mk.injEq, arrowsOf_eq_iff, edges_iff hes hfs] at hequal
    obtain ⟨hkind, hflags, hinitial, htexts, hepsilons⟩ := hequal
    exact ⟨hkind, hflags, hinitial, htexts, hepsilons⟩
  · intro h
    rw [h.kind, h.flags, h.initial,
      arrowsOf_eq_iff.2 ((edges_iff hes hfs).2 ⟨h.texts, h.epsilons⟩)]

/-- One state with a transition to itself on each of the given texts. -/
def loops (texts : List String) : Automaton :=
  .nfa ((Nfa.new 0).buildAll (.addState (.truth false) ::
    texts.map fun text => .addTransition (.state ⟨0, 0⟩) (.text text) (.state ⟨0, 0⟩)))

/-- One symbol with a comma in it is not drawn like the two symbols on both sides of the comma. -/
theorem loops_comma_dot_ne :
    (loops ["a, b"]).HasTexts ∧ (loops ["a", "b"]).HasTexts ∧
      ∃ s t, (loops ["a, b"]).dot = .ok s ∧ (loops ["a", "b"]).dot = .ok t ∧ s ≠ t := by
  have hone : (loops ["a, b"]).transitions = [⟨0, ⟨.text "a, b", rfl⟩, 0⟩] := by decide +kernel
  have htwo : (loops ["a", "b"]).transitions =
      [⟨0, ⟨.text "a", rfl⟩, 0⟩, ⟨0, ⟨.text "b", rfl⟩, 0⟩] := by decide +kernel
  have htexts : (loops ["a, b"]).HasTexts := by
    intro t ht
    rw [hone, List.mem_singleton] at ht
    exact ⟨"a, b", by rw [ht]; rfl⟩
  have htexts' : (loops ["a", "b"]).HasTexts := by
    intro t ht
    rw [htwo, List.mem_pair] at ht
    rcases ht with rfl | rfl
    · exact ⟨"a", rfl⟩
    · exact ⟨"b", rfl⟩
  obtain ⟨s, t, hs, ht, hiff⟩ := dot_eq_iff_sameDrawing _ _ htexts htexts'
  refine ⟨htexts, htexts', s, t, hs, ht, fun heq => ?_⟩
  obtain ⟨u, hu, -, -, hplain⟩ : (loops ["a, b"]).Reads 0 0 "a" :=
    ((hiff.1 heq).texts 0 0 "a").2 ⟨⟨0, ⟨.text "a", rfl⟩, 0⟩, by rw [htwo]; simp, rfl, rfl, rfl⟩
  rw [hone, List.mem_singleton] at hu
  subst hu
  simp [Value.plain] at hplain

end FiniteAutomata.Automaton

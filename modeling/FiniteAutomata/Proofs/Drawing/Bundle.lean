import FiniteAutomata.Proofs.Drawing.Reading

namespace FiniteAutomata

/-!
# Transitions that share an arrow

All transitions from one state to another share an arrow, and one text at it shows the labels of them
all. A symbol can have any text: one with commas and quotes in it, one that looks like several labels or
like that of an epsilon transition. Still the text at the arrow tells which texts the symbols have and
whether an epsilon transition is among the transitions.

* `Bundle`: the transitions that share an arrow.
* `Bundle.labels`, `Bundle.label`: their labels in order, and as one text.
* `Bundle.SameTexts`: what two bundles with the same text share.
* `Bundle.labels_eq_iff`, `Bundle.label_injective`: the labels tell that much, and the text tells the
  labels.
* `Automaton.bundle`, `Automaton.labels_bundle`: an arrow in the drawing of an automaton shows the bundle
  between its states.
* `Bundle.label_eq_iff_sameTexts`: the text at an arrow tells that and nothing else.
-/

/-- The transitions that share an arrow: the symbols they read, in any order and with any repeats, and
    whether one of the transitions is an epsilon transition. -/
structure Bundle where
  symbols : List Symbol
  silent : Bool
deriving DecidableEq

namespace Bundle

/-- The labels of the transitions in ascending order, each of them once. -/
def labels (b : Bundle) : Except Fault (List String) :=
  return Ascending.ofList (fun l m => l < m)
    ((← b.symbols.mapM fun a => labelOf a.value) ++ if b.silent then [epsilonLabel] else [])

/-- The labels of the transitions as one text. -/
def label (b : Bundle) : Except Fault String := return labelGap.intercalate (← b.labels)

/-- Every symbol has a text. -/
def HasTexts (b : Bundle) : Prop := ∀ a ∈ b.symbols, ∃ text, a.value.plain = .ok text

/-- Some symbol has the given text. -/
def Reads (b : Bundle) (text : String) : Prop := ∃ a ∈ b.symbols, a.value.plain = .ok text

/-- The symbols have the same texts, and both bundles have an epsilon transition or neither has one. -/
structure SameTexts (b c : Bundle) : Prop where
  texts : ∀ text, b.Reads text ↔ c.Reads text
  silent : b.silent = c.silent

/-! ### Labels -/

variable {b c : Bundle} {ls ms : List String}

/-- Where every symbol has a text, the transitions have labels. -/
theorem HasTexts.exists_labels (h : b.HasTexts) : ∃ ls, b.labels = .ok ls := by
  have hsymbols : ∃ ls, (b.symbols.mapM fun a => labelOf a.value) = .ok ls := by
    rw [exists_mapM_eq_ok_iff]
    intro a ha
    obtain ⟨text, htext⟩ := h a ha
    exact ⟨textLabel text, labelOf_eq_ok_iff.2 ⟨text, htext, rfl⟩⟩
  obtain ⟨ls, hls⟩ := hsymbols
  exact ⟨_, by rw [labels, hls]; rfl⟩

theorem mem_iff_labelAmong (h : b.labels = .ok ls) {label : String} :
    label ∈ ls ↔ LabelAmong b.Reads (b.silent = true) label := by
  obtain ⟨symbolLabels, hsymbols, heq⟩ := bind_eq_ok_iff.1 h
  cases heq
  have hsymbol : label ∈ symbolLabels ↔ ∃ text, b.Reads text ∧ label = textLabel text := by
    rw [mem_iff_of_mapM_eq_ok hsymbols]
    constructor
    · rintro ⟨a, ha, hlabel⟩
      obtain ⟨text, htext, heq⟩ := labelOf_eq_ok_iff.1 hlabel
      exact ⟨text, ⟨a, ha, htext⟩, heq⟩
    · rintro ⟨text, ⟨a, ha, htext⟩, heq⟩
      exact ⟨a, ha, labelOf_eq_ok_iff.2 ⟨text, htext, heq⟩⟩
  have hsilent : label ∈ (if b.silent then [epsilonLabel] else []) ↔
      b.silent = true ∧ label = epsilonLabel := by
    by_cases hb : b.silent = true
    · simp [hb]
    · simp [hb]
  rw [Ascending.mem_ofList, List.mem_append, hsymbol, hsilent, LabelAmong]

theorem pairwise_labels (h : b.labels = .ok ls) : ls.Pairwise fun l m => decide (l < m) = true := by
  obtain ⟨symbolLabels, -, heq⟩ := bind_eq_ok_iff.1 h
  cases heq
  exact Ascending.pairwise_ofList Ascending.isOrder_string _

/-- The labels tell which texts the symbols have, and whether an epsilon transition is among the
    transitions. -/
theorem labels_eq_iff (hb : b.labels = .ok ls) (hc : c.labels = .ok ms) :
    ls = ms ↔ b.SameTexts c := by
  constructor
  · intro h
    have hlabels : ∀ label, LabelAmong b.Reads (b.silent = true) label ↔
        LabelAmong c.Reads (c.silent = true) label := by
      intro label
      rw [← mem_iff_labelAmong hb, ← mem_iff_labelAmong hc, h]
    obtain ⟨htexts, hsilent⟩ := labelAmong_iff.1 hlabels
    exact ⟨htexts, Bool.eq_iff_iff.2 hsilent⟩
  · intro h
    -- both are in ascending order, so they are equal if they have the same members
    apply Ascending.eq_of_mem_iff Ascending.isOrder_string (pairwise_labels hb) (pairwise_labels hc)
    intro label
    rw [mem_iff_labelAmong hb, mem_iff_labelAmong hc]
    exact labelAmong_iff.2 ⟨h.texts, by rw [h.silent]⟩ label

/-- The text tells the labels. -/
theorem label_injective (hb : b.labels = .ok ls) (hc : c.labels = .ok ms)
    (h : labelGap.intercalate ls = labelGap.intercalate ms) : ls = ms := by
  apply intercalate_labels_injective _ _ h
  · exact fun label hlabel => ((mem_iff_labelAmong hb).1 hlabel).isLabel
  · exact fun label hlabel => ((mem_iff_labelAmong hc).1 hlabel).isLabel

theorem label_of_labels (h : b.labels = .ok ls) : b.label = .ok (labelGap.intercalate ls) := by
  rw [label, h]
  rfl

end Bundle

/-! ### Arrows between states -/

namespace Automaton

/-- The transitions from one state to another. -/
def bundle (a : Automaton) (source target : Nat) : Bundle where
  symbols := (a.transitions.filter fun t => t.source == source && t.target == target).map (·.symbol)
  silent := a.epsilonTransitions.contains (source, target)

variable {a : Automaton} {source target : Nat}

theorem reads_bundle_iff {text : String} :
    (a.bundle source target).Reads text ↔ a.Reads source target text := by
  simp only [Bundle.Reads, bundle, Reads, List.mem_map, List.mem_filter, Bool.and_eq_true, beq_iff_eq]
  constructor
  · rintro ⟨_, ⟨t, ⟨ht, hsource, htarget⟩, rfl⟩, htext⟩
    exact ⟨t, ht, hsource, htarget, htext⟩
  · rintro ⟨t, ht, hsource, htarget, htext⟩
    exact ⟨t.symbol, ⟨t, ⟨ht, hsource, htarget⟩, rfl⟩, htext⟩

theorem silent_bundle_iff :
    (a.bundle source target).silent = true ↔ (source, target) ∈ a.epsilonTransitions :=
  List.contains_iff_mem

theorem HasTexts.bundle (h : a.HasTexts) (source target : Nat) : (a.bundle source target).HasTexts := by
  intro b hb
  obtain ⟨t, ht, rfl⟩ := List.mem_map.1 hb
  exact h t (List.mem_filter.1 ht).1

/-- An arrow in the drawing of an automaton shows the labels of the transitions between its states. -/
theorem labels_bundle {d : Drawing} (h : a.drawing = .ok d) {x : Arrow} (hx : x ∈ d.arrows) :
    (a.bundle x.source x.target).labels = .ok x.labels := by
  obtain ⟨es, hes, heq⟩ := bind_eq_ok_iff.1 (a.drawing_def.symm.trans h)
  cases heq
  have htexts : a.HasTexts := exists_symbolEdges_iff.1 ⟨es, hes⟩
  obtain ⟨ls, hls⟩ := (htexts.bundle x.source x.target).exists_labels
  rw [hls, Except.ok.injEq]
  apply Ascending.eq_of_mem_iff Ascending.isOrder_string (Bundle.pairwise_labels hls)
  · simpa using FiniteAutomata.pairwise_labels hx
  · intro label
    rw [Bundle.mem_iff_labelAmong hls, mem_labels_iff hx, mem_edges_iff hes]
    exact labelAmong_iff.2 ⟨fun _ => reads_bundle_iff, silent_bundle_iff⟩ label

end Automaton

/-! ### Texts at arrows -/

/-- **The text at an arrow tells its labels.** Two bundles of transitions whose symbols have texts are written
    as the same text exactly if their symbols have the same texts and both have an epsilon transition or
    neither has one. Single symbols have the same label exactly if they have the same text, and none has the
    label of an epsilon transition. The arrows in the drawing of an automaton show such texts. -/
theorem Bundle.label_eq_iff_sameTexts (b c : Bundle) (hb : b.HasTexts) (hc : c.HasTexts) :
    (∃ s t, b.label = .ok s ∧ c.label = .ok t ∧ (s = t ↔ b.SameTexts c)) ∧
      (∀ v v' : Value, labelOf v = labelOf v' ↔ v.plain = v'.plain) ∧
      (∀ v : Value, labelOf v ≠ .ok epsilonLabel) ∧
      ∀ (a : Automaton) (d : Drawing), a.drawing = .ok d → ∀ x ∈ d.arrows,
        (a.bundle x.source x.target).label = .ok x.label := by
  obtain ⟨ls, hls⟩ := hb.exists_labels
  obtain ⟨ms, hms⟩ := hc.exists_labels
  refine ⟨⟨_, _, label_of_labels hls, label_of_labels hms, ?_⟩, fun _ _ => labelOf_eq_iff,
    labelOf_ne_epsilonLabel, fun a d hd x hx => label_of_labels (Automaton.labels_bundle hd hx)⟩
  rw [← labels_eq_iff hls hms]
  constructor
  · exact label_injective hls hms
  · intro h
    rw [h]

theorem Bundle.hasTexts_singleton (text : String) (silent : Bool) :
    (Bundle.mk [⟨.text text, rfl⟩] silent).HasTexts := by
  intro a ha
  rw [List.mem_singleton] at ha
  exact ⟨text, by rw [ha]; rfl⟩

/-- A text that looks like what is written for another symbol and an epsilon transition is not written like
    them. -/
theorem Bundle.lookalike_label_ne :
    (Bundle.mk [⟨.text "'ε', ε", rfl⟩] false).HasTexts ∧ (Bundle.mk [⟨.text "ε", rfl⟩] true).HasTexts ∧
      (Bundle.mk [⟨.text "ε", rfl⟩] true).label = .ok "'ε', ε" ∧
      (Bundle.mk [⟨.text "'ε', ε", rfl⟩] false).label ≠ .ok "'ε', ε" := by
  have htexts := hasTexts_singleton "'ε', ε" false
  have htexts' := hasTexts_singleton "ε" true
  have hlabel : (Bundle.mk [⟨.text "ε", rfl⟩] true).label = .ok "'ε', ε" := by decide +kernel
  obtain ⟨⟨s, t, hs, ht, hiff⟩, -⟩ := label_eq_iff_sameTexts _ _ htexts htexts'
  refine ⟨htexts, htexts', hlabel, fun h => ?_⟩
  have heq : s = t := by
    rw [h, Except.ok.injEq] at hs
    rw [hlabel, Except.ok.injEq] at ht
    rw [← hs, ← ht]
  cases (hiff.1 heq).silent

end FiniteAutomata

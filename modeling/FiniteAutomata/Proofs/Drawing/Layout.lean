import FiniteAutomata.Proofs.Drawing.Determined
import FiniteAutomata.Proofs.Drawing.Lines
import FiniteAutomata.Proofs.Safety

namespace FiniteAutomata.Automaton

/-!
# The layout of a drawing

A drawing shows every state once, in the order of creation, and every ordered pair of states that some
transitions join once, in the order of the two positions, with the labels of all these transitions.

* `Labels`, `Joins`: the labels of the transitions between two states, and whether there are any.
* `ShowsJoined`: what the arrows between states show.
* `LaidOut`: the lines of a drawing in their order.
* `showsJoined_arrowsOf`, `stateLines_eq`: the drawing of an automaton has these arrows and states.
* `dot_laid_out`: its text has these lines.
-/

/-- The label of some transition from one state to another: that of its symbol, or that of an epsilon
    transition. -/
def Labels (a : Automaton) (source target : Nat) (label : String) : Prop :=
  (∃ t ∈ a.transitions, t.source = source ∧ t.target = target ∧ labelOf t.symbol.value = .ok label) ∨
    ((source, target) ∈ a.epsilonTransitions ∧ label = epsilonLabel)

/-- Some transition leads from one state to another. -/
def Joins (a : Automaton) (source target : Nat) : Prop :=
  (∃ t ∈ a.transitions, t.source = source ∧ t.target = target) ∨
    (source, target) ∈ a.epsilonTransitions

/-- There is one arrow for each ordered pair of states that some transition joins, in ascending order of
    the positions. An arrow has the labels of all transitions between its states, in ascending order and
    each of them once. -/
structure ShowsJoined (a : Automaton) (arrows : List Arrow) : Prop where
  ascending : arrows.Pairwise fun x y =>
    x.source < y.source ∨ (x.source = y.source ∧ x.target < y.target)
  joined : ∀ i j, (∃ x ∈ arrows, x.source = i ∧ x.target = j) ↔ a.Joins i j
  states : ∀ x ∈ arrows, x.source < a.space.size ∧ x.target < a.space.size
  labels : ∀ x ∈ arrows, ∀ label, label ∈ x.labels ↔ a.Labels x.source x.target label
  labels_ascending : ∀ x ∈ arrows, x.labels.Pairwise fun l m => l < m

/-- The text of a drawing consists of the lines that tell the looks, one line for each state in the order of
    creation, a line for the initial state, exactly if there is any state, and one line for each arrow. -/
def LaidOut (a : Automaton) : Prop :=
  ∃ arrows lines, a.ShowsJoined arrows ∧ List.Forall₂ Arrow.ShownBy arrows lines ∧
    (a.space.initial? = none ↔ a.space.size = 0) ∧
    a.dot = .ok ("digraph " ++ a.kind.shortName ++ " \x7b\n" ++
      String.join (Drawing.openingLines a.kind.shortName ++
        (List.range a.space.size).map (fun i => Drawing.stateLine (a.space.accepts i) i) ++
        a.space.initial?.toList.map Drawing.initialLine ++ lines) ++ "\x7d\n")

variable {a : Automaton} {es : List LabelledEdge}

/-- The edges to draw are the labels of transitions. -/
theorem mem_edges_iff_labels (h : a.symbolEdges = .ok es) {source target : Nat} {label : String} :
    ⟨source, target, label⟩ ∈ es ++ a.epsilonEdges ↔ a.Labels source target label := by
  rw [mem_edges_iff h, LabelAmong, Labels]
  refine or_congr_left ⟨?_, ?_⟩
  · rintro ⟨text, ⟨t, ht, hsource, htarget, hplain⟩, hlabel⟩
    exact ⟨t, ht, hsource, htarget, labelOf_eq_ok_iff.2 ⟨text, hplain, hlabel⟩⟩
  · rintro ⟨t, ht, hsource, htarget, hlabel⟩
    obtain ⟨text, hplain, hlabel⟩ := labelOf_eq_ok_iff.1 hlabel
    exact ⟨text, ⟨t, ht, hsource, htarget, hplain⟩, hlabel⟩

/-- Where every symbol has a text, the transitions between two states have a label if there are any. -/
theorem HasTexts.exists_labels_iff (h : a.HasTexts) {source target : Nat} :
    (∃ label, a.Labels source target label) ↔ a.Joins source target := by
  constructor
  · rintro ⟨label, ⟨t, ht, hsource, htarget, -⟩ | ⟨hmem, -⟩⟩
    · exact .inl ⟨t, ht, hsource, htarget⟩
    · exact .inr hmem
  · rintro (⟨t, ht, hsource, htarget⟩ | hmem)
    · obtain ⟨text, htext⟩ := h t ht
      exact ⟨_, .inl ⟨t, ht, hsource, htarget, labelOf_eq_ok_iff.2 ⟨text, htext, rfl⟩⟩⟩
    · exact ⟨_, .inr ⟨hmem, rfl⟩⟩

/-- Only states of the automaton are joined. -/
theorem Sound.lt_of_joins (h : a.Sound) {source target : Nat} (hjoins : a.Joins source target) :
    source < a.space.size ∧ target < a.space.size := by
  rcases hjoins with ⟨t, ht, rfl, rfl⟩ | hmem
  · exact h.within_transitions t ht
  · exact (h.within_epsilonTransitions _ hmem).2

/-- The arrows of the drawing of an automaton show what is joined. -/
theorem showsJoined_arrowsOf (hsound : a.Sound) (htexts : a.HasTexts) (h : a.symbolEdges = .ok es) :
    a.ShowsJoined (arrowsOf (es ++ a.epsilonEdges)) := by
  have hjoined : ∀ i j, (∃ x ∈ arrowsOf (es ++ a.epsilonEdges), x.source = i ∧ x.target = j) ↔
      a.Joins i j := by
    intro i j
    simp only [exists_arrow_iff, mem_edges_iff_labels h, htexts.exists_labels_iff]
  refine ⟨?_, hjoined, fun x hx => ?_, fun x hx label => ?_, fun x hx => pairwise_labels hx⟩
  · refine (pairwise_arrowsOf _).imp fun hbefore => ?_
    simpa [pairBefore] using hbefore
  · exact hsound.lt_of_joins ((hjoined _ _).1 ⟨x, hx, rfl, rfl⟩)
  · rw [mem_labels_iff hx, mem_edges_iff_labels h]

/-- The lines of the states go through the states in the order of creation. -/
theorem stateLines_eq (a : Automaton) :
    a.space.flags.mapIdx (fun i accepting => Drawing.stateLine accepting i) =
      (List.range a.space.size).map fun i => Drawing.stateLine (a.space.accepts i) i := by
  refine List.ext_getElem (by simp [Registry.size]) fun i hi _ => ?_
  rw [List.length_mapIdx] at hi
  rw [List.getElem_mapIdx, List.getElem_map, List.getElem_range, Registry.accepts_eq_getElem hi]

/-- **The layout of a drawing.** After any calls on a new automaton, refused ones and questions included,
    its drawing consists of these lines, if its symbols have texts. -/
theorem dot_laid_out (kind : AutomatonKind) (owner : Nat) (calls : List Call)
    (htexts : ((new kind owner).after calls).HasTexts) : ((new kind owner).after calls).LaidOut := by
  have hsound := sound_after_new kind owner calls
  -- the rest is true of any automaton whose tables are in order
  generalize (new kind owner).after calls = a at htexts hsound
  obtain ⟨es, hes⟩ := htexts.exists_symbolEdges
  have hdot : a.dot = .ok (Drawing.source ⟨a.kind, a.space.flags, a.space.initial?,
      arrowsOf (es ++ a.epsilonEdges)⟩) := by
    rw [dot_def, drawing_def, hes]
    rfl
  obtain ⟨lines, hlines, hsource⟩ := Drawing.lines_of_source ⟨a.kind, a.space.flags,
    a.space.initial?, arrowsOf (es ++ a.epsilonEdges)⟩
  refine ⟨_, lines, showsJoined_arrowsOf hsound htexts hes, hlines,
    hsound.space.initial_eq_none_iff, ?_⟩
  rw [hdot, hsource, stateLines_eq]

/-- An epsilon transition and one on the letter that labels it, between the same states. -/
def lookalikes : List Call :=
  [.build (.addState (.truth false)), .build (.addState (.truth true)),
   .build (.addTransition (.state ⟨0, 0⟩) (.text "ε") (.state ⟨1, 0⟩)),
   .build (.addEpsilon (.state ⟨0, 0⟩) (.state ⟨1, 0⟩))]

/-- They share an arrow and have different labels on it. -/
theorem lookalikes_laid_out :
    ((new .nfa 0).after lookalikes).HasTexts ∧ ((new .nfa 0).after lookalikes).LaidOut ∧
      ((new .nfa 0).after lookalikes).dot = .ok (
        "digraph NFA \x7b\n" ++
        "\tgraph [bgcolor=white dpi=300 fontname=Arial fontsize=14 label=NFA labelloc=t" ++
          " nodesep=0.8 pad=0.5 rankdir=LR ranksep=1.2 splines=true]\n" ++
        "\tnode [color=black fillcolor=lightblue fixedsize=true fontname=Arial fontsize=14" ++
          " height=0.6 penwidth=2 shape=circle style=filled width=0.6]\n" ++
        "\tedge [arrowsize=0.8 color=black fontname=Arial fontsize=12 penwidth=1.5]\n" ++
        "\t__start__ [shape=point style=invis width=0.01]\n" ++
        "\tq0 [label=q0]\n" ++
        "\tq1 [label=q1 fillcolor=lightgreen peripheries=2 shape=doublecircle]\n" ++
        "\t__start__ -> q0 [penwidth=2]\n" ++
        "\tq0 -> q1 [label=\"'ε', ε\"]\n" ++
        "\x7d\n") := by
  have htransitions : ((new .nfa 0).after lookalikes).transitions = [⟨0, ⟨.text "ε", rfl⟩, 1⟩] := by
    decide +kernel
  have htexts : ((new .nfa 0).after lookalikes).HasTexts := by
    intro t ht
    rw [htransitions, List.mem_singleton] at ht
    exact ⟨"ε", by rw [ht]; rfl⟩
  exact ⟨htexts, dot_laid_out .nfa 0 lookalikes htexts, by decide +kernel⟩

end FiniteAutomata.Automaton

import FiniteAutomata.Proofs.Drawing.Reading

namespace FiniteAutomata

/-!
# The lines of a drawing

What stands in the text of a drawing, line by line.

* `Dot.Spells`: a word is read as a text whose backslashes are to be shown.
* `Drawing.openingLines`, `Drawing.stateLine`, `Drawing.initialLine`: the lines that tell the looks, a
  state and the initial state.
* `Arrow.ShownBy`: a line shows an arrow between states.
* `Drawing.lines_of_source`: the text of a drawing consists of such lines.
-/

/-! ### Words -/

/-- The word is read as the text with its backslashes doubled, whatever is behind it. Of a name or a
    number with a line end after it, the line end is lost. -/
structure Dot.Spells (word text : List Char) : Prop where
  read : ¬ IsLine text → ∀ behind, (∃ c ∈ behind.head?, endsBare c = true) →
    readWord (word ++ behind) = some (doubled text, behind)
  line : ∀ bare, (isName bare || isNumber bare) = true → text = bare ++ ['\n'] → ∀ behind,
    readWord (word ++ behind) = some (bare, '\n' :: behind)

theorem Dot.spells_wordOf (text : List Char) : Spells (wordOf (doubled text)) text where
  read hnoLine _ hbehind := readWord_wordOf hnoLine hbehind
  line bare hbare htext behind := by
    rw [htext]
    exact readWord_wordOf_line hbare behind

namespace Drawing

/-! ### What the lines are -/

/-- The first lines: the looks of the graph, of its nodes and of its edges, and the starting point. -/
def openingLines (title : String) : List String :=
  ["\tgraph [bgcolor=white dpi=300 fontname=Arial fontsize=14 label=" ++ title ++
     " labelloc=t nodesep=0.8 pad=0.5 rankdir=LR ranksep=1.2 splines=true]\n",
   "\tnode [color=black fillcolor=lightblue fixedsize=true fontname=Arial fontsize=14 height=0.6" ++
     " penwidth=2 shape=circle style=filled width=0.6]\n",
   "\tedge [arrowsize=0.8 color=black fontname=Arial fontsize=12 penwidth=1.5]\n",
   "\t__start__ [shape=point style=invis width=0.01]\n"]

/-- The line of a state, which is a double circle if the state accepts. -/
def stateLine (accepting : Bool) (index : Nat) : String :=
  "\tq" ++ index.repr ++ " [label=q" ++ index.repr ++
    (if accepting then " fillcolor=lightgreen peripheries=2 shape=doublecircle" else "") ++ "]\n"

/-- The line of the arrow to the initial state. -/
def initialLine (initial : Nat) : String := "\t__start__ -> q" ++ initial.repr ++ " [penwidth=2]\n"

end Drawing

/-- The line shows the arrow: it names the two states, and behind them stands the escaped text of the
    labels, with a comma and a blank between any two, as a word that is read as that text. An arrow from a
    state to itself has both ends at the top. -/
def Arrow.ShownBy (x : Arrow) (line : String) : Prop :=
  ∃ label word : String, label = ", ".intercalate x.labels ∧
    word = Dot.word (Dot.escapeBackslashes label) ∧ Dot.Spells word.toList label.toList ∧
    line = "\tq" ++ x.source.repr ++ " -> q" ++ x.target.repr ++ " [label=" ++ word ++
      (if x.source = x.target then " headport=n tailport=n" else "") ++ "]\n"

namespace Drawing

/-! ### Statements and lines -/

theorem lines_opening (kind : AutomatonKind) :
    ([.defaults "graph" (graphLook kind.shortName), .defaults "node" nodeLook,
      .defaults "edge" edgeLook, startPoint] : List Dot.Statement).map Dot.Statement.line =
        openingLines kind.shortName := by
  cases kind <;> decide +kernel

theorem ending_circle (accepting : Bool) :
    ending (if accepting then
      [⟨"shape", "doublecircle"⟩, ⟨"fillcolor", "lightgreen"⟩, ⟨"peripheries", "2"⟩] else []) =
      (if accepting then " fillcolor=lightgreen peripheries=2 shape=doublecircle" else "").toList ++
        [']', '\n'] := by
  cases accepting <;> decide +kernel

theorem ending_arrow (x : Arrow) :
    ending (if x.source = x.target then [⟨"headport", "n"⟩, ⟨"tailport", "n"⟩] else []) =
      (if x.source = x.target then " headport=n tailport=n" else "").toList ++ [']', '\n'] := by
  split <;> decide +kernel

theorem line_circle (accepting : Bool) (index : Nat) :
    (circle accepting index).line = stateLine accepting index := by
  have hline := Item.line_circle accepting index
  rw [ending_circle] at hline
  apply String.toList_inj.1
  refine hline.trans ?_
  simp [stateLine, stateName]

theorem line_startArrow (initial : Nat) : (startArrow initial).line = initialLine initial := by
  apply String.toList_inj.1
  refine (Item.line_start initial).trans ?_
  simp [initialLine, stateName]

theorem shownBy_line_arrow (x : Arrow) : x.ShownBy (arrow x).line := by
  have hline := Item.line_arrow x
  rw [ending_arrow] at hline
  refine ⟨x.label, _, rfl, rfl, ?_, ?_⟩
  · rw [Dot.toList_word_escapeBackslashes]
    exact Dot.spells_wordOf _
  · apply String.toList_inj.1
    refine hline.trans ?_
    simp [stateName, Dot.toList_word_escapeBackslashes, Arrow.label]

/-- The text of a drawing consists of the lines that tell the looks, one for each state, the line of the
    initial state if there is one, and one for each arrow. -/
theorem lines_of_source (d : Drawing) : ∃ lines, List.Forall₂ Arrow.ShownBy d.arrows lines ∧
    d.source = "digraph " ++ d.kind.shortName ++ " \x7b\n" ++
      String.join (openingLines d.kind.shortName ++
        d.circles.mapIdx (fun i accepting => stateLine accepting i) ++
        d.initial?.toList.map initialLine ++ lines) ++ "\x7d\n" := by
  have hword : Dot.word d.kind.shortName = d.kind.shortName := by
    cases d.kind <;> decide +kernel
  refine ⟨d.arrows.map fun x => (arrow x).line, ?_, ?_⟩
  · rw [List.forall₂_map_right_iff]
    exact List.forall₂_same.2 fun x _ => shownBy_line_arrow x
  · rw [← lines_opening]
    simp only [source, Dot.source, hword, defaults, statements, List.map_append, List.map_cons,
      List.map_map, List.map_nil, List.mapIdx_eq_zipIdx_map, Function.comp_def, line_circle,
      line_startArrow, List.cons_append, List.nil_append, List.append_assoc]

end Drawing

end FiniteAutomata

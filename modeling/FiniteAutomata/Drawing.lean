import FiniteAutomata.Automaton.Basic
import FiniteAutomata.Dot.Statement

namespace FiniteAutomata

/-!
# Drawings

The drawing of an automaton: a circle for each state, an arrow from a starting point to the initial
state, and one arrow for each ordered pair of states joined by transitions, with the labels of all
of them.

* `labelOf`: the label of a symbol.
* `Drawing`: what is drawn.
* `Automaton.drawing`: the drawing of an automaton.
* `Drawing.statements`, `Drawing.source`, `Automaton.dot`: a drawing in the DOT language.
-/

/-! ### Labels -/

/-- The label of an epsilon transition. -/
def epsilonLabel : String := "ε"

/-- Stands between the labels of an arrow. -/
def labelGap : String := ", "

/-- The text could be mistaken for several labels, for a quoted one or for that of an epsilon
    transition. -/
def isMisleading (text : String) : Bool :=
  text == epsilonLabel || text.isEmpty ||
    text.toList.any fun c => c == ',' || c == '"' || c == '\x27'

/-- The label of a text: quoted if the text itself could be mistaken for something else. -/
def textLabel (text : String) : String := if isMisleading text then Text.quoted text else text

/-- The label of a symbol. -/
def labelOf (a : Value) : Except Fault String := return textLabel (← a.plain)

/-! ### What is drawn -/

/-- An arrow between two states with its labels in ascending order. -/
structure Arrow where
  source : Nat
  target : Nat
  labels : List String
deriving DecidableEq, Repr

/-- The drawing of an automaton. -/
structure Drawing where
  kind : AutomatonKind
  /-- One circle for each state; a double one for an accepting state. -/
  circles : List Bool
  initial? : Option Nat
  arrows : List Arrow
deriving DecidableEq, Repr

/-- A transition with its label, as an edge to draw. -/
structure LabelledEdge where
  source : Nat
  target : Nat
  label : String
deriving DecidableEq, Repr

/-- The order of ordered pairs of states. -/
def pairBefore (a b : Nat × Nat) : Bool := a.1 < b.1 || (a.1 == b.1 && a.2 < b.2)

/-- One arrow for each ordered pair of states with an edge, in ascending order. -/
def arrowsOf (edges : List LabelledEdge) : List Arrow :=
  (Ascending.ofList pairBefore (edges.map fun e => (e.source, e.target))).map fun (s, t) =>
    { source := s
      target := t
      labels := Ascending.ofList (fun a b => a < b)
        ((edges.filter fun e => e.source == s && e.target == t).map (·.label)) }

namespace Automaton

/-- The edges to draw for transitions that read a symbol. -/
def symbolEdgesOf (transitions : List Transition) : Except Fault (List LabelledEdge) :=
  transitions.mapM fun t => return ⟨t.source, t.target, ← labelOf t.symbol.value⟩

/-- The edges to draw for epsilon transitions. -/
def epsilonEdgesOf (epsilonTransitions : List (Nat × Nat)) : List LabelledEdge :=
  epsilonTransitions.map fun (s, t) => ⟨s, t, epsilonLabel⟩

/-- What is the drawing of the automaton? -/
def Ask.drawing : Asking Automaton Drawing := do
  let a ← get
  let edges ← symbolEdgesOf (← transitions)
  return {
    kind := a.kind
    circles := a.space.flags
    initial? := a.space.initial?
    arrows := arrowsOf (edges ++ epsilonEdgesOf (← epsilonTransitions)) }

/-- The drawing of an automaton. -/
def drawing (a : Automaton) : Except Fault Drawing := Ask.drawing.answer a

end Automaton

/-! ### Drawings as text -/

namespace Drawing

/-- The look of the whole graph. -/
def graphLook (title : String) : List Dot.Attribute :=
  [⟨"rankdir", "LR"⟩, ⟨"splines", "true"⟩, ⟨"nodesep", "0.8"⟩, ⟨"ranksep", "1.2"⟩,
   ⟨"labelloc", "t"⟩, ⟨"fontsize", "14"⟩, ⟨"fontname", "Arial"⟩, ⟨"bgcolor", "white"⟩,
   ⟨"pad", "0.5"⟩, ⟨"dpi", "300"⟩, ⟨"label", title⟩]

/-- The look of a state. -/
def nodeLook : List Dot.Attribute :=
  [⟨"shape", "circle"⟩, ⟨"fontsize", "14"⟩, ⟨"fontname", "Arial"⟩, ⟨"width", "0.6"⟩,
   ⟨"height", "0.6"⟩, ⟨"fixedsize", "true"⟩, ⟨"style", "filled"⟩, ⟨"fillcolor", "lightblue"⟩,
   ⟨"color", "black"⟩, ⟨"penwidth", "2"⟩]

/-- The look of an arrow. -/
def edgeLook : List Dot.Attribute :=
  [⟨"fontsize", "12"⟩, ⟨"fontname", "Arial"⟩, ⟨"arrowsize", "0.8"⟩, ⟨"penwidth", "1.5"⟩,
   ⟨"color", "black"⟩]

/-- The name of the point where the first arrow starts. -/
def startName : String := "__start__"

/-- The starting point, which is not seen. -/
def startPoint : Dot.Statement :=
  .node startName none [⟨"shape", "point"⟩, ⟨"width", "0.01"⟩, ⟨"style", "invis"⟩]

/-- A state. -/
def circle (accepting : Bool) (index : Nat) : Dot.Statement :=
  .node (stateName index) (some (stateName index))
    (if accepting then
      [⟨"shape", "doublecircle"⟩, ⟨"fillcolor", "lightgreen"⟩, ⟨"peripheries", "2"⟩]
    else [])

/-- The arrow to the initial state. -/
def startArrow (initial : Nat) : Dot.Statement :=
  .edge startName (stateName initial) none [⟨"penwidth", "2"⟩]

/-- An arrow between two states. One from a state to itself leaves and enters at the top. -/
def arrow (a : Arrow) : Dot.Statement :=
  .edge (stateName a.source) (stateName a.target)
    (some (Dot.escapeBackslashes (labelGap.intercalate a.labels)))
    (if a.source = a.target then [⟨"headport", "n"⟩, ⟨"tailport", "n"⟩] else [])

/-- The statements of a drawing, behind the three that set defaults. -/
def statements (d : Drawing) : List Dot.Statement :=
  startPoint :: d.circles.mapIdx (fun i accepting => circle accepting i) ++
    d.initial?.toList.map startArrow ++ d.arrows.map arrow

/-- The statements that set defaults. -/
def defaults (d : Drawing) : List Dot.Statement :=
  [.defaults "graph" (graphLook d.kind.shortName), .defaults "node" nodeLook,
   .defaults "edge" edgeLook]

/-- A drawing in the DOT language. -/
def source (d : Drawing) : String :=
  Dot.source d.kind.shortName (d.defaults ++ d.statements)

end Drawing

/-- What is the drawing of the automaton in the DOT language? -/
def Automaton.Ask.dot : Asking Automaton String := return (← drawing).source

/-- The drawing of an automaton in the DOT language. -/
def Automaton.dot (a : Automaton) : Except Fault String := Ask.dot.answer a

end FiniteAutomata

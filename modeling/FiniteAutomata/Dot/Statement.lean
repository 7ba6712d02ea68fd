import FiniteAutomata.Collection.Ascending
import FiniteAutomata.Dot.Quoting

namespace FiniteAutomata.Dot

/-!
# Statements of the DOT language

* `Statement`: defaults, a node or an edge with attributes.
* `Statement.line`: a statement as a line of text: the label first, the other attributes by name.
* `source`: a directed graph as text.
-/

/-- A name with its value. -/
structure Attribute where
  name : String
  value : String
deriving DecidableEq, Repr

/-- A statement. -/
inductive Statement
  | defaults (what : String) (attributes : List Attribute)
  | node (name : String) (label : Option String) (attributes : List Attribute)
  | edge (tail head : String) (label : Option String) (attributes : List Attribute)
deriving DecidableEq, Repr

/-- An attribute as text. -/
def Attribute.text (a : Attribute) : String := word a.name ++ "=" ++ word a.value

/-- Attributes as text, in square brackets: the label first, then the others by name. -/
def attributeText (label : Option String) (attributes : List Attribute) : String :=
  let sorted := Ascending.sort (fun a b => a.name < b.name) attributes
  let first := label.toList.map fun text => Attribute.text ⟨"label", text⟩
  "[" ++ " ".intercalate (first ++ sorted.map Attribute.text) ++ "]"

/-- A statement as a line of text. -/
def Statement.line : Statement → String
  | .defaults what attributes => "\t" ++ what ++ " " ++ attributeText none attributes ++ "\n"
  | .node name label attributes =>
    "\t" ++ word name ++ " " ++ attributeText label attributes ++ "\n"
  | .edge tail head label attributes =>
    "\t" ++ word tail ++ " -> " ++ word head ++ " " ++ attributeText label attributes ++ "\n"

/-- A directed graph as text. -/
def source (name : String) (statements : List Statement) : String :=
  "digraph " ++ word name ++ " \x7b\n" ++ String.join (statements.map Statement.line) ++ "\x7d\n"

end FiniteAutomata.Dot

import FiniteAutomata.Text.Lowercase

namespace FiniteAutomata.Terminal

/-!
# Words at the terminal

* `wordArgument`: the word that is given to a command, which may be left out or spelled out as
  empty.
-/

/-- The ways to spell the empty word, in any letter case. -/
def emptySpellings : List String := ["eps", "epsilon", "ε"]

/-- The word that is given behind the name of an automaton. -/
def wordArgument : List String → String
  | [] => ""
  | word :: _ => if emptySpellings.contains (Text.lowercase word) then "" else word

end FiniteAutomata.Terminal

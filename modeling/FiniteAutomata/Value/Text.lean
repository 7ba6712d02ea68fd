import FiniteAutomata.Binary64.Decimal
import FiniteAutomata.Fault
import FiniteAutomata.Text.Numeral

namespace FiniteAutomata

/-!
# The text of a value

* `Value.literal`: a value as it is written in a message or inside another value.
* `Value.plain`: a value on its own: a text is itself, a state its name.

Only a number with too many digits has no text.
-/

/-- The numeral of an integer. -/
def numeral (n : Int) : Except Fault String :=
  match Text.numeral? n with
  | some s => .ok s
  | none => .error .numberTooLong

/-- The name of the state at a position. -/
def stateName (index : Nat) : String := "q" ++ index.repr

namespace StateId

/-- The name of a state. -/
def plain (id : StateId) : Except Fault String := return "q" ++ (← numeral id.index)

/-- A state as it is written in a message. -/
def literal (id : StateId) : Except Fault String :=
  return "StateId(index=" ++ (← numeral id.index) ++ ")"

end StateId

namespace Value

/-- Literals in round brackets; a single one is followed by a comma. -/
def tupleText : List String → String
  | [item] => "(" ++ item ++ ",)"
  | items => "(" ++ ", ".intercalate items ++ ")"

mutual

/-- A value as it is written in a message or inside another value. -/
def literal : Value → Except Fault String
  | .absent => .ok "None"
  | .truth b => .ok (if b then "True" else "False")
  | .int n => numeral n
  | .float x => .ok x.text
  | .text s => .ok (Text.quoted s)
  | .bytes bs => .ok (Text.quotedBytes bs)
  | .tuple items => return tupleText (← literals items)
  | .list items => return "[" ++ ", ".intercalate (← literals items) ++ "]"
  | .state id => id.literal

/-- The literals of several values. -/
def literals : List Value → Except Fault (List String)
  | [] => .ok []
  | a :: rest => return (← literal a) :: (← literals rest)

end

/-- A value on its own. -/
def plain : Value → Except Fault String
  | .text s => .ok s
  | .state id => id.plain
  | a => a.literal

/-- The fault of a value that names no state. -/
def invalid (state : Value) (reason : String) : Fault :=
  match state.literal with
  | .ok shown => .invalidState state shown reason
  | .error fault => fault

end Value

end FiniteAutomata

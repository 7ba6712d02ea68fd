import FiniteAutomata.Registry
import FiniteAutomata.Text.Lowercase
import FiniteAutomata.Text.Numeral

namespace FiniteAutomata

/-!
# Names of states

A state is written as `q` and its position, and read with or without the `q`.

* `stateNumber`: the number in the name of a state: `q3`, `Q3` or `3`.
* `Registry.resolve`: the state that a name stands for.
-/

/-- The characters of a text without its first one, where the text in small letters begins with
    `q`. -/
def dropMark (token : String) : List Char :=
  if (Text.lowercase token).toList.head? = some 'q' then token.toList.tail else token.toList

/-- The number in the name of a state. -/
def stateNumber (token : String) : Except Fault Nat :=
  let digits := dropMark token
  if digits.isEmpty || !digits.all Text.isDigit then .error (.notAState token)
  else
    match Text.readNumeral digits with
    | .ok n => .ok n
    | .error .malformed => .error (.malformedNumeral (String.ofList digits))
    | .error (.tooLong n) => .error (.numeralTooLong n)

/-- The state that a name stands for. -/
def Registry.resolve (r : Registry) (token : String) : Except Fault Nat := do
  r.lookup (← stateNumber token)

end FiniteAutomata

import FiniteAutomata.Text.Quoted
import FiniteAutomata.Value.Basic

namespace FiniteAutomata

/-!
# Faults

What can go wrong in a call.

* `Fault`: the causes.
* `Fault.isInValue`: tells the faults in a value that was given from all others.
* `Fault.message`: the wording of each.
-/

/-- Why a call was refused. -/
inductive Fault
  /-- The value names no state of the automaton; `shown` is its literal. -/
  | invalidState (state : Value) (shown reason : String)
  /-- A list, or a tuple that holds one, was given as a symbol. -/
  | unhashable
  /-- The value has no items to be read one after the other. -/
  | notIterable (kind : Value.Kind)
  /-- The two kinds have no order between them. -/
  | unordered (left right : Value.Kind)
  /-- The text is not written like the name of a state. -/
  | notAState (token : String)
  /-- The text has a digit that no numeral uses. -/
  | malformedNumeral (token : String)
  /-- The text has more digits than are read. -/
  | numeralTooLong (digits : Nat)
  /-- The number has more digits than are written. -/
  | numberTooLong
  /-- There is no command where one is to be obeyed. -/
  | noCommand
  /-- Only an automaton with epsilon transitions answers the call. -/
  | nfaOnly
  /-- The program that draws pictures is missing. -/
  | rendererMissing
  /-- The program that draws pictures ended with the given status and error text. -/
  | rendererFailed (status : Nat) (errors : String)
deriving DecidableEq

namespace Fault

/-- The fault lies in a value that was given: it names no state, or its text is no number that is read
    or written. -/
def isInValue : Fault → Bool
  | .invalidState .. | .notAState _ | .malformedNumeral _ | .numeralTooLong _ | .numberTooLong => true
  | _ => false

/-- How many characters of a malformed numeral are shown. -/
def shownLength : Nat := 200

/-- The wording of a fault. -/
def message : Fault → String
  | .invalidState _ shown reason =>
    "Invalid state: " ++ shown ++ if reason.isEmpty then "" else " (" ++ reason ++ ")"
  | .unhashable => "unhashable type: '" ++ Value.Kind.list.name ++ "'"
  | .notIterable kind => "'" ++ kind.name ++ "' object is not iterable"
  | .unordered left right =>
    "'<' not supported between instances of '" ++ left.name ++ "' and '" ++ right.name ++ "'"
  | .notAState token => "Not a state: " ++ token
  | .malformedNumeral token =>
    "invalid literal for int() with base 10: " ++
      String.ofList ((Text.quoted token).toList.take shownLength)
  | .numeralTooLong digits =>
    "Exceeds the limit (4300 digits) for integer string conversion: value has " ++ digits.repr ++
      " digits; use sys.set_int_max_str_digits() to increase the limit"
  | .numberTooLong =>
    "Exceeds the limit (4300 digits) for integer string conversion; " ++
      "use sys.set_int_max_str_digits() to increase the limit"
  | .noCommand => "'" ++ Value.Kind.list.name ++ "' object has no attribute 'split'"
  | .nfaOnly => "eps is only valid for NFA automata"
  | .rendererMissing =>
    "failed to execute 'dot', make sure the Graphviz executables are on your systems' PATH"
  | .rendererFailed status errors =>
    "Command '['dot']' returned non-zero exit status " ++ status.repr ++ ". [stderr: " ++
      Text.quoted errors ++ "]"

end Fault

end FiniteAutomata

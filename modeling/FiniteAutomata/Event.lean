import FiniteAutomata.Value.Symbol
import FiniteAutomata.Value.Text

namespace FiniteAutomata

/-!
# Events

What an automaton reports while it works.

* `Event`: the things that are reported.
* `Event.message`: the wording of each; a report on a number with too many digits has none.
* `Event.line?`: a line of the log.
-/

/-- The parts of the library that report. -/
inductive Channel
  | automaton | dfa | nfa
deriving DecidableEq, Repr

/-- The name of a channel in the log. -/
def Channel.name : Channel → String
  | .automaton => "fsm.automaton"
  | .dfa => "fsm.dfa"
  | .nfa => "fsm.nfa"

/-- Something that is reported. -/
inductive Event
  /-- A state was added; `accepting` is the value that decided whether it accepts. -/
  | added (state : Nat) (accepting : Value)
  /-- A transition to `previous` was replaced by one to `target`. -/
  | overwrote (source : Nat) (symbol : Symbol) (previous target : Nat)
  /-- A word was rejected at a symbol without a transition. -/
  | stuck
  /-- A word was read to its end in the given state. -/
  | ended (accepted : Bool) (state : Nat)
  /-- A word was read, and this many states were active at the end. -/
  | active (accepted : Bool) (count : Nat)
deriving DecidableEq

namespace Event

/-- Who reports. -/
def channel : Event → Channel
  | .added .. => .automaton
  | .overwrote .. | .stuck | .ended .. => .dfa
  | .active .. => .nfa

/-- The verdict as a word. -/
def verdictText (accepted : Bool) : String := if accepted then "accepted" else "rejected"

/-- The wording of a report. -/
def message : Event → Except Fault String
  | .added state accepting =>
    return "added state " ++ stateName state ++ " (accepting=" ++ (← accepting.plain) ++ ")"
  | .overwrote source symbol previous target =>
    return "overwriting transition " ++ stateName source ++ " -" ++ (← symbol.value.literal) ++
      "-> " ++ stateName previous ++ " with " ++ stateName target
  | .stuck => .ok "rejected: missing transition"
  | .ended accepted state => .ok (verdictText accepted ++ " in " ++ stateName state)
  | .active accepted count =>
    .ok (verdictText accepted ++ " with " ++ count.repr ++ " active states")

/-- A line of the log, for a report that has a wording. -/
def line? (event : Event) : Option String :=
  match event.message with
  | .ok text => some (event.channel.name ++ " DEBUG: " ++ text)
  | .error _ => none

end Event

end FiniteAutomata

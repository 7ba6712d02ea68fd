import FiniteAutomata.Collection.Ledger
import FiniteAutomata.Registry

namespace FiniteAutomata

/-!
# Transitions

What deterministic and nondeterministic automata have in common: the transitions leaving a state on
a symbol are found under their departure, and a run gives a verdict.

* `Departure`: a source together with a symbol. Departures on the same symbol are the same.
* `Transition`: a departure together with a target.
* `Verdict`: whether a word is accepted, how much of it was read, and what is reported.
* `Value.word`: the symbols of a word, not yet checked.
-/

/-- A source together with a symbol. -/
structure Departure where
  source : Nat
  symbol : Symbol
deriving DecidableEq

namespace Departure

/-- Departures are the same when they leave one state on the same symbol. -/
instance instBEqDeparture : BEq Departure := ⟨fun a b => a.source == b.source && a.symbol == b.symbol⟩

theorem beq_iff {a b : Departure} :
    (a == b) = true ↔ a.source = b.source ∧ (a.symbol == b.symbol) = true := by
  simp [BEq.beq]

instance : EquivBEq Departure where
  rfl := beq_iff.2 ⟨rfl, BEq.rfl⟩
  symm h := beq_iff.2 ⟨(beq_iff.1 h).1.symm, BEq.symm (beq_iff.1 h).2⟩
  trans h k := beq_iff.2
    ⟨(beq_iff.1 h).1.trans (beq_iff.1 k).1, BEq.trans (beq_iff.1 h).2 (beq_iff.1 k).2⟩

end Departure

/-- A transition, its symbol as it was first spelled. -/
structure Transition where
  source : Nat
  symbol : Symbol
  target : Nat
deriving DecidableEq

/-- The answer to the question whether a word is accepted. -/
structure Verdict where
  accepted : Bool
  /-- How many symbols were taken from the word. -/
  read : Nat
  report : List Event
deriving DecidableEq

/-- The verdict of an automaton without states, which takes nothing from the word. -/
def Verdict.unread : Verdict := ⟨false, 0, []⟩

/-- The items of a value that is given as a word or as a set of states. -/
def Value.word (a : Value) : Except Fault (List Value) :=
  match a.items? with
  | some items => .ok items
  | none => .error (.notIterable a.kind)

end FiniteAutomata

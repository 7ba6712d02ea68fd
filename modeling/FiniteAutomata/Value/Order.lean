import FiniteAutomata.Value.Symbol

namespace FiniteAutomata

/-!
# The order of values

Numbers are ordered exactly, texts by code points, bytes by value, tuples and lists by their first
difference and then by length, states by position and then by owner. Values of unlike kinds have no
order.

* `StateId.order`: the order of states.
* `Value.order?`: the order of two values; `none` where one of them is no number.
* `Value.Comparison`: the six ways to compare.
* `Value.less`: comes before.
-/

/-- States are ordered by position, those of several automata at one position by owner. -/
def StateId.order (a b : StateId) : Ordering :=
  (compare a.index b.index).then (compare a.owner b.owner)

namespace Value

/-- A value as a number, if it is one. -/
def number? : Value → Option BinaryNumber
  | .truth b => some (.ofInt (if b then 1 else 0))
  | .int n => some (.ofInt n)
  | .float x => some x.number
  | _ => none

mutual

/-- The order of two values; `none` where one of them is no number. -/
def order? : Value → Value → Except Fault (Option Ordering)
  | .text a, .text b => .ok (some (compare a b))
  | .bytes a, .bytes b => .ok (some (compare (a.map UInt8.toNat) (b.map UInt8.toNat)))
  | .tuple a, .tuple b => orderAll a b
  | .list a, .list b => orderAll a b
  | .state a, .state b => .ok (some (a.order b))
  | a, b =>
    match a.number?, b.number? with
    | some x, some y => .ok (x.order? y)
    | _, _ => .error (.unordered a.kind b.kind)

/-- The order of the first two items that differ; where one list ends the shorter comes first. -/
def orderAll : List Value → List Value → Except Fault (Option Ordering)
  | [], [] => .ok (some .eq)
  | [], _ :: _ => .ok (some .lt)
  | _ :: _, [] => .ok (some .gt)
  | a :: as, b :: bs => if a.same b then orderAll as bs else order? a b

end

/-- The first value comes before the second. -/
def less (a b : Value) : Except Fault Bool := return (← a.order? b) == some .lt

/-! ### Comparisons -/

/-- The answers to the six questions that can be asked about two values. -/
structure Comparison where
  same : Bool
  differs : Bool
  less : Bool
  lessOrSame : Bool
  greater : Bool
  greaterOrSame : Bool
deriving DecidableEq

/-- Compares two values in all six ways. -/
def comparison (a b : Value) : Except Fault Comparison := do
  let order ← a.order? b
  return {
    same := a.same b
    differs := !a.same b
    less := order == some .lt
    lessOrSame := order == some .lt || order == some .eq
    greater := order == some .gt
    greaterOrSame := order == some .gt || order == some .eq }

end Value

end FiniteAutomata

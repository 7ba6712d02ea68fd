import FiniteAutomata.Fault

namespace FiniteAutomata

/-!
# Symbols

Two values are the same symbol when they agree up to the way their numbers are written: numbers
are compared exactly, whatever their kind, and tuples item by item. Texts and bytes are never the
same, nor are two occurrences of what is no number.

* `Value.canonical`: the form that all ways to write a symbol share.
* `Symbol`: a value that can be looked up and stored.
* `instBEqSymbol`: sameness of symbols, an equivalence.
* `Value.symbol`: a value as a symbol, or the reason why it is none.
-/

namespace Value

/-- A number in the form that all ways to write it share. -/
def ofNumber (x : Binary64) : Value :=
  match x.reduce with
  | .inl n => .int n
  | .inr x => .float x

mutual

/-- The form that all ways to write a symbol share: a number that is an integer is an integer. -/
def canonical : Value → Value
  | .truth b => .int (if b then 1 else 0)
  | .float x => ofNumber x
  | .tuple items => .tuple (canonicalAll items)
  | .list items => .list (canonicalAll items)
  | a => a

/-- The common forms of several values. -/
def canonicalAll : List Value → List Value
  | [] => []
  | a :: rest => canonical a :: canonicalAll rest

end

/-- The two values are written alike up to the kinds of their numbers. -/
def same (a b : Value) : Bool := a.canonical == b.canonical

theorem same_iff {a b : Value} : a.same b = true ↔ a.canonical = b.canonical := beq_iff_eq

end Value

/-! ### Symbols of an automaton -/

/-- A value that can be looked up and stored, as it was spelled. -/
structure Symbol where
  value : Value
  isHashable : value.isHashable = true
deriving DecidableEq

namespace Symbol

/-- Two symbols are the same when their values are, however they are spelled. -/
instance instBEqSymbol : BEq Symbol := ⟨fun a b => a.value.same b.value⟩

theorem beq_iff {a b : Symbol} : (a == b) = true ↔ a.value.canonical = b.value.canonical :=
  Value.same_iff

instance : EquivBEq Symbol where
  rfl := beq_iff.2 rfl
  symm h := beq_iff.2 (beq_iff.1 h).symm
  trans h k := beq_iff.2 ((beq_iff.1 h).trans (beq_iff.1 k))

end Symbol

/-- A value as a symbol. -/
def Value.symbol (a : Value) : Except Fault Symbol :=
  if h : a.isHashable = true then .ok ⟨a, h⟩ else .error .unhashable

theorem Value.symbol_of_not_isHashable {a : Value} (h : a.isHashable = false) :
    a.symbol = .error .unhashable := dif_neg (by simp [h])

theorem Symbol.symbol_value (a : Symbol) : a.value.symbol = .ok a := dif_pos a.isHashable

end FiniteAutomata

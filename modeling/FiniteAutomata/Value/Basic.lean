import FiniteAutomata.Binary64.Basic

namespace FiniteAutomata

/-!
# Values

An automaton reads symbols of any kind. Symbols, words and the arguments that ought to name states
are all values, since a call may be given anything.

* `StateId`: the name of a state.
* `Value`: a value, with decidable identity of what was written.
* `Value.Kind`: the kinds of values with their names.
* `Value.isTrue`: the truth of a value.
* `Value.isHashable`: whether a value can be a symbol: a list cannot, nor a tuple that holds one.
* `Value.items?`: the items of a value that can be read one after the other.
-/

/-- Names a state: its position in the order of creation, and the registry that allocated it. -/
structure StateId where
  index : Int
  owner : Nat
deriving DecidableEq, Repr

/-- A value as it was written: `1`, `1.0` and the truth value that counts as one are three values. -/
inductive Value
  | absent
  | truth (b : Bool)
  | int (n : Int)
  | float (x : Binary64)
  | text (s : String)
  | bytes (bs : List UInt8)
  | tuple (items : List Value)
  | list (items : List Value)
  | state (id : StateId)

namespace Value

/-! ### Identity -/

mutual

/-- The two values were written alike. -/
def agree : Value → Value → Bool
  | .absent, .absent => true
  | .truth a, .truth b => a == b
  | .int a, .int b => a == b
  | .float a, .float b => a == b
  | .text a, .text b => a == b
  | .bytes a, .bytes b => a == b
  | .tuple a, .tuple b => agreeAll a b
  | .list a, .list b => agreeAll a b
  | .state a, .state b => a == b
  | _, _ => false

/-- The items of the two lists were written alike. -/
def agreeAll : List Value → List Value → Bool
  | [], [] => true
  | a :: as, b :: bs => agree a b && agreeAll as bs
  | _, _ => false

end

mutual

theorem agree_self : ∀ a : Value, agree a a = true
  | .absent => rfl
  | .truth _ | .int _ | .float _ | .text _ | .bytes _ | .state _ => by simp [agree]
  | .tuple as | .list as => by simpa [agree] using agreeAll_self as

theorem agreeAll_self : ∀ as : List Value, agreeAll as as = true
  | [] => rfl
  | a :: as => by simp [agreeAll, agree_self a, agreeAll_self as]

end

mutual

theorem eq_of_agree : ∀ {a b : Value}, agree a b = true → a = b
  | .absent, b, h => by cases b <;> simp_all [agree]
  | .truth _, b, h | .int _, b, h | .float _, b, h | .text _, b, h | .bytes _, b, h
  | .state _, b, h => by cases b <;> simp_all [agree]
  | .tuple as, b, h => by
    cases b with
    | tuple bs => rw [agree] at h; rw [eq_of_agreeAll h]
    | _ => simp [agree] at h
  | .list as, b, h => by
    cases b with
    | list bs => rw [agree] at h; rw [eq_of_agreeAll h]
    | _ => simp [agree] at h

theorem eq_of_agreeAll : ∀ {as bs : List Value}, agreeAll as bs = true → as = bs
  | [], [], _ => rfl
  | [], _ :: _, h | _ :: _, [], h => by simp [agreeAll] at h
  | a :: as, b :: bs, h => by
    simp only [agreeAll, Bool.and_eq_true] at h
    rw [eq_of_agree h.1, eq_of_agreeAll h.2]

end

instance : DecidableEq Value := fun a b =>
  decidable_of_iff (agree a b = true) ⟨eq_of_agree, fun h => h ▸ agree_self a⟩

/-! ### Kinds -/

/-- The kinds of values. -/
inductive Kind
  | absent | truth | int | float | text | bytes | tuple | list | state
deriving DecidableEq, Repr

/-- The name of a kind in messages. -/
def Kind.name : Kind → String
  | .absent => "NoneType"
  | .truth => "bool"
  | .int => "int"
  | .float => "float"
  | .text => "str"
  | .bytes => "bytes"
  | .tuple => "tuple"
  | .list => "list"
  | .state => "StateId"

/-- The kind of a value. -/
def kind : Value → Kind
  | .absent => .absent
  | .truth _ => .truth
  | .int _ => .int
  | .float _ => .float
  | .text _ => .text
  | .bytes _ => .bytes
  | .tuple _ => .tuple
  | .list _ => .list
  | .state _ => .state

/-! ### Properties of values -/

/-- The truth of a value: zero, nothing and whatever is empty is false. -/
def isTrue : Value → Bool
  | .absent => false
  | .truth b => b
  | .int n => n != 0
  | .float x => !x.number.isZero
  | .text s => !s.isEmpty
  | .bytes bs => !bs.isEmpty
  | .tuple items => !items.isEmpty
  | .list items => !items.isEmpty
  | .state _ => true

mutual

/-- Can be looked up and stored as a symbol. -/
def isHashable : Value → Bool
  | .list _ => false
  | .tuple items => areHashable items
  | _ => true

/-- All of the items can be looked up and stored. -/
def areHashable : List Value → Bool
  | [] => true
  | a :: rest => isHashable a && areHashable rest

end

/-- A character as a value. -/
def ofChar (c : Char) : Value := .text (String.singleton c)

/-- The symbols of a text: its characters. -/
def ofText (s : String) : List Value := s.toList.map ofChar

/-- The items of a value that can be read one after the other. -/
def items? : Value → Option (List Value)
  | .text s => some (ofText s)
  | .bytes bs => some (bs.map fun b => .int b.toNat)
  | .tuple items => some items
  | .list items => some items
  | _ => none

end Value

end FiniteAutomata

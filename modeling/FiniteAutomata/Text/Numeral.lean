import FiniteAutomata.Text.Digit

namespace FiniteAutomata.Text

/-!
# Numerals

Decimal numerals. A numeral of more than `maxDigits` digits is neither written nor read.

* `numeral?`: the numeral of an integer.
* `readNumeral`: the number that a text of digits stands for, or what is wrong with it.
-/

/-- The greatest number of digits that is written or read. It is irreducible, so that no proof tries
    to compute a power with this exponent. -/
@[irreducible] def maxDigits : Nat := 4300

theorem maxDigits_eq : maxDigits = 4300 := by
  unfold maxDigits
  rfl

/-! ### Writing -/

/-- The numeral of an integer, unless it is too long. -/
def numeral? (n : Int) : Option String :=
  if n.natAbs < Nat.pow 10 maxDigits then some ((if n < 0 then "-" else "") ++ n.natAbs.repr) else none

/-! ### Reading -/

/-- What can be wrong with a numeral. -/
inductive NumeralFault
  | tooLong (digits : Nat)
  | malformed
deriving DecidableEq

/-- The values of the decimal digits that a text begins with. -/
def leadingDigits : List Char → List Nat
  | [] => []
  | c :: rest =>
    match decimalDigit? c with
    | some d => d :: leadingDigits rest
    | none => []

/-- The number with the given decimal digits. -/
def ofDigits (digits : List Nat) : Nat := digits.foldl (fun n d => 10 * n + d) 0

/-- The number that a text of digits stands for. Its leading decimal digits are counted first:
    leading zeros count, and a text with too many is too long even if it goes on with a digit that
    is not decimal. -/
def readNumeral (text : List Char) : Except NumeralFault Nat :=
  let digits := leadingDigits text
  if maxDigits < digits.length then .error (.tooLong digits.length)
  else if digits.isEmpty || digits.length < text.length then .error .malformed
  else .ok (ofDigits digits)

end FiniteAutomata.Text

namespace FiniteAutomata

/-!
# Binary floating-point numbers

Numbers in binary notation, kept as sign, significand and exponent, and those of them that the
64-bit format has.

* `BinaryNumber`: a finite number `± significand · 2 ^ exponent` of any precision, an infinity, or
  no number at all. Each occurrence of the last kind has a mark of its own.
* `BinaryNumber.reduce`: a finite number in lowest terms, an integer where it is one.
* `BinaryNumber.fits`: significand and exponent are those of the 64-bit format.
* `Binary64`: a number of the 64-bit format.
* `Binary64.ofBits`: the number behind a bit pattern.
-/

/-- A number in binary notation, of any precision. -/
inductive BinaryNumber
  | finite (negative : Bool) (significand : Nat) (exponent : Int)
  | infinite (negative : Bool)
  | nan (mark : Nat)
deriving DecidableEq, Repr

namespace BinaryNumber

/-- Only the two zeros are not true. -/
def isZero : BinaryNumber → Bool
  | .finite _ significand _ => significand == 0
  | _ => false

/-! ### Lowest terms -/

/-- Divides by two up to the given number of times while the result is whole; gives the quotient
    and how many divisions were left over. -/
def halve : Nat → Nat → Nat × Nat
  | 0, m => (m, 0)
  | k + 1, m => if m % 2 = 0 then halve k (m / 2) else (m, k + 1)

/-- A size with the sign put on it. -/
def signed (negative : Bool) (n : Nat) : Int := if negative then -n else n

/-- The integer that a number is, or the same number in lowest terms. -/
def reduce : BinaryNumber → Int ⊕ BinaryNumber
  | .finite negative m (.ofNat k) => .inl (signed negative (m * Nat.pow 2 k))
  | .finite negative m (.negSucc k) =>
    match halve (k + 1) m with
    | (m', 0) => .inl (signed negative m')
    | (m', k' + 1) => .inr (.finite negative m' (.negSucc k'))
  | x => .inr x

/-! ### Order -/

/-- Compares `± m · 2 ^ e` with `± n · 2 ^ f` exactly. -/
def compareFinite (negative : Bool) (m : Nat) (e : Int) (negative' : Bool) (n : Nat) (f : Int) :
    Ordering :=
  compare (signed negative (m * Nat.pow 2 (e - f).toNat))
    (signed negative' (n * Nat.pow 2 (f - e).toNat))

/-- The order of two numbers; `none` where one of them is no number. -/
def order? : BinaryNumber → BinaryNumber → Option Ordering
  | .nan _, _ => none
  | _, .nan _ => none
  | .infinite a, .infinite b => some (compare b a)
  | .infinite a, .finite .. => some (if a then .lt else .gt)
  | .finite .., .infinite b => some (if b then .gt else .lt)
  | .finite a m e, .finite b n f => some (compareFinite a m e b n f)

/-- An integer in binary notation. -/
def ofInt (n : Int) : BinaryNumber := .finite (n < 0) n.natAbs 0

/-! ### The 64-bit format -/

/-- The significand of a finite number has at most 53 bits, and its exponent is neither less than
    that of the least positive number nor greater than that of the greatest one. -/
def fits : BinaryNumber → Bool
  | .finite _ m e => m < 0x20000000000000 && -1074 ≤ e && e ≤ 971
  | _ => true

theorem halve_le (k m : Nat) : (halve k m).1 ≤ m ∧ (halve k m).2 ≤ k := by
  induction k generalizing m with
  | zero => simp [halve]
  | succ k ih =>
    rw [halve]
    split
    · obtain ⟨h1, h2⟩ := ih (m / 2)
      exact ⟨by omega, by omega⟩
    · exact ⟨Nat.le_refl m, Nat.le_refl (k + 1)⟩

/-- Lowest terms need no more bits and no lower exponent. -/
theorem fits_of_reduce {x y : BinaryNumber} (hx : x.fits = true) (h : x.reduce = .inr y) :
    y.fits = true := by
  unfold reduce at h
  split at h
  · cases h
  · rename_i negative m k
    have hle := halve_le (k + 1) m
    simp only [fits, Bool.and_eq_true, decide_eq_true_eq] at hx
    split at h
    · cases h
    · rename_i m' k' hk
      rw [hk] at hle
      cases h
      simp only [fits, Bool.and_eq_true, decide_eq_true_eq]
      omega
  · cases h
    exact hx

/-- The number behind a bit pattern; `mark` tells occurrences that are no number apart. -/
def ofBits (bits : UInt64) (mark : Nat) : BinaryNumber :=
  let negative := bits >>> 63 == 1
  let exponent := ((bits >>> 52) &&& 0x7FF).toNat
  let fraction := (bits &&& 0xFFFFFFFFFFFFF).toNat
  if exponent == 0x7FF then
    if fraction == 0 then .infinite negative else .nan mark
  else if exponent == 0 then .finite negative fraction (-1074)
  else .finite negative (0x10000000000000 + fraction) (exponent - 1075)

theorem fits_ofBits (bits : UInt64) (mark : Nat) : (ofBits bits mark).fits = true := by
  have hexponent : ((bits >>> 52) &&& 0x7FF).toNat ≤ 0x7FF := by
    rw [UInt64.toNat_and]
    exact Nat.and_le_right
  have hfraction : (bits &&& 0xFFFFFFFFFFFFF).toNat ≤ 0xFFFFFFFFFFFFF := by
    rw [UInt64.toNat_and]
    exact Nat.and_le_right
  simp only [ofBits, beq_iff_eq]
  split
  · split <;> rfl
  · split <;> simp only [fits, Bool.and_eq_true, decide_eq_true_eq] <;> omega

end BinaryNumber

/-- A number of the 64-bit binary format. -/
structure Binary64 where
  number : BinaryNumber
  fits : number.fits = true
deriving DecidableEq, Repr

namespace Binary64

/-- An infinity. -/
def infinite (negative : Bool) : Binary64 := ⟨.infinite negative, rfl⟩

/-- No number; the mark tells occurrences apart. -/
def nan (mark : Nat) : Binary64 := ⟨.nan mark, rfl⟩

/-- The number behind a bit pattern; `mark` tells occurrences that are no number apart. -/
def ofBits (bits : UInt64) (mark : Nat) : Binary64 :=
  ⟨.ofBits bits mark, BinaryNumber.fits_ofBits bits mark⟩

/-- The integer that a number is, or the same number in lowest terms. -/
def reduce (x : Binary64) : Int ⊕ Binary64 :=
  match h : x.number.reduce with
  | .inl n => .inl n
  | .inr y => .inr ⟨y, BinaryNumber.fits_of_reduce x.fits h⟩

end Binary64

end FiniteAutomata

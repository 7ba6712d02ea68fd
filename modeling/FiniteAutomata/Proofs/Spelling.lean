import FiniteAutomata.Proofs.Outcome
import FiniteAutomata.Value.Symbol
import FiniteAutomata.Value.Text
import Mathlib.Tactic.NormNum

namespace FiniteAutomata

/-!
# Spellings of a symbol

Two spellings of one symbol may have different texts, but they have a text or have none together:
the only values without one are numbers with too many digits, and no floating-point number is as
great as those. A text is the only spelling of itself.

* `Value.plain_eq_error`: the one reason why a value may have no text.
* `Value.isOk_plain_congr`: spellings of one symbol have a text or have none together.
* `Value.eq_of_same_text`: a text is spelled in one way.
-/

/-! ### Numbers -/

namespace BinaryNumber

theorem natAbs_signed (negative : Bool) (n : Nat) : (signed negative n).natAbs = n := by
  cases negative <;> simp [signed]

/-- A number of the 64-bit format that is an integer has less than 1024 digits, since it has at most
    that many bits. -/
theorem natAbs_lt_of_reduce {x : BinaryNumber} {n : Int} (hx : x.fits = true)
    (h : x.reduce = .inl n) {digits : Nat} (hdigits : 1024 ≤ digits) : n.natAbs < 10 ^ digits := by
  -- the greatest exponent of the format is 971
  have hpow : ∀ k, k ≤ 971 → 2 ^ 53 * 2 ^ k ≤ 10 ^ digits := fun k hk =>
    calc 2 ^ 53 * 2 ^ k = 2 ^ (53 + k) := (Nat.pow_add 2 53 k).symm
      _ ≤ 2 ^ digits := Nat.pow_le_pow_right (by omega) (by omega)
      _ ≤ 10 ^ digits := Nat.pow_le_pow_left (by omega) digits
  unfold reduce at h
  split at h
  · rename_i negative m k
    cases h
    simp only [fits, Bool.and_eq_true, decide_eq_true_eq] at hx
    obtain ⟨⟨hm, -⟩, hk⟩ := hx
    have hk : k ≤ 971 := by
      have : (k : Int) ≤ 971 := hk
      omega
    rw [natAbs_signed]
    calc m * 2 ^ k < 2 ^ 53 * 2 ^ k := Nat.mul_lt_mul_of_pos_right hm (Nat.two_pow_pos k)
      _ ≤ 10 ^ digits := hpow k hk
  · rename_i negative m k
    -- a fraction that comes down to an integer is not greater than its numerator
    have hle := halve_le (k + 1) m
    simp only [fits, Bool.and_eq_true, decide_eq_true_eq] at hx
    split at h
    · rename_i m' hk
      rw [hk] at hle
      cases h
      rw [natAbs_signed]
      calc m' ≤ m := hle.1
        _ < 2 ^ 53 := hx.1.1
        _ ≤ 10 ^ digits := hpow 0 (by omega)
    · cases h
  · cases h

end BinaryNumber

theorem isOk_numeral_iff {n : Int} : (numeral n).isOk = true ↔ n.natAbs < 10 ^ Text.maxDigits := by
  rw [numeral, Text.numeral?, Nat.pow_eq]
  by_cases h : n.natAbs < 10 ^ Text.maxDigits
  · rw [if_pos h]
    exact iff_of_true rfl h
  · rw [if_neg h]
    exact iff_of_false Bool.false_ne_true h

theorem numeral_eq_error {n : Int} {fault : Fault} (h : numeral n = .error fault) :
    fault = .numberTooLong := by
  rw [numeral] at h
  split at h
  · cases h
  · cases h
    rfl

theorem le_maxDigits : 1024 ≤ Text.maxDigits := by
  rw [Text.maxDigits_eq]
  decide

theorem natAbs_truth_lt (b : Bool) : (if b then 1 else 0 : Int).natAbs < 10 ^ Text.maxDigits := by
  have hle : (if b then 1 else 0 : Int).natAbs ≤ 1 := by cases b <;> decide
  have hpos : 0 < Text.maxDigits := Nat.lt_of_lt_of_le (by decide) le_maxDigits
  exact Nat.lt_of_le_of_lt hle (Nat.one_lt_pow (Nat.ne_of_gt hpos) (by decide))

/-! ### Values -/

theorem isOk_bind_pure {α β : Type} {x : Except Fault α} {f : α → β} :
    (x >>= fun a => pure (f a) : Except Fault β).isOk = x.isOk := by
  cases x <;> rfl

namespace Value

theorem isOk_literal_ofNumber (x : Binary64) : (ofNumber x).literal.isOk = true := by
  rw [ofNumber]
  split
  · rename_i n hn
    rw [literal, isOk_numeral_iff]
    rw [Binary64.reduce] at hn
    split at hn
    · rename_i n' hn'
      cases hn
      exact BinaryNumber.natAbs_lt_of_reduce x.fits hn' le_maxDigits
    · cases hn
  · rfl

mutual

/-- The common form of all spellings has a text exactly if the spelling has one. -/
theorem isOk_literal_canonical : ∀ a : Value, a.canonical.literal.isOk = a.literal.isOk
  | .absent | .text _ | .bytes _ | .state _ | .int _ => rfl
  | .truth b => by
    rw [canonical, literal, literal]
    exact isOk_numeral_iff.2 (natAbs_truth_lt b)
  | .float x => by
    rw [canonical, isOk_literal_ofNumber]
    rfl
  | .tuple items => by
    rw [canonical, literal, literal, isOk_bind_pure, isOk_bind_pure]
    exact isOk_literals_canonicalAll items
  | .list items => by
    rw [canonical, literal, literal, isOk_bind_pure, isOk_bind_pure]
    exact isOk_literals_canonicalAll items

theorem isOk_literals_canonicalAll :
    ∀ as : List Value, (literals (canonicalAll as)).isOk = (literals as).isOk
  | [] => rfl
  | a :: rest => by
    have ha := isOk_literal_canonical a
    have hrest := isOk_literals_canonicalAll rest
    rw [canonicalAll, literals, literals]
    -- the first item has a literal in both forms or in none; only then the others count
    cases h : a.literal <;> cases h' : a.canonical.literal <;> rw [h, h'] at ha
    · rfl
    · cases ha
    · cases ha
    · rw [ok_bind, ok_bind, isOk_bind_pure, isOk_bind_pure, hrest]

end

mutual

theorem literal_eq_error : ∀ {a : Value} {fault : Fault}, a.literal = .error fault →
    fault = .numberTooLong
  | .absent, _, h | .truth _, _, h | .float _, _, h | .text _, _, h | .bytes _, _, h => by
    rw [literal] at h
    cases h
  | .int _, _, h => by
    rw [literal] at h
    exact numeral_eq_error h
  | .state id, _, h => by
    rw [literal, StateId.literal] at h
    cases hn : numeral id.index with
    | ok s => rw [hn] at h; cases h
    | error e => rw [hn] at h; cases h; exact numeral_eq_error hn
  | .tuple items, _, h | .list items, _, h => by
    rw [literal] at h
    cases hn : literals items with
    | ok s => rw [hn] at h; cases h
    | error e => rw [hn] at h; cases h; exact literals_eq_error hn

theorem literals_eq_error : ∀ {as : List Value} {fault : Fault}, literals as = .error fault →
    fault = .numberTooLong
  | [], _, h => by
    rw [literals] at h
    cases h
  | a :: rest, _, h => by
    rw [literals] at h
    cases ha : a.literal with
    | error e => rw [ha] at h; cases h; exact literal_eq_error ha
    | ok s =>
      cases hrest : literals rest with
      | error e => rw [ha, hrest] at h; cases h; exact literals_eq_error hrest
      | ok ss => rw [ha, hrest] at h; cases h

end

/-! ### Texts of values on their own -/

theorem isOk_plain (a : Value) : a.plain.isOk = a.literal.isOk := by
  cases a with
  | state id => rw [plain, literal, StateId.plain, StateId.literal, isOk_bind_pure, isOk_bind_pure]
  | _ => rfl

/-- Spellings of one symbol have a text or have none together. -/
theorem isOk_plain_congr {a b : Value} (h : a.same b = true) : a.plain.isOk = b.plain.isOk := by
  rw [isOk_plain, isOk_plain, ← isOk_literal_canonical a, ← isOk_literal_canonical b, same_iff.1 h]

/-- The one reason why a value may have no text is that a number in it has too many digits. -/
theorem plain_eq_error {a : Value} {fault : Fault} (h : a.plain = .error fault) :
    fault = .numberTooLong := by
  cases a with
  | text s => cases h
  | state id =>
    rw [plain, StateId.plain] at h
    cases hn : numeral id.index with
    | ok s => rw [hn] at h; cases h
    | error e => rw [hn] at h; cases h; exact numeral_eq_error hn
  | _ => exact literal_eq_error h

/-- A text is spelled in one way. -/
theorem eq_of_same_text {s : String} {b : Value} (h : (Value.text s).same b = true) :
    b = .text s := by
  have hcanonical := same_iff.1 h
  cases b with
  | text t => exact hcanonical.symm
  | float x =>
    -- the common form of a number is a number
    simp only [canonical, ofNumber] at hcanonical
    split at hcanonical <;> cases hcanonical
  | _ => simp [canonical] at hcanonical

end Value

end FiniteAutomata

import FiniteAutomata.Proofs.Spelling

namespace FiniteAutomata

/-!
# Values that can be shown

A value that names no state is refused with its literal. A number with too many digits has none, nor
has a state with such a number or a value that holds one, and these are refused as too long instead.

* `Value.Showable`: no number in the value has too many digits.
* `Value.isOk_literal_iff`: these are the values that have a literal.
* `Value.invalid_of_showable`, `Value.invalid_of_not_showable`: the two ways to be refused.
-/

namespace Value

mutual

/-- No number in the value has too many digits. -/
def Showable : Value → Prop
  | .int n => n.natAbs < 10 ^ Text.maxDigits
  | .state id => id.index.natAbs < 10 ^ Text.maxDigits
  | .tuple items | .list items => AllShowable items
  | .absent | .truth _ | .float _ | .text _ | .bytes _ => True

/-- No number in the values has too many digits. -/
def AllShowable : List Value → Prop
  | [] => True
  | a :: rest => a.Showable ∧ AllShowable rest

end

mutual

theorem isOk_literal_iff : ∀ {a : Value}, a.literal.isOk = true ↔ a.Showable
  | .absent | .truth _ | .float _ | .text _ | .bytes _ => by
    rw [literal, Showable]
    exact iff_of_true rfl trivial
  | .int n => by rw [literal, Showable, isOk_numeral_iff]
  | .state id => by rw [literal, StateId.literal, Showable, isOk_bind_pure, isOk_numeral_iff]
  | .tuple items | .list items => by
    rw [literal, Showable, isOk_bind_pure]
    exact isOk_literals_iff

theorem isOk_literals_iff : ∀ {as : List Value}, (literals as).isOk = true ↔ AllShowable as
  | [] => iff_of_true rfl trivial
  | a :: rest => by
    have hrest : (literals rest).isOk = true ↔ AllShowable rest := isOk_literals_iff
    rw [literals, AllShowable, ← isOk_literal_iff, ← hrest]
    cases a.literal with
    | error fault => simp [Except.isOk, Except.toBool, error_bind]
    | ok shown => rw [ok_bind, isOk_bind_pure]; exact (and_iff_right rfl).symm

end

variable {v : Value}

/-- A value that can be shown is refused with its literal. -/
theorem invalid_of_showable (h : v.Showable) :
    ∃ shown, v.literal = .ok shown ∧ ∀ reason, v.invalid reason = .invalidState v shown reason := by
  have hok := isOk_literal_iff.2 h
  cases hshown : v.literal with
  | error fault => rw [hshown] at hok; cases hok
  | ok shown =>
    refine ⟨shown, rfl, fun reason => ?_⟩
    rw [invalid, hshown]

/-- A value that cannot be shown is refused as too long. -/
theorem invalid_of_not_showable (h : ¬ v.Showable) (reason : String) :
    v.invalid reason = .numberTooLong := by
  cases hshown : v.literal with
  | ok shown =>
    refine absurd (isOk_literal_iff.1 ?_) h
    rw [hshown]
    rfl
  | error fault =>
    rw [invalid, hshown]
    exact literal_eq_error hshown

/-! ### Small and great numbers -/

/-- A state can be shown unless its number is very great. -/
theorem showable_state {id : StateId} (h : id.index.natAbs ≤ 1024) : (state id).Showable := by
  rw [Showable]
  calc id.index.natAbs < 10 ^ id.index.natAbs := Nat.lt_pow_self (by decide)
    _ ≤ 10 ^ Text.maxDigits := Nat.pow_le_pow_right (by decide) (h.trans le_maxDigits)

theorem not_showable_int : ¬ (int (10 ^ 4300)).Showable := by
  rw [Showable, ← Text.maxDigits_eq, Int.natAbs_pow]
  exact Nat.lt_irrefl _

theorem not_showable_state (owner : Nat) : ¬ (state ⟨10 ^ 4300, owner⟩).Showable := by
  rw [Showable, ← Text.maxDigits_eq, Int.natAbs_pow]
  exact Nat.lt_irrefl _

theorem not_showable_tuple : ¬ (tuple [int (10 ^ 4300)]).Showable := by
  rw [Showable, AllShowable]
  exact fun h => not_showable_int h.1

end Value

end FiniteAutomata

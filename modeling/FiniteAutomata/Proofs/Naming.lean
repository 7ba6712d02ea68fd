import FiniteAutomata.Proofs.Automaton.Asking
import FiniteAutomata.Proofs.Terminal.Atomicity
import Mathlib.Tactic.Ring

namespace FiniteAutomata

/-!
# Which tokens name states

A token names the state at a position exactly if it is a numeral of that position, in the digits of
any script and perhaps behind one mark. Digits that no numeral uses, numerals that are too long and
numbers that are too great are all told apart.

* `Text.Denotes`: the number that a run of decimal digits stands for.
* `Text.readNumeral_eq_ok_iff`: numerals are read as what they denote.
* `Designates`: a token stands for a number.
* `ReadsNames`, `reads_names`: which state, or which refusal, a token is answered with.
-/

/-! ### Numerals -/

namespace Text

/-- The characters are decimal digits, of any script, that stand for a number: each of them counts
    with the power of ten of its place. -/
inductive Denotes : List Char → Nat → Prop
  | nil : Denotes [] 0
  | cons {c : Char} {d : Nat} {rest : List Char} {n : Nat} (digit : decimalDigit? c = some d)
      (tail : Denotes rest n) : Denotes (c :: rest) (d * 10 ^ rest.length + n)

theorem Denotes.exists_digit {text : List Char} {n : Nat} (h : Denotes text n) :
    ∀ c ∈ text, ∃ d, decimalDigit? c = some d := by
  induction h with
  | nil => simp
  | cons digit _ ih => exact List.forall_mem_cons.2 ⟨⟨_, digit⟩, ih⟩

/-- A number is below the power of ten of the length of its numeral. -/
theorem Denotes.lt {text : List Char} {n : Nat} (h : Denotes text n) : n < 10 ^ text.length := by
  induction h with
  | nil => decide
  | @cons c d rest n digit _ ih =>
    have hd := decimalDigit?_lt digit
    calc d * 10 ^ rest.length + n < d * 10 ^ rest.length + 10 ^ rest.length := by omega
      _ = (d + 1) * 10 ^ rest.length := by ring
      _ ≤ 10 * 10 ^ rest.length := Nat.mul_le_mul_right _ hd
      _ = 10 ^ (rest.length + 1) := by ring

theorem foldl_digits (digits : List Nat) (start : Nat) :
    digits.foldl (fun n d => 10 * n + d) start = start * 10 ^ digits.length + ofDigits digits := by
  induction digits generalizing start with
  | nil => simp [ofDigits]
  | cons d rest ih =>
    rw [ofDigits, List.foldl_cons, List.foldl_cons, ih, ih (10 * 0 + d), List.length_cons]
    ring

/-- The first digit counts with the power of its place. -/
theorem ofDigits_cons (d : Nat) (digits : List Nat) :
    ofDigits (d :: digits) = d * 10 ^ digits.length + ofDigits digits := by
  rw [ofDigits, List.foldl_cons, foldl_digits, Nat.mul_zero, Nat.zero_add]

theorem length_leadingDigits_le (text : List Char) :
    (leadingDigits text).length ≤ text.length := by
  induction text with
  | nil => exact Nat.le_refl _
  | cons c rest ih =>
    rw [leadingDigits]
    split
    · exact Nat.succ_le_succ ih
    · exact Nat.zero_le _

/-- A text denotes a number exactly if all of it belongs to the numeral that it begins with. -/
theorem denotes_iff {text : List Char} {n : Nat} :
    Denotes text n ↔
      (leadingDigits text).length = text.length ∧ ofDigits (leadingDigits text) = n := by
  constructor
  · intro h
    induction h with
    | nil => exact ⟨rfl, rfl⟩
    | cons digit _ ih =>
      obtain ⟨hlength, hvalue⟩ := ih
      simp only [leadingDigits, digit, List.length_cons, ofDigits_cons, hlength, hvalue, and_self]
  · rintro ⟨hlength, rfl⟩
    induction text with
    | nil => exact .nil
    | cons c rest ih =>
      cases hc : decimalDigit? c with
      | none => simp [leadingDigits, hc] at hlength
      | some d =>
        simp only [leadingDigits, hc, List.length_cons, Nat.add_right_cancel_iff] at hlength
        simp only [leadingDigits, hc, ofDigits_cons, hlength]
        exact .cons hc (ih hlength)

/-- A text is read as a number exactly if it denotes that number and is neither empty nor too
    long. -/
theorem readNumeral_eq_ok_iff {text : List Char} {n : Nat} :
    readNumeral text = .ok n ↔ text ≠ [] ∧ text.length ≤ maxDigits ∧ Denotes text n := by
  have hle := length_leadingDigits_le text
  have hempty : (leadingDigits text).isEmpty = true ↔ (leadingDigits text).length = 0 := by
    rw [List.isEmpty_iff, List.length_eq_zero_iff]
  rw [denotes_iff, readNumeral, ← List.length_pos_iff]
  split
  next htooLong =>
    simp only [reduceCtorEq, false_iff]
    omega
  next hshort =>
    split
    next hbroken =>
      simp only [Bool.or_eq_true, hempty, decide_eq_true_eq] at hbroken
      simp only [reduceCtorEq, false_iff]
      omega
    next hwhole =>
      simp only [Bool.or_eq_true, hempty, decide_eq_true_eq, not_or] at hwhole
      rw [Except.ok.injEq]
      -- all characters are digits, and they are read
      constructor
      · intro hvalue
        exact ⟨by omega, by omega, by omega, hvalue⟩
      · exact fun h => h.2.2.2

end Text

/-! ### Tokens -/

/-- The token is a numeral of a number, neither empty nor too long, perhaps behind one mark. -/
def Designates (token : String) (n : Nat) : Prop :=
  ∃ mark ∈ marks, ∃ digits, token.toList = mark ++ digits ∧ digits ≠ [] ∧
    digits.length ≤ Text.maxDigits ∧ Text.Denotes digits n

/-- No mark is a digit. -/
theorem dropMark_of_denotes {token : String} {mark digits : List Char} {n : Nat}
    (hmark : mark ∈ marks) (htoken : token.toList = mark ++ digits) (h : Text.Denotes digits n) :
    dropMark token = digits := by
  refine dropMark_mark_append hmark htoken fun c hc => ?_
  obtain ⟨d, hd⟩ := h.exists_digit c (List.mem_of_mem_head? hc)
  constructor
  · rintro rfl
    have hnone : Text.decimalDigit? 'q' = none := by decide
    rw [hnone] at hd
    cases hd
  · rintro rfl
    have hnone : Text.decimalDigit? 'Q' = none := by decide
    rw [hnone] at hd
    cases hd

theorem designates_iff {token : String} {n : Nat} :
    Designates token n ↔ dropMark token ≠ [] ∧ (dropMark token).length ≤ Text.maxDigits ∧
      Text.Denotes (dropMark token) n := by
  constructor
  · rintro ⟨mark, hmark, digits, htoken, hne, hlength, hdenotes⟩
    rw [dropMark_of_denotes hmark htoken hdenotes]
    exact ⟨hne, hlength, hdenotes⟩
  · rintro h
    obtain ⟨mark, hmark, htoken⟩ := toList_eq_append_dropMark token
    exact ⟨mark, hmark, dropMark token, htoken, h⟩

/-- The three checks that are made one after the other accept what designates a number: decimal
    digits pass the first check with all others. -/
theorem stateNumber_eq_ok_iff {token : String} {n : Nat} :
    stateNumber token = .ok n ↔ Designates token n := by
  rw [designates_iff, ← Text.readNumeral_eq_ok_iff, stateNumber]
  constructor
  · intro h
    split at h
    next => cases h
    next =>
      split at h
      next hread =>
        cases h
        exact hread
      all_goals cases h
  · intro hread
    obtain ⟨hne, -, hdenotes⟩ := Text.readNumeral_eq_ok_iff.1 hread
    have hdigits : (dropMark token).all Text.isDigit = true := by
      refine List.all_eq_true.2 fun c hc => ?_
      obtain ⟨d, hd⟩ := hdenotes.exists_digit c hc
      exact Text.isDigit_of_decimalDigit? hd
    have hpasses : ((dropMark token).isEmpty || !(dropMark token).all Text.isDigit) = false := by
      rw [hdigits, List.isEmpty_eq_false_iff.2 hne]
      rfl
    simp only [hpasses, Bool.false_eq_true, if_false, hread]

/-- What designates a number is short enough for the number to be written. -/
theorem Designates.lt {token : String} {n : Nat} (h : Designates token n) :
    n < 10 ^ Text.maxDigits := by
  obtain ⟨-, -, digits, -, -, hlength, hdenotes⟩ := h
  exact Nat.lt_of_lt_of_le hdenotes.lt (Nat.pow_le_pow_right (by decide) hlength)

/-- The numeral of a number that is not too long designates it. -/
theorem designates_repr {n : Nat} (h : n < 10 ^ Text.maxDigits) : Designates n.repr n :=
  ⟨[], List.mem_cons_self, Nat.toDigits 10 n, Nat.toList_repr,
    Text.readNumeral_eq_ok_iff.1 (Text.readNumeral_toDigits h)⟩

/-- A token that designates no number is refused, and not as a number. -/
theorem stateNumber_eq_error {token : String} (h : ∀ n, ¬ Designates token n) :
    ∃ fault, stateNumber token = .error fault ∧
      ∀ state shown reason, fault ≠ .invalidState state shown reason := by
  cases hnumber : stateNumber token with
  | ok n => exact absurd (stateNumber_eq_ok_iff.1 hnumber) (h n)
  | error fault =>
    refine ⟨fault, rfl, ?_⟩
    rintro state shown reason rfl
    rw [stateNumber] at hnumber
    split at hnumber
    · cases hnumber
    · split at hnumber <;> cases hnumber

/-! ### States -/

theorem numeral_natCast {n : Nat} (h : n < 10 ^ Text.maxDigits) : numeral n = .ok n.repr := by
  rw [numeral, Text.numeral?, Nat.pow_eq, Int.natAbs_natCast, if_pos h, if_neg (by omega),
    String.empty_append]

/-- A state is written as its name. -/
theorem plain_state {s : Nat} (h : s < 10 ^ Text.maxDigits) (r : Registry) :
    (r.state s).plain = .ok (stateName s) := by
  rw [Registry.state, Registry.id, Value.plain, StateId.plain, numeral_natCast h]
  rfl

namespace Registry

theorem resolve_eq_ok_iff {r : Registry} {token : String} {i : Nat} :
    r.resolve token = .ok i ↔ Designates token i ∧ i < r.size := by
  rw [resolve, bind_eq_ok_iff]
  constructor
  · rintro ⟨n, hn, hlookup⟩
    obtain ⟨hi, hni⟩ := lookup_eq_ok_iff.1 hlookup
    have hni : n = i := Int.ofNat.inj hni
    exact ⟨hni ▸ stateNumber_eq_ok_iff.1 hn, hi⟩
  · rintro ⟨hn, hi⟩
    exact ⟨i, stateNumber_eq_ok_iff.2 hn, lookup_eq_ok_iff.2 ⟨hi, rfl⟩⟩

/-- A number that is too great is refused as the number that it is. -/
theorem resolve_of_size_le {r : Registry} {token : String} {n : Nat} (h : Designates token n)
    (hsize : r.size ≤ n) :
    r.resolve token =
      .error (.invalidState (.int n) n.repr ("automaton has " ++ r.size.repr ++ " states")) := by
  have hrange : ¬ (0 ≤ (n : Int) ∧ (n : Int) < r.size) := by omega
  have hliteral : (Value.int n).literal = .ok n.repr := numeral_natCast h.lt
  rw [resolve, stateNumber_eq_ok_iff.2 h, ok_bind, lookup, if_neg hrange, Value.invalid, hliteral]

/-- Only a number that is too great is refused as a state that does not exist. -/
theorem resolve_eq_invalidState_iff {r : Registry} {token : String} {state : Value} :
    (∃ shown reason, r.resolve token = .error (.invalidState state shown reason)) ↔
      ∃ n : Nat, state = .int n ∧ Designates token n ∧ r.size ≤ n := by
  constructor
  · rintro ⟨shown, reason, h⟩
    by_cases htoken : ∃ n, Designates token n
    · obtain ⟨n, hn⟩ := htoken
      rcases Nat.lt_or_ge n r.size with hlt | hge
      · rw [resolve_eq_ok_iff.2 ⟨hn, hlt⟩] at h
        cases h
      · rw [resolve_of_size_le hn hge] at h
        cases h
        exact ⟨n, rfl, hn, hge⟩
    · obtain ⟨fault, hfault, hother⟩ := stateNumber_eq_error (not_exists.1 htoken)
      rw [resolve, hfault, error_bind, Except.error.injEq] at h
      exact absurd h (hother _ _ _)
  · rintro ⟨n, rfl, hn, hsize⟩
    exact ⟨_, _, resolve_of_size_le hn hsize⟩

end Registry

/-! ### Automata -/

/-- How an automaton answers tokens with its states. -/
structure ReadsNames (a : Automaton) : Prop where
  /-- A token is answered with a state exactly if it designates its position. -/
  answer_eq_ok_iff : ∀ token i,
    a.answer (.resolve token) = .ok (.state (some i)) ↔ Designates token i ∧ i < a.space.size
  /-- Any other token is refused for its value. -/
  refused : ∀ token, (¬ ∃ i < a.space.size, Designates token i) →
    ∃ fault, a.answer (.resolve token) = .error fault ∧ fault.isInValue = true
  /-- It is refused as a state that does not exist, with its number, exactly if only the range is
      wrong. -/
  invalidState_iff : ∀ token state,
    (∃ shown reason, a.answer (.resolve token) = .error (.invalidState state shown reason)) ↔
      ∃ n : Nat, state = .int n ∧ Designates token n ∧ a.space.size ≤ n
  /-- The name of a state is answered with that state. -/
  name : ∀ s < a.space.size, s < 10 ^ Text.maxDigits →
    ∃ name, (a.space.state s).plain = .ok name ∧ a.answer (.resolve name) = .ok (.state (some s))
  /-- The numeral of its position is answered with the same state. -/
  numeral : ∀ s < a.space.size, s < 10 ^ Text.maxDigits →
    ∃ text, (Value.int s).plain = .ok text ∧ a.answer (.resolve text) = .ok (.state (some s))

theorem answer_resolve_eq_ok_iff {a : Automaton} {token : String} {i : Nat} :
    a.answer (.resolve token) = .ok (.state (some i)) ↔ a.space.resolve token = .ok i := by
  rw [Automaton.answer_resolve]
  cases a.space.resolve token <;> simp

theorem answer_resolve_eq_error_iff {a : Automaton} {token : String} {fault : Fault} :
    a.answer (.resolve token) = .error fault ↔ a.space.resolve token = .error fault := by
  rw [Automaton.answer_resolve]
  cases a.space.resolve token <;> simp

/-- **Tokens name states.** Every automaton answers a token with the state whose position the token
    designates, and with nothing else. -/
theorem reads_names (a : Automaton) : ReadsNames a where
  answer_eq_ok_iff token i := by
    rw [answer_resolve_eq_ok_iff, Registry.resolve_eq_ok_iff]
  refused token h := by
    cases hresolve : a.space.resolve token with
    | error fault =>
      exact ⟨fault, answer_resolve_eq_error_iff.2 hresolve, Terminal.isInValue_of_resolve hresolve⟩
    | ok i =>
      obtain ⟨hi, hlt⟩ := Registry.resolve_eq_ok_iff.1 hresolve
      exact absurd ⟨i, hlt, hi⟩ h
  invalidState_iff token state := by
    simp only [answer_resolve_eq_error_iff]
    exact Registry.resolve_eq_invalidState_iff
  name s hs hlt := by
    refine ⟨stateName s, plain_state hlt _, ?_⟩
    rw [answer_resolve_eq_ok_iff, Registry.resolve_eq_ok_iff]
    exact ⟨stateNumber_eq_ok_iff.1 (stateNumber_stateName hlt), hs⟩
  numeral s hs hlt := by
    refine ⟨s.repr, numeral_natCast hlt, ?_⟩
    rw [answer_resolve_eq_ok_iff, Registry.resolve_eq_ok_iff]
    exact ⟨designates_repr hlt, hs⟩

/-- Digits of other scripts are read like the usual ones; a raised digit is none of a numeral. -/
example :
    let a := Automaton.dfa ((Dfa.new 0).buildAll [.addState .absent, .addState .absent])
    a.answer (.resolve "Q٠١") = .ok (.state (some 1)) ∧
      a.answer (.resolve "q1²") = .error (.malformedNumeral "1²") := by decide +kernel

end FiniteAutomata

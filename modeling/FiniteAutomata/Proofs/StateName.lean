import FiniteAutomata.Proofs.Dot.Quoting
import FiniteAutomata.Proofs.Outcome
import FiniteAutomata.Proofs.Registry
import FiniteAutomata.Proofs.Text.Words
import FiniteAutomata.StateName
import Mathlib.Tactic.NormNum

namespace FiniteAutomata

/-!
# Names of states are read back

A number that is not too long is what is read from its numeral, so that the name of a state stands
for that state.

* `Text.readNumeral_toDigits`: the number that is read from its digits.
* `dropMark_mark_append`, `toList_eq_append_dropMark`: the mark is `q` or `Q`, once.
* `isWord_stateName`, `stateName_injective`: the name of a state is a word of its own.
* `stateNumber_stateName`, `Registry.resolve_stateName`: the number and the state that it stands for.
-/

namespace Text

/-- Ordinary digits all belong to the numeral that they begin. -/
theorem leadingDigits_of_isDigit {digits : List Char} (h : ∀ c ∈ digits, c.isDigit = true) :
    leadingDigits digits = digits.map fun c => c.toNat - 48 := by
  induction digits with
  | nil => rfl
  | cons c rest ih =>
    obtain ⟨hc, hrest⟩ := List.forall_mem_cons.1 h
    simp only [leadingDigits, decimalDigit?_of_isDigit hc, ih hrest, List.map_cons]

/-- A number that is not too long is read from its digits. -/
theorem readNumeral_toDigits {n : Nat} (h : n < 10 ^ maxDigits) :
    readNumeral (Nat.toDigits 10 n) = .ok n := by
  have hdigits : leadingDigits (Nat.toDigits 10 n) =
      (Nat.toDigits 10 n).map fun c => c.toNat - 48 :=
    leadingDigits_of_isDigit fun c hc => Nat.isDigit_of_mem_toDigits (by decide) (by decide) hc
  have hpos : 0 < maxDigits := by rw [maxDigits_eq]; decide
  have hle := (Nat.length_toDigits_le_iff (by decide) hpos).2 h
  have hne : ((Nat.toDigits 10 n).map fun c => c.toNat - 48).isEmpty = false := by simp
  have hvalue : ofDigits ((Nat.toDigits 10 n).map fun c => c.toNat - 48) = n := by
    rw [ofDigits, List.foldl_map]
    exact Nat.ofDigitChars_ten_toDigits
  simp only [readNumeral, hdigits, hne, hvalue, List.length_map, Nat.not_lt.2 hle, if_false,
    Nat.lt_irrefl, decide_false, Bool.or_self, Bool.false_eq_true]

end Text

/-! ### Marks -/

namespace Text

theorem eq_of_ofNat_eq_q {n : Nat} (h : Char.ofNat n = 'q') : n = 113 := by
  by_cases hvalid : n.isValidChar
  · rw [Char.ofNat, dif_pos hvalid] at h
    exact congrArg Char.toNat h
  · rw [Char.ofNat, dif_neg hvalid] at h
    cases h

/-- Only the two forms of the letter have the small form `q`. -/
theorem small_eq_q_iff {c : Char} : small c = 'q' ↔ c = 'q' ∨ c = 'Q' := by
  constructor
  · intro h
    rw [small] at h
    split at h
    next r hr =>
      have hcovers := List.find?_some hr
      have hsum : (c.toNat + r.shift).toNat = 113 := eq_of_ofNat_eq_q h
      have hsource : c.toNat = (113 - r.shift).toNat := by omega
      -- of all the runs of capitals, only that of the ordinary letters leads to `q`
      have hruns : ∀ r ∈ smallShifts, r.covers (113 - r.shift).toNat = true →
          (113 - r.shift).toNat = 81 := by decide +kernel
      rw [hsource] at hcovers
      have hcode := hruns r (List.mem_of_find?_eq_some hr) hcovers
      exact .inr (Char.toNat_inj.1 (hsource.trans hcode))
    next => exact .inl h
  · rintro (rfl | rfl) <;> decide +kernel

/-- A text in small letters begins with `q` exactly if the text begins with the letter in one of its
    two forms: neither of the letters with a special small form is one of them. -/
theorem head?_lowercase_eq_q_iff {text : String} :
    (lowercase text).toList.head? = some 'q' ↔
      text.toList.head? = some 'q' ∨ text.toList.head? = some 'Q' := by
  rw [lowercase, String.toList_ofList]
  cases text.toList with
  | nil => simp [lowercaseFrom]
  | cons c rest =>
    rw [lowercaseFrom, smallAt]
    split
    next hsigma =>
      subst hsigma
      split <;> simp
    split
    next hdotted =>
      subst hdotted
      simp
    next => simp [small_eq_q_iff]

end Text

/-- What can stand before the number of a state. -/
def marks : List (List Char) := [[], ['q'], ['Q']]

/-- No more than one mark is dropped. -/
theorem toList_eq_append_dropMark (token : String) :
    ∃ mark ∈ marks, token.toList = mark ++ dropMark token := by
  rw [dropMark]
  split
  next h =>
    rcases Text.head?_lowercase_eq_q_iff.1 h with h | h <;>
      exact ⟨[_], by decide, (List.cons_head?_tail h).symm⟩
  next => exact ⟨[], by decide, rfl⟩

/-- A mark is dropped from what does not begin with another one. -/
theorem dropMark_mark_append {token : String} {mark rest : List Char} (hmark : mark ∈ marks)
    (htoken : token.toList = mark ++ rest) (hrest : ∀ c ∈ rest.head?, c ≠ 'q' ∧ c ≠ 'Q') :
    dropMark token = rest := by
  simp only [dropMark, Text.head?_lowercase_eq_q_iff, htoken]
  simp only [marks, List.mem_cons, List.not_mem_nil, or_false] at hmark
  rcases hmark with rfl | rfl | rfl
  · rw [List.nil_append, if_neg]
    rintro (h | h)
    · exact (hrest _ h).1 rfl
    · exact (hrest _ h).2 rfl
  · simp
  · simp

/-! ### Names -/

theorem isBlank_of_isDigit {c : Char} (h : c.isDigit = true) : Text.isBlank c = false := by
  have hc := Text.toNat_of_isDigit h
  -- no range of white space comes near the digits
  have hranges : ∀ r ∈ Text.blankRanges, r.2 < 48 ∨ 57 < r.1 := by decide
  rw [Text.isBlank, Bool.eq_false_iff]
  intro hblank
  obtain ⟨r, hr, hle, hge⟩ := Text.covers_iff.1 hblank
  have := hranges r hr
  omega

/-- The name of a state is a word. -/
theorem isWord_stateName (index : Nat) : Text.IsWord (stateName index) where
  ne_empty := by simp [stateName]
  unbroken := by
    intro c hc
    rw [Dot.toList_stateName] at hc
    rcases List.mem_cons.1 hc with rfl | hc
    · decide
    · exact isBlank_of_isDigit (Nat.isDigit_of_mem_toDigits (by decide) (by decide) hc)

theorem stateName_injective : Function.Injective stateName := by
  intro s t h
  have hlist : 'q' :: Nat.toDigits 10 s = 'q' :: Nat.toDigits 10 t := by
    rw [← Dot.toList_stateName, ← Dot.toList_stateName, h]
  rw [← Nat.ofDigitChars_ten_toDigits (n := s), (List.cons.inj hlist).2,
    Nat.ofDigitChars_ten_toDigits]

/-- The number in the name of a state. -/
theorem stateNumber_stateName {index : Nat} (h : index < 10 ^ Text.maxDigits) :
    stateNumber (stateName index) = .ok index := by
  have hdigit : (Nat.toDigits 10 index).all Text.isDigit = true := by
    refine List.all_eq_true.2 fun c hc => ?_
    have hc := Nat.isDigit_of_mem_toDigits (by decide) (by decide) hc
    exact Text.isDigit_of_decimalDigit? (Text.decimalDigit?_of_isDigit hc)
  have hne : (Nat.toDigits 10 index).isEmpty = false := by simp
  have hdrop : dropMark (stateName index) = Nat.toDigits 10 index := by
    have hmark : ['q'] ∈ marks := by decide
    refine dropMark_mark_append hmark (Dot.toList_stateName index) ?_
    intro c hc
    have hc := Nat.isDigit_of_mem_toDigits (by decide) (by decide) (List.mem_of_mem_head? hc)
    constructor <;> (rintro rfl; revert hc; decide)
  simp only [stateNumber, hdrop, hdigit, hne, Text.readNumeral_toDigits h, Bool.not_true,
    Bool.or_self, Bool.false_eq_true, if_false]

/-- A word that names a state names one of the states that there are. -/
theorem Registry.resolve_lt {r : Registry} {word : String} {s : Nat}
    (h : r.resolve word = .ok s) : s < r.size := by
  obtain ⟨n, -, hn⟩ := bind_eq_ok_iff.1 h
  exact (lookup_eq_ok_iff.1 hn).1

/-- The name of a state stands for that state. -/
theorem Registry.resolve_stateName {r : Registry} {index : Nat} (h : index < r.size)
    (hsize : r.size ≤ 10 ^ Text.maxDigits) : r.resolve (stateName index) = .ok index := by
  rw [resolve, stateNumber_stateName (Nat.lt_of_lt_of_le h hsize), ok_bind]
  exact lookup_eq_ok_iff.2 ⟨h, rfl⟩

end FiniteAutomata

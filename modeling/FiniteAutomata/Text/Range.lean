namespace FiniteAutomata.Text

/-!
# Ranges of characters

A class of characters is kept as a list of closed ranges of code points.

* `covers`: membership of a code point.
* `covers_iff`: some range holds the code point.
-/

/-- Some of the closed ranges holds the code point. -/
def covers (ranges : List (Nat × Nat)) (n : Nat) : Bool :=
  ranges.any fun r => r.1 ≤ n && n ≤ r.2

theorem covers_iff {ranges : List (Nat × Nat)} {n : Nat} :
    covers ranges n = true ↔ ∃ r ∈ ranges, r.1 ≤ n ∧ n ≤ r.2 := by
  simp [covers]

end FiniteAutomata.Text

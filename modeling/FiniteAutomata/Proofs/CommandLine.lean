import FiniteAutomata.CommandLine.Invocation
import Mathlib.Data.List.TakeDrop

namespace FiniteAutomata.CommandLine

/-!
# Commands in the arguments

Any lines can be given to the program as commands, each by an option with its value in the same
argument. Only two hyphens get lost: the program is then told to obey something that is no command.

* `commandOption`: the argument that gives a line as a command.
* `commandOf_eq`: which lines are commands.
* `splitAtEquals_append`, `itemOf?_commandOption`, `classify_commandOptions`: what such arguments
  are taken for.
* `ofArguments_commandOptions`: what they ask for together.
-/

/-- The argument that gives a line as a command. -/
def commandOption (line : String) : String := "--command=" ++ line

/-- Every line is a command but for two hyphens. -/
theorem commandOf_eq (line : String) :
    commandOf line.toList = if line = "--" then none else some line := by
  have hiff : line.toList = ['-', '-'] ↔ line = "--" := by
    rw [← String.toList_inj]
    rfl
  unfold commandOf
  by_cases h : line = "--"
  · rw [if_pos h, if_pos (hiff.2 h)]
  · rw [if_neg h, if_neg (mt hiff.1 h), String.ofList_toList]

/-! ### Telling arguments apart -/

/-- A name without an equals sign ends at the first one behind it. -/
theorem splitAtEquals_append {name : List Char} (hname : '=' ∉ name) (value : List Char) :
    splitAtEquals (name ++ '=' :: value) = (name, some value) := by
  have hne : ∀ c ∈ name, (c != '=') = true := by
    intro c hc
    rw [bne_iff_ne]
    rintro rfl
    exact hname hc
  have hspan : (name ++ '=' :: value).span (· != '=') = (name, '=' :: value) := by
    rw [List.span_eq_takeWhile_dropWhile, List.takeWhile_append_of_pos hne,
      List.dropWhile_append_of_pos hne]
    simp
  rw [splitAtEquals, hspan]

/-- A command in an argument of its own is taken for one. -/
theorem itemOf?_commandOption (line : String) :
    itemOf? (commandOption line) = some (.long .command (some line.toList)) := by
  have htext : (commandOption line).toList =
      '-' :: '-' :: (Switch.command.word ++ '=' :: line.toList) := by
    rw [commandOption, String.toList_append]
    rfl
  have hword : '=' ∉ Switch.command.word := by decide
  have hsplit := splitAtEquals_append hword line.toList
  have hswitch : Switch.beginningWith Switch.command.word = [.command] := by decide
  simp only [itemOf?, htext, hsplit, hswitch]

theorem classify_commandOptions (lines : List String) :
    classify (lines.map commandOption) =
      some (lines.map fun line => .long .command (some line.toList)) := by
  induction lines with
  | nil => rfl
  | cons line rest ih =>
    have hne : commandOption line ≠ "--" := by
      intro h
      have hlength := congrArg String.length h
      rw [commandOption, String.length_append] at hlength
      have hlong : "--command=".length = 10 := by decide
      have hshort : "--".length = 2 := by decide
      omega
    rw [List.map_cons, classify, if_neg hne, itemOf?_commandOption, ih]
    rfl

/-! ### Obeying them -/

/-- Commands are put behind what was asked for before. -/
theorem invocationFrom_commandItems (commands : List (Option String)) (verbose : Bool)
    (lines : List String) {bound : Nat} (hbound : lines.length ≤ bound) :
    invocationFrom { commands, verbose } bound
        (lines.map fun line => .long .command (some line.toList)) =
      .run (commands ++ lines.map fun line => commandOf line.toList) verbose := by
  induction lines generalizing commands bound with
  | nil => cases bound <;> simp [invocationFrom]
  | cons line rest ih =>
    cases bound with
    | zero => exact absurd hbound (Nat.not_succ_le_zero _)
    | succ bound =>
      have hrest := ih (commands ++ [commandOf line.toList]) (Nat.le_of_succ_le_succ hbound)
      rw [List.map_cons, invocationFrom]
      simp only [read?, Request.obey?, Bool.or_false, hrest, List.map_cons, List.append_assoc,
        List.singleton_append]

/-- Lines that are given as commands are to be obeyed in order. -/
theorem ofArguments_commandOptions (lines : List String) :
    Invocation.ofArguments (lines.map commandOption) =
      .run (lines.map fun line => commandOf line.toList) false := by
  rw [Invocation.ofArguments, classify_commandOptions]
  exact invocationFrom_commandItems [] false lines (Nat.le_of_eq (List.length_map _).symm)

end FiniteAutomata.CommandLine

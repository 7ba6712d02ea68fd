import FiniteAutomata.Text.Casing

namespace FiniteAutomata.Text

/-!
# Small letters

The small-letter form of a text, by the full mapping of Unicode 14.0. Two letters are special: the
dotted capital I becomes two characters, and the capital sigma becomes the final form at the end
of a word.

* `lowercase`: the text in small letters.
* `endsWord`: where a capital sigma takes its final form.
-/

/-- The next character that is not passed over is a letter with case. -/
def meetsCased (text : List Char) : Bool :=
  match text.dropWhile isCaseIgnorable with
  | [] => false
  | c :: _ => isCased c

/-- A letter comes before the position (`before` is read backwards) and none after it. -/
def endsWord (before after : List Char) : Bool := meetsCased before && !meetsCased after

/-- The small form of the character that stands between two pieces of text. -/
def smallAt (before : List Char) (c : Char) (after : List Char) : List Char :=
  if c = 'Σ' then [if endsWord before after then 'ς' else 'σ']
  else if c = 'İ' then ['i', '\u0307']
  else [small c]

/-- The small form of a text that follows `before` (read backwards). -/
def lowercaseFrom (before : List Char) : List Char → List Char
  | [] => []
  | c :: after => smallAt before c after ++ lowercaseFrom (c :: before) after

/-- The text in small letters. -/
def lowercase (text : String) : String := String.ofList (lowercaseFrom [] text.toList)

/-! ### The two special letters, by example -/

example : lowercase "ΟΔΟΣ ΣΑΣ" = "οδος σας" := by decide +kernel
example : (lowercase "İ").toList = ['i', '\u0307'] := by decide +kernel

end FiniteAutomata.Text

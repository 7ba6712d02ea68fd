import FiniteAutomata.Text.Range

namespace FiniteAutomata.Text

/-!
# White space

White space is what Unicode 14.0 calls so, together with the four information separators U+001C to
U+001F.

* `isBlank`: one character of white space.
* `words`: the pieces of a text between runs of white space; none of them is empty.
* `trim`: a text without the white space at its two ends.
-/

/-- White space as closed ranges of code points. -/
def blankRanges : List (Nat × Nat) :=
  [(0x09, 0x0D), (0x1C, 0x20), (0x85, 0x85), (0xA0, 0xA0), (0x1680, 0x1680), (0x2000, 0x200A),
   (0x2028, 0x2029), (0x202F, 0x202F), (0x205F, 0x205F), (0x3000, 0x3000)]

/-- A character of white space. -/
def isBlank (c : Char) : Bool := covers blankRanges c.toNat

/-! ### Words -/

/-- The words of a text whose characters before it, back to the last white space, are `word`
    (read backwards). -/
def wordsFrom (word : List Char) : List Char → List (List Char)
  | [] => if word.isEmpty then [] else [word.reverse]
  | c :: rest =>
    if isBlank c then
      if word.isEmpty then wordsFrom [] rest else word.reverse :: wordsFrom [] rest
    else wordsFrom (c :: word) rest

/-- The longest pieces of a text without white space, in order. -/
def words (text : String) : List String := (wordsFrom [] text.toList).map String.ofList

/-! ### Trimming -/

/-- A text without the white space at its two ends. -/
def trim (text : String) : String :=
  String.ofList ((text.toList.dropWhile isBlank).reverse.dropWhile isBlank).reverse

end FiniteAutomata.Text

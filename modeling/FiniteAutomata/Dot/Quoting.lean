namespace FiniteAutomata.Dot

/-!
# Words of the DOT language

A word of the DOT language is a name or a number, written as it is, or any text between quotation
marks.

* `isName`, `isNumber`: the texts that can be written as they are.
* `isBare`: such a text that is no keyword. One line end after it is let through.
* `protect`: a text as it stands between quotation marks.
* `word`: a text as a word of the language.
* `escapeBackslashes`: a text whose backslashes are to be shown as they are.
-/

/-! ### Texts that need no quotes -/

/-- May begin a name. -/
def isNameStart (c : Char) : Bool := c.isAlpha || c == '_'

/-- A letter or underscore, then letters, digits and underscores. All of them ASCII. -/
def isName : List Char → Bool
  | [] => false
  | c :: rest => isNameStart c && rest.all fun d => isNameStart d || d.isDigit

/-- Digits with a point before, among or behind them, or without one; at least one digit. -/
def isUnsigned (text : List Char) : Bool :=
  match text.span Char.isDigit with
  | (whole, []) => !whole.isEmpty
  | (whole, '.' :: places) => places.all Char.isDigit && !(whole.isEmpty && places.isEmpty)
  | _ => false

/-- A number with or without a minus sign. -/
def isNumber : List Char → Bool
  | '-' :: rest => isUnsigned rest
  | text => isUnsigned text

/-- The words with a meaning of their own, in any letter case. -/
def keywords : List String := ["node", "edge", "graph", "digraph", "subgraph", "strict"]

/-- A text without one line end after it. -/
def dropLineEnd (text : List Char) : List Char :=
  if text.getLast? = some '\n' then text.dropLast else text

/-- Can be written as it is. -/
def isBare (text : List Char) : Bool :=
  (isName (dropLineEnd text) || isNumber (dropLineEnd text)) &&
    !keywords.contains (String.ofList (text.map Char.toLower))

/-! ### Texts between quotes -/

/-- The text behind a run of backslashes of the given length. A quotation mark gets one more
    backslash before it if their number is even. -/
def protectAfter (backslashes : Nat) : List Char → List Char
  | [] => []
  | c :: rest =>
    if c = '\\' then '\\' :: protectAfter (backslashes + 1) rest
    else if c = '"' ∧ backslashes % 2 = 0 then '\\' :: '"' :: protectAfter 0 rest
    else c :: protectAfter 0 rest

/-- A text as it stands between quotation marks. -/
def protect (text : List Char) : List Char := protectAfter 0 text

/-- A text as a word of the language. -/
def wordOf (text : List Char) : List Char :=
  if isBare text then text else '"' :: protect text ++ ['"']

/-- A text as a word of the language. -/
def word (text : String) : String := String.ofList (wordOf text.toList)

/-- Every backslash is written twice. -/
def doubled : List Char → List Char
  | [] => []
  | c :: rest => if c = '\\' then '\\' :: '\\' :: doubled rest else c :: doubled rest

/-- A text whose backslashes are to be shown as they are. -/
def escapeBackslashes (text : String) : String := String.ofList (doubled text.toList)

end FiniteAutomata.Dot

import FiniteAutomata.Text.Printable

namespace FiniteAutomata.Text

/-!
# Quoted literals

A text between quotes, with whatever could be misread written as an escape. Apostrophes are the
quotes, unless the text holds an apostrophe and no quotation mark.

* `escape`: one character inside quotes.
* `quote`: the quotes that a text gets.
* `quoted`: the literal of a text.
* `quotedBytes`: the literal of a string of bytes.
-/

/-- A number in base sixteen, filled up with zeros to the given width. -/
def hexadecimal (width n : Nat) : List Char :=
  let digits := Nat.toDigits 16 n
  List.replicate (width - digits.length) '0' ++ digits

/-- One character inside quotes: the quote and the backslash after a backslash, line ends and the
    tabulator by a letter, and whatever is not printable by its code. -/
def escape (printable : Char → Bool) (quote c : Char) : List Char :=
  if c = quote ∨ c = '\\' then ['\\', c]
  else if c = '\t' then ['\\', 't']
  else if c = '\n' then ['\\', 'n']
  else if c = '\r' then ['\\', 'r']
  else if printable c then [c]
  else if c.toNat < 0x100 then '\\' :: 'x' :: hexadecimal 2 c.toNat
  else if c.toNat < 0x10000 then '\\' :: 'u' :: hexadecimal 4 c.toNat
  else '\\' :: 'U' :: hexadecimal 8 c.toNat

/-- The quotes of a text: apostrophes, or quotation marks where only those need no escape. -/
def quote (text : List Char) : Char :=
  if '\x27' ∈ text ∧ '"' ∉ text then '"' else '\x27'

/-- A text between quotes. -/
def quotedWith (printable : Char → Bool) (text : List Char) : List Char :=
  quote text :: text.flatMap (escape printable (quote text)) ++ [quote text]

/-- The literal of a text. -/
def quoted (text : String) : String := String.ofList (quotedWith isPrintable text.toList)

/-- The literal of a string of bytes. Only those of printable ASCII characters stand for
    themselves. -/
def quotedBytes (bytes : List UInt8) : String :=
  String.ofList ('b' ::
    quotedWith (fun c => 0x20 ≤ c.toNat && c.toNat < 0x7F) (bytes.map fun b => Char.ofNat b.toNat))

/-! ### Quotes and escapes, by example -/

example : quoted "a\"b" = "'a\"b'" := by decide +kernel
example : quoted "it's" = "\"it's\"" := by decide +kernel
example : quoted "\u00a0\u2028" = "'\\xa0\\u2028'" := by decide +kernel

end FiniteAutomata.Text

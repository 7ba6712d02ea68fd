import FiniteAutomata.Text.Digit

namespace FiniteAutomata.CommandLine

/-!
# Command line options

The arguments of the program are told apart before any of them is obeyed: an argument names an
option, possibly with a value in the same argument, or it is a plain argument.

* `Switch`: the options.
* `Item`: what an argument is taken for.
* `classify`: what each argument is taken for, unless one of them is ambiguous.
-/

/-- The options. -/
inductive Switch
  | help | command | verbose
deriving DecidableEq, Repr

namespace Switch

/-- All options. -/
def all : List Switch := [.help, .command, .verbose]

/-- The letter of an option, behind one hyphen. -/
def letter : Switch → Char
  | .help => 'h'
  | .command => 'c'
  | .verbose => 'v'

/-- The word of an option, behind two hyphens. -/
def word : Switch → List Char
  | .help => "help".toList
  | .command => "command".toList
  | .verbose => "verbose".toList

/-- The option with a letter. -/
def ofLetter? (c : Char) : Option Switch := all.find? (·.letter == c)

/-- The options whose words begin with a text. -/
def beginningWith (text : List Char) : List Switch := all.filter fun s => text.isPrefixOf s.word

end Switch

/-- What an argument is taken for. -/
inductive Item
  /-- An option named by its letter, with the text that the same argument gives it, if any. -/
  | short (switch : Switch) (text : Option (List Char))
  /-- An option named by its word or the beginning of it, with the value behind an equals sign. -/
  | long (switch : Switch) (value : Option (List Char))
  /-- Looks like an option, but names none. -/
  | unknown
  /-- A plain argument. -/
  | plain (text : String)
  /-- Two hyphens, which end the options. -/
  | separator
deriving DecidableEq

/-- Some digits, nothing else, and perhaps one line end. -/
def areDigits (text : List Char) : Bool :=
  let rest := text.dropWhile fun c => (Text.decimalDigit? c).isSome
  rest.length < text.length && (rest == [] || rest == ['\n'])

/-- The text behind a hyphen makes a number: digits, with a point before the last of them. -/
def isNumeric (text : List Char) : Bool :=
  areDigits text ||
    match text.dropWhile fun c => (Text.decimalDigit? c).isSome with
    | '.' :: rest => areDigits rest
    | _ => false

/-- A hyphen and a text that names no option. A negative number is a plain argument, and so is
    whatever holds a space. -/
def unnamed (argument : String) (behindHyphen : List Char) : Item :=
  if isNumeric behindHyphen || behindHyphen.contains ' ' then .plain argument else .unknown

/-- A text up to the first equals sign, and what follows it, if there is one. -/
def splitAtEquals (text : List Char) : List Char × Option (List Char) :=
  match text.span (· != '=') with
  | (name, _ :: value) => (name, some value)
  | (name, []) => (name, none)

/-- The text behind the letter of an option in the same argument. An equals sign directly behind the
    letter is no part of it. -/
def behindLetter? : List Char → Option (List Char)
  | [] => none
  | '=' :: text => some text
  | text => some text

/-- What an argument before the separator is taken for; `none` if it could name several options. -/
def itemOf? (argument : String) : Option Item :=
  match argument.toList with
  | '-' :: '-' :: text =>
    let (name, value) := splitAtEquals text
    match Switch.beginningWith name with
    | [] => some (unnamed argument ('-' :: text))
    | [switch] => some (.long switch value)
    | _ => none
  | '-' :: c :: tail =>
    match Switch.ofLetter? c with
    | some switch => some (.short switch (behindLetter? tail))
    | none => some (unnamed argument (c :: tail))
  | _ => some (.plain argument)

/-- What each argument is taken for; `none` if one of them is ambiguous. Behind two hyphens all
    arguments are plain. -/
def classify : List String → Option (List Item)
  | [] => some []
  | argument :: rest =>
    if argument = "--" then some (.separator :: rest.map .plain)
    else
      match itemOf? argument, classify rest with
      | some item, some items => some (item :: items)
      | _, _ => none

end FiniteAutomata.CommandLine

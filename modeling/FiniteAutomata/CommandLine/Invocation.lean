import FiniteAutomata.CommandLine.Option

namespace FiniteAutomata.CommandLine

/-!
# Invocations

* `Invocation`: what the arguments of the program ask for.
* `Order`: one option with its value.
* `Reading`, `read?`: what one argument asks for: several letters may stand behind one hyphen.
* `Invocation.ofArguments`: what all arguments together ask for.
* `helpText`: an overview of the options.
-/

/-- What the arguments of the program ask for. -/
inductive Invocation
  | help
  | misuse
  /-- Work is to be done; a command is `none` where an option was given two hyphens for it. -/
  | run (commands : List (Option String)) (verbose : Bool)
deriving DecidableEq

/-- One option with its value. -/
inductive Order
  | help
  | command (line : Option String)
  | verbose
deriving DecidableEq

/-- What an argument asks for. -/
structure Reading where
  orders : List Order := []
  /-- The argument is of no use. -/
  surplus : Bool := false
  /-- The arguments behind it and the values that it takes. -/
  rest : List Item

/-- The plain argument that is next, as the value of an option. -/
def nextValue? : List Item → Option (String × List Item)
  | .plain value :: rest => some (value, rest)
  | _ => none

/-- An option on its own, which takes its value, if it needs one, from the next argument. -/
def readAlone? (switch : Switch) (rest : List Item) : Option Reading :=
  match switch with
  | .help => some { orders := [.help], rest }
  | .verbose => some { orders := [.verbose], rest }
  | .command => (nextValue? rest).map fun (value, rest) =>
      { orders := [.command (some value)], rest }

/-- The order of an option that takes no value. -/
def flagOrder? : Switch → Option Order
  | .help => some .help
  | .verbose => some .verbose
  | .command => none

/-- The command that an option is given in its own argument. Two hyphens are no command. -/
def commandOf (text : List Char) : Option String :=
  if text = ['-', '-'] then none else some (String.ofList text)

/-- An option named by its letter, and the text that its argument gives it. An option that takes a
    value takes all of the text; any other takes none of it, and the text names a further option by
    its first letter. Such a letter makes no sense if it names no option, and neither does a text
    that is empty. -/
def readLetters? (rest : List Item) (switch : Switch) (text : List Char) : Option Reading :=
  match flagOrder? switch, text with
  | none, text => some { orders := [.command (commandOf text)], rest }
  | some _, [] => none
  | some order, c :: text => do
    let next ← Switch.ofLetter? c
    let reading ← if text = [] then readAlone? next rest else readLetters? rest next text
    return { reading with orders := order :: reading.orders }

/-- What the first of several arguments asks for; `none` if it makes no sense. -/
def read? (item : Item) (rest : List Item) : Option Reading :=
  match item with
  | .short switch none => readAlone? switch rest
  | .short switch (some text) => readLetters? rest switch text
  | .long switch none => readAlone? switch rest
  | .long .command (some value) => some { orders := [.command (commandOf value)], rest }
  | .long _ (some _) => none
  | .unknown | .plain _ | .separator => some { surplus := true, rest }

/-- What was asked for so far. -/
structure Request where
  commands : List (Option String) := []
  verbose : Bool := false
  /-- Some argument was of no use. -/
  surplus : Bool := false

/-- Obeys orders; `none` when help is asked for. -/
def Request.obey? (r : Request) : List Order → Option Request
  | [] => some r
  | .help :: _ => none
  | .command line :: rest => { r with commands := r.commands ++ [line] }.obey? rest
  | .verbose :: rest => { r with verbose := true }.obey? rest

/-- What the items ask for, of which at most `bound` are left. Help is given at once, before later
    mistakes are noticed. -/
def invocationFrom (r : Request) : Nat → List Item → Invocation
  | 0, _ | _, [] => if r.surplus then .misuse else .run r.commands r.verbose
  | bound + 1, item :: rest =>
    match read? item rest with
    | none => .misuse
    | some reading =>
      match { r with surplus := r.surplus || reading.surplus }.obey? reading.orders with
      | none => .help
      | some r => invocationFrom r bound reading.rest

/-- What the arguments of the program ask for. -/
def Invocation.ofArguments (arguments : List String) : Invocation :=
  match classify arguments with
  | none => .misuse
  | some items => invocationFrom {} items.length items

/-- An overview of the options. -/
def helpText : String := "usage: fsm [-h] [-c COMMAND] [-v]

Build and run finite automata

options:
  -h, --help            show this help message and exit
  -c COMMAND, --command COMMAND
                        Run a command and exit (may be repeated)
  -v, --verbose         Enable debug logging
"

end FiniteAutomata.CommandLine

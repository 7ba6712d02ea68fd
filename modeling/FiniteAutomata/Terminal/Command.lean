import FiniteAutomata.Automaton.Basic
import FiniteAutomata.Text.Blank
import FiniteAutomata.Text.Lowercase

namespace FiniteAutomata.Terminal

/-!
# Commands

* `Action`: what can be done with one automaton.
* `Command`: what can be typed.
* `Command.ofLine`: the command on a line. The first word decides, in any letter case.
* `helpText`: an overview of all commands.
-/

/-- What can be done with one automaton. -/
inductive Action
  | state | trans | eps | initial | test | trace | show | dot | graph
deriving DecidableEq, Repr

namespace Action

/-- All actions. -/
def all : List Action := [.state, .trans, .eps, .initial, .test, .trace, .show, .dot, .graph]

/-- The word for an action. -/
def word : Action → String
  | .state => "state"
  | .trans => "trans"
  | .eps => "eps"
  | .initial => "initial"
  | .test => "test"
  | .trace => "trace"
  | .show => "show"
  | .dot => "dot"
  | .graph => "graph"

/-- The action for a word. -/
def ofWord? (word : String) : Option Action := all.find? (·.word == word)

end Action

/-- What can be typed. -/
inductive Command
  | nothing
  | leave
  | help
  | create (kind : AutomatonKind) (name : Option String)
  | load (sample name : Option String)
  | list
  | delete (name : Option String)
  | clear
  | act (action : Action) (arguments : List String)
  | unknown (word : String)
deriving DecidableEq

namespace Command

/-- The word that creates an automaton. -/
def creationWord : AutomatonKind → String
  | .dfa => "new_dfa"
  | .nfa => "new_nfa"

/-- The command with a first word and arguments. -/
def ofWord (word : String) (arguments : List String) : Command :=
  if word = "exit" ∨ word = "quit" then .leave
  else if word = "help" then .help
  else if word = creationWord .dfa then .create .dfa arguments.head?
  else if word = creationWord .nfa then .create .nfa arguments.head?
  else if word = "sample" then .load arguments.head? arguments[1]?
  else if word = "list" then .list
  else if word = "delete" then .delete arguments.head?
  else if word = "clear" then .clear
  else
    match Action.ofWord? word with
    | some action => .act action arguments
    | none => .unknown word

/-- The command on a line. -/
def ofLine (line : String) : Command :=
  match Text.words line with
  | [] => .nothing
  | word :: arguments => ofWord (Text.lowercase word) arguments

end Command

/-- An overview of all commands. -/
def helpText : String := "
Commands:
  BUILDING:
    new_dfa <name>               - Create an empty DFA
    new_nfa <name>               - Create an empty NFA
    state <name> [accept]        - Add a state (accepting if 'accept' given)
    trans <name> <q> <sym> <q'>  - Add transition q -sym-> q'
    eps <name> <q> <q'>          - Add epsilon transition q -> q' (NFA only)
    initial <name> <q>           - Set the initial state (default: first state)
    sample <sample> [name]       - Load a sample automaton

  RUNNING:
    test <name> [word]           - Test if word is accepted (omit for empty word)
    trace <name> [word]          - Show the states visited while reading word

  INSPECTING:
    list                         - List all automata
    show <name>                  - Show automaton info
    dot <name>                   - Print Graphviz DOT source
    graph <name> [file]          - Render automaton to <file>.png

  GENERAL:
    delete <name>                - Delete automaton
    clear                        - Clear all
    exit                         - Exit

States are written as q0, q1, ... (or just 0, 1, ...). Every character of a
word is one symbol.
"

end FiniteAutomata.Terminal

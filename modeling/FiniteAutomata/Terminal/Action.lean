import FiniteAutomata.Description
import FiniteAutomata.Picture
import FiniteAutomata.StateName
import FiniteAutomata.Terminal.Command
import FiniteAutomata.Terminal.Word

namespace FiniteAutomata.Terminal

/-!
# Actions on an automaton

* `Outcome`: the automaton afterwards, what is shown, reported and asked for, and the fault that broke
  the action off, if one did.
* `Outcome.brokenOff`, `Outcome.showing`, `Outcome.telling`, `Outcome.ofCall`: how actions end.
* `withState`: goes on with the state that a word names.
* `Action.perform`: what an action does.
-/

/-- What an action did. -/
structure Outcome where
  automaton : Automaton
  output : String := ""
  report : List Event := []
  pictures : List Picture := []
  /-- The fault that broke it off, if one did. -/
  fault : Option Fault := none

/-- A line of output. -/
def lineOf (text : String) : String := text ++ "\n"

/-- An action that is broken off before it does anything. -/
def Outcome.brokenOff (a : Automaton) (fault : Fault) : Outcome := { automaton := a, fault }

/-- An action that only shows a text, if there is one. -/
def Outcome.showing (a : Automaton) : Except Fault String → Outcome
  | .ok text => { automaton := a, output := lineOf text }
  | .error fault => .brokenOff a fault

/-- An action that shows the answer to a question, or is broken off where there is none. -/
def Outcome.telling (asked : Except Fault String × Automaton) : Outcome := .showing asked.2 asked.1

/-- An action that makes a call and then shows a line. -/
def Outcome.ofCall (built : Built Automaton) (text : String) : Outcome :=
  match built.result with
  | .ok _ => { automaton := built.automaton, output := lineOf text, report := built.report }
  | .error fault =>
    { automaton := built.automaton, report := built.report, fault := some fault }

/-- An action that goes on with the state that a word names; where it names none the action is broken
    off. -/
def withState (a : Automaton) (word : String) (next : Nat → Outcome) : Outcome :=
  match a.space.resolve word with
  | .ok s => next s
  | .error fault => .brokenOff a fault

/-- The letters in which a word's empty beginning is shown. -/
def shownBeginning (word : List Char) (read : Nat) : String :=
  if read = 0 then epsilonLabel else String.ofList (word.take read)

/-- One line for each of the states or sets in a run, with the symbols read before it. -/
def beginningLines (word : List Char) (labels : List String) : String :=
  String.join (labels.mapIdx fun i label =>
    lineOf ("  " ++ shownBeginning word i ++ ": " ++ label))

/-- The line about the symbol at which a path is stuck: it is where the path has no more states than
    the word has symbols. -/
def stuckLine (word : List Char) (path : List Nat) : String :=
  if path.length ≤ word.length then
    match word[path.length - 1]? with
    | some c => lineOf ("  stuck at symbol " ++ path.length.repr ++ ": " ++
        Text.quoted (String.singleton c))
    | none => ""
  else ""

/-- The line with a verdict. -/
def verdictLine (v : Verdict) : String := lineOf (if v.accepted then "ACCEPTED" else "REJECTED")

/-- The lines of a run that saw at least one state or set. -/
def traceLines (word : List Char) : Automaton.Run → String
  | .path path => beginningLines word (path.map stateName) ++ stuckLine word path
  | .trail sets => beginningLines word (sets.map stateSet)

/-- A run that saw nothing. -/
def sawNothing : Automaton.Run → Bool
  | .path path => path.isEmpty
  | .trail sets => sets.isEmpty

/-! ### What the actions do -/

/-- The words that make a state accepting, in any letter case. -/
def acceptingWords : List String := ["accept", "accepting", "final"]

/-- Adds a state. -/
def addState (a : Automaton) (arguments : List String) : Outcome :=
  let accepting := arguments.head?.any fun word => acceptingWords.contains (Text.lowercase word)
  .ofCall (a.build (.addState (.truth accepting)))
    ("Added state " ++ stateName a.space.size ++ if accepting then " (accepting)" else "")

/-- Adds a transition. Both states are named before anything is added. -/
def addTransition (a : Automaton) : List String → Outcome
  | source :: symbol :: target :: _ =>
    withState a source fun s =>
      withState a target fun t =>
        .ofCall
          (a.build (.addTransition (.state (a.space.id s)) (.text symbol) (.state (a.space.id t))))
          ("Added " ++ stateName s ++ " -" ++ symbol ++ "-> " ++ stateName t)
  | _ => .showing a (.ok "Usage: trans <name> <q> <sym> <q'>")

/-- Adds an epsilon transition. Both states are named before anything is added. -/
def addEpsilon (a : Automaton) (arguments : List String) : Outcome :=
  match a.kind with
  | .dfa => .showing a (.ok Fault.nfaOnly.message)
  | .nfa =>
    match arguments with
    | source :: target :: _ =>
      withState a source fun s =>
        withState a target fun t =>
          .ofCall (a.build (.addEpsilon (.state (a.space.id s)) (.state (a.space.id t))))
            ("Added " ++ stateName s ++ " -" ++ epsilonLabel ++ "-> " ++ stateName t)
    | _ => .showing a (.ok "Usage: eps <name> <q> <q'>")

/-- Chooses the initial state. -/
def setInitial (a : Automaton) : List String → Outcome
  | state :: _ =>
    withState a state fun s =>
      let built := a.build (.setInitial (.state (a.space.id s)))
      .ofCall built ("Start: " ++ stateOrNone built.automaton.space.initial?)
  | [] => .showing a (.ok "Usage: initial <name> <q>")

/-- Tells whether a word is accepted, behind what was shown before. -/
def judgeWord (a : Automaton) (word : String) (shown : String) : Outcome :=
  match (Automaton.Ask.judge (.text word)).ask a with
  | (.ok verdict, a) =>
    { automaton := a, output := shown ++ verdictLine verdict, report := verdict.report }
  | (.error fault, a) => { automaton := a, output := shown, fault := some fault }

/-- Tells whether a word is accepted. -/
def testWord (a : Automaton) (arguments : List String) : Outcome :=
  judgeWord a (wordArgument arguments) ""

/-- Shows what is seen while a word is read. -/
def traceWord (a : Automaton) (arguments : List String) : Outcome :=
  let word := wordArgument arguments
  match (Automaton.Ask.simulate (.text word)).ask a with
  | (.error fault, a) => .brokenOff a fault
  | (.ok run, a) =>
    if sawNothing run then .showing a (.ok "Automaton has no states")
    else judgeWord a word (traceLines word.toList run)

/-- Asks for a picture. A program that is missing or fails is only told about. -/
def askForPicture (renderer : Renderer) (a : Automaton) (name : String) (arguments : List String) :
    Outcome :=
  let file := arguments.headD name
  match Automaton.Ask.drawing.ask a with
  | (.error fault, a) => .brokenOff a fault
  | (.ok _, a) =>
    { automaton := a
      output := lineOf (match renderer.outcome with
        | .ok () => "Created: " ++ file ++ ".png"
        | .error fault => "Error: " ++ fault.message)
      pictures := [{ file }] }

/-- What an action does with the automaton under a name. -/
def Action.perform (renderer : Renderer) (name : String) (arguments : List String) (a : Automaton) :
    Action → Outcome
  | .state => addState a arguments
  | .trans => addTransition a arguments
  | .eps => addEpsilon a arguments
  | .initial => setInitial a arguments
  | .test => testWord a arguments
  | .trace => traceWord a arguments
  | .show => .telling ((Automaton.Ask.description name).ask a)
  | .dot => .telling (Automaton.Ask.dot.ask a)
  | .graph => askForPicture renderer a name arguments

end FiniteAutomata.Terminal

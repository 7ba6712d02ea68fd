import FiniteAutomata.CommandLine.Invocation
import FiniteAutomata.Terminal.Execution

namespace FiniteAutomata

/-!
# The program

The program either obeys commands from its arguments or talks with a user at a prompt.

* `Terminal.turn`: what a line does where faults in values are shown as errors.
* `Transcript`: what is shown, reported and asked for during a whole run.
* `Terminal.obey`: the run of a list of commands.
* `Terminal.converse`: the run of a conversation.
* `Program.run`: the run of the whole program.
-/

/-- What is shown, reported and asked for. -/
structure Transcript where
  output : String := ""
  report : List Event := []
  pictures : List Picture := []
  /-- The fault that broke it off, if one did. -/
  fault : Option Fault := none

namespace Transcript

/-- One transcript behind another. Nothing comes behind one that was broken off. -/
def append (a b : Transcript) : Transcript :=
  match a.fault with
  | some _ => a
  | none =>
    { output := a.output ++ b.output
      report := a.report ++ b.report
      pictures := a.pictures ++ b.pictures
      fault := b.fault }

/-- A transcript of output only. -/
def ofOutput (text : String) : Transcript := { output := text }

/-- The lines of the log. -/
def log (t : Transcript) : String :=
  String.join ((t.report.filterMap Event.line?).map (· ++ "\n"))

end Transcript

namespace Terminal

/-- A reply in which a fault in a value is shown, and the terminal goes on. -/
def Reply.tolerant (r : Reply) : Reply :=
  match r.fault with
  | none => r
  | some fault =>
    if fault.isInValue then
      { r with
        output := r.output ++ lineOf ("Error: " ++ fault.message)
        goesOn := true
        fault := none }
    else r

/-- What a line does where faults in values are shown. -/
def turn (renderer : Renderer) (w : Workspace) (line : String) : Reply :=
  (run renderer w line).tolerant

/-- The part of a reply that is shown to the outside. -/
def Reply.transcript (r : Reply) : Transcript :=
  { output := r.output, report := r.report, pictures := r.pictures, fault := r.fault }

/-! ### Commands from the arguments -/

/-- Obeys commands until one of them leaves, or is none. -/
def obey (renderer : Renderer) (w : Workspace) : List (Option String) → Transcript
  | [] => {}
  | none :: _ => { fault := some .noCommand }
  | some line :: rest =>
    let reply := turn renderer w line
    if reply.goesOn then reply.transcript.append (obey renderer reply.workspace rest)
    else reply.transcript

/-! ### Conversations -/

/-- What a user does at the prompt; at the end of the list the input ends. -/
inductive Input
  | line (text : String)
  | interrupt
deriving DecidableEq

/-- Shown before the first prompt. -/
def banner : String := "Automaton Terminal - Type 'help' for commands\n\n"

/-- Shown where a line is expected. -/
def prompt : String := "> "

/-- Shown when the user interrupts. -/
def reminder : String := "\nUse 'exit' to quit\n"

/-- Shown at the end. -/
def farewell : String := "Goodbye!\n"

/-- The conversation from a prompt on. -/
def converseFrom (renderer : Renderer) (w : Workspace) : List Input → Transcript
  | [] => .ofOutput prompt
  | .interrupt :: rest => (Transcript.ofOutput (prompt ++ reminder)).append
      (converseFrom renderer w rest)
  | .line text :: rest =>
    let reply := turn renderer w (Text.trim text)
    let shown := (Transcript.ofOutput prompt).append reply.transcript
    if reply.goesOn then shown.append (converseFrom renderer reply.workspace rest) else shown

/-- A whole conversation. -/
def converse (renderer : Renderer) (inputs : List Input) : Transcript :=
  ((Transcript.ofOutput banner).append (converseFrom renderer {} inputs)).append
    (.ofOutput farewell)

end Terminal

namespace Program

/-- How the program ended. -/
inductive Ending
  /-- The arguments made no sense. -/
  | misuse
  /-- The program did its work as far as it could; `verbose` tells whether reports are to be
      logged. -/
  | finished (transcript : Transcript) (verbose : Bool)

/-- The exit status. -/
def Ending.status : Ending → Nat
  | .misuse => 2
  | .finished transcript _ => if transcript.fault.isSome then 1 else 0

/-- Runs the program with arguments and the inputs of a user. -/
def run (renderer : Renderer) (arguments : List String) (inputs : List Terminal.Input) : Ending :=
  match CommandLine.Invocation.ofArguments arguments with
  | .misuse => .misuse
  | .help => .finished (.ofOutput CommandLine.helpText) false
  | .run [] verbose => .finished (Terminal.converse renderer inputs) verbose
  | .run commands verbose => .finished (Terminal.obey renderer {} commands) verbose

end Program

end FiniteAutomata

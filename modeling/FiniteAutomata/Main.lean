import FiniteAutomata.Interaction

/-!
# The command line

Plays the acts of the program with the lines of the standard input, and writes what they show. No program
that draws pictures is at hand, so that a request for a picture is answered with a message.
-/

namespace FiniteAutomata.Program

/-- Writes a transcript: output to one stream, and the log to the other if it is wanted. -/
def write (verbose : Bool) (t : Transcript) : IO Unit := do
  IO.print t.output
  (← IO.getStdout).flush
  if verbose then IO.eprint t.log

/-- Plays an act and those that follow it, and returns the fault that broke them off, if one did. -/
partial def play (verbose : Bool) (act : Act) : IO (Option Fault) := do
  write verbose act.shown
  match act.waiting? with
  | none => return act.shown.fault
  | some w =>
    let line ← (← IO.getStdin).getLine
    let input? := if line.isEmpty then none else some (Terminal.Input.line line)
    play verbose (Terminal.hear .missing w input?)

end FiniteAutomata.Program

open FiniteAutomata Program in
/-- The program. -/
def main (arguments : List String) : IO UInt32 := do
  match start .missing arguments with
  | none =>
    IO.eprint CommandLine.helpText
    return 2
  | some (act, verbose) =>
    match ← play verbose act with
    | none => return 0
    | some fault =>
      IO.eprintln fault.message
      return 1

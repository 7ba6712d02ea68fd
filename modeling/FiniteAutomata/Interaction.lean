import FiniteAutomata.Program

namespace FiniteAutomata

/-!
# The program act by act

What the program does up to the next prompt does not depend on what the user will do there. So a run
consists of acts, each of which is over when the program waits for the user.

* `Act`: what is done up to a prompt or the end.
* `Terminal.greet`, `Terminal.hear`: the acts of a conversation.
* `Act.played`: all acts for the inputs of a user.
* `Program.start`: the first act of the program.
-/

/-- What the program does until it waits at the prompt or is over. -/
structure Act where
  shown : Transcript
  /-- The automata with which it waits; `none` if it is over. -/
  waiting? : Option Workspace := none

namespace Terminal

/-- What is done before the first line is read. -/
def greet : Act := { shown := .ofOutput (banner ++ prompt), waiting? := some {} }

/-- What is done about an input; about `none` where the input ends. -/
def hear (renderer : Renderer) (w : Workspace) : Option Input → Act
  | none => { shown := .ofOutput farewell }
  | some .interrupt => { shown := .ofOutput (reminder ++ prompt), waiting? := some w }
  | some (.line text) =>
    let reply := turn renderer w (Text.trim text)
    if reply.goesOn then
      { shown := reply.transcript.append (.ofOutput prompt)
        waiting? := if reply.fault.isNone then some reply.workspace else none }
    else { shown := reply.transcript.append (.ofOutput farewell) }

end Terminal

/-- An act and those that follow it for the inputs. -/
def Act.played (renderer : Renderer) (act : Act) : List Terminal.Input → Transcript
  | [] =>
    match act.waiting? with
    | none => act.shown
    | some w => act.shown.append (Terminal.hear renderer w none).shown
  | input :: rest =>
    match act.waiting? with
    | none => act.shown
    | some w => act.shown.append ((Terminal.hear renderer w (some input)).played renderer rest)

namespace Program

/-- The first act, and whether reports are to be logged. There is none if the arguments make no sense. -/
def start (renderer : Renderer) (arguments : List String) : Option (Act × Bool) :=
  match CommandLine.Invocation.ofArguments arguments with
  | .misuse => none
  | .help => some ({ shown := .ofOutput CommandLine.helpText }, false)
  | .run [] verbose => some (Terminal.greet, verbose)
  | .run commands verbose => some ({ shown := Terminal.obey renderer {} commands }, verbose)

end Program

end FiniteAutomata

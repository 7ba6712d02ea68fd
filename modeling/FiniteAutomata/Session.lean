import FiniteAutomata.Automaton.Query
import FiniteAutomata.Terminal.Execution

namespace FiniteAutomata

/-!
# Sessions

A session is a sequence of calls on several things that were created in it under names: automata,
which the terminal sees too, and registries on their own.

* `Session`: the automata and registries by name.
* `Request`: a call on one of them, or one that creates something, or a line for the terminal.
* `Session.perform`: what a request does.
-/

/-- What was created so far. -/
structure Session where
  workspace : Workspace := {}
  registries : Ledger String Registry := []

/-- A request in a session. -/
inductive Request
  | create (kind : AutomatonKind) (name : String)
  | createRegistry (name : String)
  | load (sample : Sample) (name : String)
  | call (name : String) (call : Call)
  | draw (name : String) (picture : Option Picture)
  | command (line : String)
deriving DecidableEq

/-- What a request did. -/
inductive Effect
  | nothing
  | answered (answer : Answer)
  | drew (text : String)
  | ran (goesOn : Bool) (output : String)
deriving DecidableEq

/-- What a request did: the session afterwards, the effect or why the request was refused, and what
    was reported and asked for. -/
structure Performed where
  session : Session
  result : Except Fault Effect
  report : List Event := []
  pictures : List Picture := []

namespace Session

/-- The token of what is kept under a name. -/
def owner? (s : Session) (name : String) : Option Nat :=
  match s.workspace.find? name with
  | some a => some a.space.owner
  | none => (s.registries.get? name).map (·.owner)

/-- The session with another workspace. -/
def withWorkspace (s : Session) (w : Workspace) : Session := { s with workspace := w }

/-- The session with another registry under a name. -/
def withRegistry (s : Session) (name : String) (r : Registry) : Session :=
  { s with registries := s.registries.update name fun _ => r }

/-- A request that has no effect. -/
def idle (s : Session) : Performed := { session := s, result := .ok .nothing }

/-- What a call did, seen from the session. -/
def performed {α : Type} (keep : α → Session) (c : Called α) : Performed :=
  { session := keep c.automaton, result := c.result.map .answered, report := c.report }

/-- Makes a call on what is kept under a name. -/
def call (s : Session) (name : String) (call : Call) : Performed :=
  match s.workspace.find? name with
  | some a => performed (fun a => s.withWorkspace (s.workspace.store name a)) (a.perform call)
  | none =>
    match (s.registries.get? name).bind (·.perform? call) with
    | some called => performed (s.withRegistry name) called
    | none => s.idle

/-- Draws an automaton, and asks for a picture if there is a file for it. -/
def draw (s : Session) (renderer : Renderer) (name : String) (picture : Option Picture) :
    Performed :=
  match s.workspace.find? name with
  | none => s.idle
  | some a =>
    let (text, a) := Automaton.Ask.dot.ask a
    let s := s.withWorkspace (s.workspace.store name a)
    match text, picture with
    | .error fault, _ => { session := s, result := .error fault }
    | .ok text, none => { session := s, result := .ok (.drew text) }
    | .ok text, some picture =>
      { session := s
        result := renderer.outcome.map fun _ => .drew text
        pictures := [picture] }

/-- Types a line at the terminal. -/
def command (s : Session) (renderer : Renderer) (line : String) : Performed :=
  let reply := Terminal.run renderer s.workspace line
  { session := s.withWorkspace reply.workspace
    result := match reply.fault with
      | none => .ok (.ran reply.goesOn reply.output)
      | some fault => .error fault
    report := reply.report
    pictures := reply.pictures }

/-- The session without a registry under a name. -/
def withoutRegistry (s : Session) (name : String) : Session :=
  { s with registries := s.registries.filter fun e => e.1 != name }

/-- Meets a request. What is created takes the place of whatever had its name. -/
def perform (s : Session) (renderer : Renderer) : Request → Performed
  | .create kind name =>
    ((s.withoutRegistry name).withWorkspace (s.workspace.create kind name)).idle
  | .createRegistry name =>
    ((s.withWorkspace (s.workspace.take.delete name)).withRegistry name
      { owner := s.workspace.created }).idle
  | .load sample name =>
    { ((s.withoutRegistry name).withWorkspace (s.workspace.load sample name)).idle with
      report := sample.report s.workspace.created }
  | .call name call => s.call name call
  | .draw name picture => s.draw renderer name picture
  | .command line => s.command renderer line

end Session

end FiniteAutomata

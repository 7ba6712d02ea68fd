import FiniteAutomata.Terminal.Action
import FiniteAutomata.Workspace

namespace FiniteAutomata.Terminal

/-!
# Execution of commands

* `Reply`: the workspace afterwards, what is shown, reported and asked for, whether the terminal goes
  on, and the fault that broke the command off, if one did.
* `execute`: what a command does.
* `run`: what a line does.
-/

/-- What a command did. -/
structure Reply where
  workspace : Workspace
  output : String := ""
  report : List Event := []
  pictures : List Picture := []
  goesOn : Bool := true
  /-- The fault that broke it off, if one did. -/
  fault : Option Fault := none

/-- What is replied to an action on the automaton under a name. -/
def Outcome.reply (o : Outcome) (w : Workspace) (name : String) : Reply :=
  { workspace := w.store name o.automaton
    output := o.output
    report := o.report
    pictures := o.pictures
    fault := o.fault }

/-- The line about the automaton under a name. -/
def listedLine (name : String) : Asking Workspace String := do
  match (← get).find? name with
  | none => return ""
  | some a =>
    let (size, a) := Automaton.Ask.size.ask a
    modify (·.store name a)
    return lineOf ("  " ++ name ++ ": " ++ a.kind.shortName ++ ", " ++ (← size).repr ++ " states")

/-- The lines that list all automata by name. -/
def listing : Asking Workspace String := do
  match Ascending.sort (fun a b => a < b) (← get).automata.keys with
  | [] => return lineOf "Nothing loaded"
  | names => return lineOf "Automata:" ++ String.join (← names.mapM listedLine)

/-- What is replied with the answer to a question. -/
def Reply.telling (asked : Except Fault String × Workspace) : Reply :=
  match asked.1 with
  | .ok output => { workspace := asked.2, output }
  | .error fault => { workspace := asked.2, fault := some fault }

/-- The line that tells that something was created. -/
def createdLine (name : String) : String := lineOf ("Created: " ++ name)

/-- What a command does. -/
def execute (renderer : Renderer) (w : Workspace) : Command → Reply
  | .nothing => { workspace := w }
  | .leave => { workspace := w, goesOn := false }
  | .help => { workspace := w, output := lineOf helpText }
  | .create kind none =>
    { workspace := w, output := lineOf ("Usage: " ++ Command.creationWord kind ++ " <name>") }
  | .create kind (some name) => { workspace := w.create kind name, output := createdLine name }
  | .load none _ =>
    { workspace := w
      output := lineOf ("Usage: sample <sample> [name]  (samples: " ++
        ", ".intercalate (Sample.all.map Sample.name) ++ ")") }
  | .load (some word) name =>
    match Sample.ofName? word with
    | none => { workspace := w, output := lineOf ("Sample not found: " ++ word) }
    | some sample =>
      { workspace := w.load sample (name.getD word)
        output := createdLine (name.getD word)
        report := sample.report w.created }
  | .list => .telling (listing.ask w)
  | .delete none => { workspace := w, output := lineOf "Usage: delete <name>" }
  | .delete (some name) =>
    match w.find? name with
    | some _ => { workspace := w.delete name, output := lineOf ("Deleted: " ++ name) }
    | none => { workspace := w, output := lineOf ("Not found: " ++ name) }
  | .clear => { workspace := w.clear, output := lineOf "Cleared all" }
  | .act action [] =>
    { workspace := w, output := lineOf ("Usage: " ++ action.word ++ " <name> ... (type 'help')") }
  | .act action (name :: arguments) =>
    match w.find? name with
    | none => { workspace := w, output := lineOf ("Automaton not found: " ++ name) }
    | some a => (action.perform renderer name arguments a).reply w name
  | .unknown word => { workspace := w, output := lineOf ("Unknown command: " ++ word) }

/-- What a line does. -/
def run (renderer : Renderer) (w : Workspace) (line : String) : Reply :=
  execute renderer w (.ofLine line)

end FiniteAutomata.Terminal

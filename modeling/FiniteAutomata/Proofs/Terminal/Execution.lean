import FiniteAutomata.Program
import FiniteAutomata.Proofs.Terminal.Action
import FiniteAutomata.Proofs.Workspace

namespace FiniteAutomata.Terminal

/-!
# What commands do to a workspace

Commands are told apart by their first word. Each of them changes at most what is kept under one
name, unless it is the one that clears everything, and keeps texts as the symbols of all automata.

* `Spells`, `spells_ofWord`: the words of the commands.
* `Command.subject?`: the name under which a command may change something.
* `named`: what becomes of the words that ought to name states.
* `Executed`, `execute_executed`: what a command can do, and that no command does anything else.
* `Executed.fault_eq_some_iff`, `Executed.eq_of_fault`: which commands are broken off, and that they
  do nothing.
* `Executed.goesOn_eq_false_iff`: the one command after which the terminal does not go on.
* `Executed.find?_eq`: what is found under all other names.
* `after`, `textual_after`: symbols are texts after any number of lines.
-/

/-! ### Words -/

/-- How the commands are spelled, in small letters. -/
inductive Spells : String → List String → Command → Prop
  | exit (arguments : List String) : Spells "exit" arguments .leave
  | quit (arguments : List String) : Spells "quit" arguments .leave
  | help (arguments : List String) : Spells "help" arguments .help
  | create (kind : AutomatonKind) (arguments : List String) :
    Spells (Command.creationWord kind) arguments (.create kind arguments.head?)
  | load (arguments : List String) :
    Spells "sample" arguments (.load arguments.head? arguments[1]?)
  | list (arguments : List String) : Spells "list" arguments .list
  | delete (arguments : List String) : Spells "delete" arguments (.delete arguments.head?)
  | clear (arguments : List String) : Spells "clear" arguments .clear
  | act (action : Action) (arguments : List String) :
    Spells action.word arguments (.act action arguments)
  | unknown {word : String} (h : Action.ofWord? word = none) (arguments : List String) :
    Spells word arguments (.unknown word)

theorem spells_ofWord (word : String) (arguments : List String) :
    Spells word arguments (.ofWord word arguments) := by
  rw [Command.ofWord]
  split
  · rename_i h
    rcases h with rfl | rfl
    · exact .exit arguments
    · exact .quit arguments
  split
  · rename_i h
    exact h ▸ .help arguments
  split
  · rename_i h
    exact h ▸ .create .dfa arguments
  split
  · rename_i h
    exact h ▸ .create .nfa arguments
  split
  · rename_i h
    exact h ▸ .load arguments
  split
  · rename_i h
    exact h ▸ .list arguments
  split
  · rename_i h
    exact h ▸ .delete arguments
  split
  · rename_i h
    exact h ▸ .clear arguments
  cases h : Action.ofWord? word with
  | none => exact .unknown h arguments
  | some action =>
    have hword : action.word = word := by simpa using List.find?_some h
    exact hword ▸ .act action arguments

theorem ofWord_word (action : Action) (arguments : List String) :
    Command.ofWord action.word arguments = .act action arguments := by
  cases action <;> rfl

/-- The name under which a command may change something, unless it clears everything. -/
def Command.subject? : Command → Option String
  | .create _ name => name
  | .load sample name => sample.map name.getD
  | .delete name => name
  | .act action arguments => if action.changes then arguments.head? else none
  | _ => none

theorem Command.ne_leave_of_subject {command : Command} {name : String}
    (h : command.subject? = some name) : command ≠ .leave := by
  rintro rfl
  cases h

/-! ### Commands -/

/-- What becomes of the words of a command that ought to name states of an automaton that there is. -/
def named (w : Workspace) : Command → Except Fault (List Nat)
  | .act action (name :: arguments) =>
    match w.find? name with
    | some a => (stateWords a.kind action.word arguments).mapM a.space.resolve
    | none => .ok []
  | _ => .ok []

/-- What a command can do to a workspace, told by what becomes of its words that ought to name
    states. -/
inductive Executed (w : Workspace) (command : Command) : Except Fault (List Nat) → Reply → Prop
  /-- One of the words names no state, and nothing is done. -/
  | brokenOff (fault : Fault) :
    Executed w command (.error fault) { workspace := w, fault := some fault }
  /-- The workspace stays as it is. -/
  | shown (states : List Nat) (output : String) (report : List Event) (pictures : List Picture)
    (goesOn : Bool) (hgoesOn : goesOn = false ↔ command = .leave) :
    Executed w command (.ok states) { workspace := w, output, report, pictures, goesOn }
  /-- A new automaton is put under the name. -/
  | created (output : String) (report : List Event) {name : String} {a : Automaton}
    (hsubject : command.subject? = some name) (ha : a.Textual) :
    Executed w command (.ok []) { workspace := w.take.store name a, output, report }
  /-- The automaton under the name is changed. -/
  | changed (states : List Nat) (output : String) (report : List Event) {name : String}
    {a : Automaton} (hsubject : command.subject? = some name) (ha : a.Textual) :
    Executed w command (.ok states) { workspace := w.store name a, output, report }
  | deleted (output : String) {name : String} (hsubject : command.subject? = some name) :
    Executed w command (.ok []) { workspace := w.delete name, output }
  | cleared (output : String) (h : command = .clear) :
    Executed w command (.ok []) { workspace := w.clear, output }

variable {w : Workspace} {renderer : Renderer} {command : Command}

/-- A command that only shows something, and is not the one to leave. -/
theorem Executed.showing (output : String) (h : command ≠ .leave) :
    Executed w command (.ok []) { workspace := w, output } :=
  .shown [] output [] [] true (iff_of_false (fun h => nomatch h) h)

/-- An action on an automaton that there is does to the workspace what it does to the automaton. -/
theorem Deed.executed {a : Automaton} {action : Action} {name : String} {arguments : List String}
    {states : Except Fault (List Nat)} {outcome : Outcome} (hfind : w.find? name = some a)
    (ha : a.Textual) (hdeed : Deed a action states outcome) :
    Executed w (.act action (name :: arguments)) states (outcome.reply w name) := by
  cases hdeed with
  | brokenOff fault =>
    rw [Outcome.reply, Outcome.brokenOff, Workspace.store_of_find? hfind]
    exact .brokenOff fault
  | shown states output report pictures =>
    rw [Outcome.reply, Workspace.store_of_find? hfind]
    exact .shown states output report pictures true (by simp)
  | built states text hchanges htext hresult =>
    rw [Outcome.ofCall, hresult]
    refine .changed states _ _ ?_ (ha.build htext)
    rw [Command.subject?, if_pos hchanges, List.head?_cons]

/-- A command on a workspace with texts as symbols does nothing but what `Executed` lists. -/
theorem execute_executed (hw : w.Textual) (renderer : Renderer) (command : Command) :
    Executed w command (named w command) (execute renderer w command) := by
  cases command with
  | nothing => exact .showing "" (by simp)
  | leave => exact .shown [] "" [] [] false (by simp)
  | help => exact .showing _ (by simp)
  | list =>
    obtain ⟨output, hlist⟩ := execute_list renderer w
    rw [hlist]
    exact .showing output (by simp)
  | clear => exact .cleared _ rfl
  | unknown word => exact .showing _ (by simp)
  | create kind name =>
    cases name with
    | none => exact .showing _ (by simp)
    | some name => exact .created _ [] rfl (Automaton.textual_new kind w.created)
  | load sample name =>
    cases sample with
    | none => exact .showing _ (by simp)
    | some word =>
      simp only [execute]
      cases Sample.ofName? word with
      | none => exact .showing _ (by simp)
      | some sample => exact .created _ _ rfl (Automaton.textual_sample sample w.created)
  | delete name =>
    cases name with
    | none => exact .showing _ (by simp)
    | some name =>
      simp only [execute]
      cases w.find? name with
      | none => exact .showing _ (by simp)
      | some a => exact .deleted _ rfl
  | act action arguments =>
    cases arguments with
    | nil => exact .showing _ (by simp)
    | cons name arguments =>
      simp only [execute, named]
      cases ha : w.find? name with
      | none => exact .showing _ (by simp)
      | some a =>
        have htextual : a.Textual := hw name a ha
        exact (perform_deed htextual renderer name arguments action).executed ha htextual

/-! ### Consequences -/

section Executed

variable {states : Except Fault (List Nat)} {reply : Reply}

/-- A command is broken off exactly if one of its words that ought to name states does not. The first
    of them tells why. -/
theorem Executed.fault_eq_some_iff (h : Executed w command states reply) {fault : Fault} :
    reply.fault = some fault ↔ states = .error fault := by
  cases h <;> simp

/-- A command that is broken off does nothing. -/
theorem Executed.eq_of_fault (h : Executed w command states reply) {fault : Fault}
    (hfault : reply.fault = some fault) : reply = { workspace := w, fault := some fault } := by
  cases h with
  | brokenOff fault' =>
    cases hfault
    rfl
  | _ => cases hfault

/-- The terminal goes on after every command but the one to leave. -/
theorem Executed.goesOn_eq_false_iff (h : Executed w command states reply)
    (hfault : reply.fault = none) : reply.goesOn = false ↔ command = .leave := by
  cases h with
  | brokenOff fault => cases hfault
  | shown states output report pictures goesOn hgoesOn => exact hgoesOn
  | created output report hsubject ha =>
    exact iff_of_false (by simp) (Command.ne_leave_of_subject hsubject)
  | changed states output report hsubject ha =>
    exact iff_of_false (by simp) (Command.ne_leave_of_subject hsubject)
  | deleted output hsubject =>
    exact iff_of_false (by simp) (Command.ne_leave_of_subject hsubject)
  | cleared output h => simp [h]

/-- A command changes nothing but what is kept under its subject, unless it clears everything. -/
theorem Executed.find?_eq (h : Executed w command states reply) {name : String}
    (hclear : command ≠ .clear) (hname : command.subject? ≠ some name) :
    reply.workspace.find? name = w.find? name := by
  cases h with
  | brokenOff fault => rfl
  | shown states output report pictures goesOn hgoesOn => rfl
  | @created output report subject a hsubject ha =>
    have hne : subject ≠ name := fun heq => hname (heq ▸ hsubject)
    simp only [Workspace.find?_store, if_neg hne]
    rfl
  | @changed states output report subject a hsubject ha =>
    have hne : subject ≠ name := fun heq => hname (heq ▸ hsubject)
    simp only [Workspace.find?_store, if_neg hne]
  | @deleted output subject hsubject =>
    have hne : subject ≠ name := fun heq => hname (heq ▸ hsubject)
    simp only [Workspace.find?_delete, if_neg hne]
  | cleared output h => exact absurd h hclear

/-- Every command keeps texts as the symbols of all automata. -/
theorem Executed.textual (hw : w.Textual) (h : Executed w command states reply) :
    reply.workspace.Textual := by
  cases h with
  | brokenOff fault => exact hw
  | shown states output report pictures goesOn hgoesOn => exact hw
  | created output report hsubject ha => exact Workspace.Textual.store (w := w.take) hw _ ha
  | changed states output report hsubject ha => exact hw.store _ ha
  | deleted output hsubject => exact hw.delete _
  | cleared output h => exact .clear w

end Executed

/-! ### Any number of lines -/

/-- The workspace after several lines, each of them with what becomes of the pictures that it may ask
    for. -/
def after (w : Workspace) (lines : List (Renderer × String)) : Workspace :=
  lines.foldl (fun w line => (run line.1 w line.2).workspace) w

theorem textual_after (hw : w.Textual) (lines : List (Renderer × String)) :
    (after w lines).Textual := by
  rw [after]
  induction lines generalizing w with
  | nil => exact hw
  | cons line rest ih => exact ih ((execute_executed hw line.1 (.ofLine line.2)).textual hw)

end FiniteAutomata.Terminal

import FiniteAutomata.Proofs.Terminal.Execution

namespace FiniteAutomata.Terminal

/-!
# Lines at the terminal are atomic

A line that is broken off does nothing at all, and it is broken off only for a word that ought to
name a state. Any other line touches nothing but what it names.

* `Says`: the command and the arguments of a line.
* `Misnames`: a word of a line that ought to name a state of an automaton does not.
* `MayChange`: the names under which a line may change something.
* `Orderly`: what is true of the reply to a line.
* `orderly_of_textual`, `turn_fault`: it is true where all symbols are texts, and no line breaks the
  program off there.
* `run_orderly`: it is true of every line, after any lines.
-/

/-! ### Lines -/

/-- The line says a command, in any letter case, with the given arguments. -/
def Says (line command : String) (arguments : List String) : Prop :=
  ∃ word, Text.words line = word :: arguments ∧ Text.lowercase word = command

/-- Of the words of a line that ought to name states of an automaton of the workspace, the first that
    does not is refused for the given reason. -/
def Misnames (w : Workspace) (line : String) (fault : Fault) : Prop :=
  ∃ command name arguments a, Says line command (name :: arguments) ∧ w.find? name = some a ∧
    (stateWords a.kind command arguments).mapM a.space.resolve = .error fault

/-- The commands that may change what is kept under a name. -/
def changingCommands : List String :=
  ["new_dfa", "new_nfa", "sample", "delete", "state", "trans", "eps", "initial"]

/-- The name that a command is about: the second argument of `sample` if it has one, otherwise the
    first one. -/
def subject? (command : String) (arguments : List String) : Option String :=
  if command = "sample" then arguments[1]?.or arguments.head? else arguments.head?

/-- The line clears everything, or it may change what is kept under the name. -/
def MayChange (line name : String) : Prop :=
  ∃ command arguments, Says line command arguments ∧
    (command = "clear" ∨ command ∈ changingCommands ∧ subject? command arguments = some name)

/-- A line without words, or with a command and arguments. -/
theorem ofLine_cases (line : String) :
    Command.ofLine line = .nothing ∨ ∃ command arguments, Says line command arguments ∧
      Command.ofLine line = .ofWord command arguments := by
  rw [Command.ofLine]
  cases hwords : Text.words line with
  | nil => exact .inl rfl
  | cons word arguments => exact .inr ⟨_, arguments, ⟨word, hwords, rfl⟩, rfl⟩

theorem Says.ofLine {line command : String} {arguments : List String}
    (h : Says line command arguments) : Command.ofLine line = .ofWord command arguments := by
  obtain ⟨word, hwords, rfl⟩ := h
  rw [Command.ofLine, hwords]

/-- Only actions have words that ought to name states. -/
theorem exists_action_of_stateWords {kind : AutomatonKind} {command : String}
    {arguments : List String} (h : stateWords kind command arguments ≠ []) :
    ∃ action : Action, action.word = command := by
  unfold stateWords at h
  split at h
  · rename_i htrans
    exact ⟨.trans, htrans.symm⟩
  split at h
  · rename_i heps
    exact ⟨.eps, heps.1.symm⟩
  split at h
  · rename_i hinitial
    exact ⟨.initial, hinitial.symm⟩
  · exact absurd rfl h

/-- What a line misnames is what its command misnames. -/
theorem named_ofLine_eq_error_iff {w : Workspace} {line : String} {fault : Fault} :
    named w (.ofLine line) = .error fault ↔ Misnames w line fault := by
  constructor
  · intro h
    rcases ofLine_cases line with hline | ⟨command, arguments, hwhole, hline⟩
    · rw [hline] at h
      cases h
    · rw [hline] at h
      -- of all commands only the actions name states
      generalize Command.ofWord command arguments = parsed, spells_ofWord command arguments = hspells
        at h
      cases hspells with
      | act action arguments =>
        cases arguments with
        | nil => cases h
        | cons name arguments =>
          rw [named] at h
          split at h
          · rename_i a ha
            exact ⟨action.word, name, arguments, a, hwhole, ha, h⟩
          · cases h
      | _ => cases h
  · rintro ⟨command, name, arguments, a, hwhole, ha, h⟩
    have hwords : stateWords a.kind command arguments ≠ [] := by
      intro hnil
      rw [hnil] at h
      cases h
    obtain ⟨action, rfl⟩ := exists_action_of_stateWords hwords
    rw [hwhole.ofLine, ofWord_word, named, ha]
    exact h

/-- A command changes only what a line that says it may change. -/
theorem Spells.mem_changingCommands {word : String} {arguments : List String} {command : Command}
    (h : Spells word arguments command) {name : String} (hname : command.subject? = some name) :
    word ∈ changingCommands ∧ subject? word arguments = some name := by
  cases h with
  | create kind arguments => cases kind <;> exact ⟨by decide, hname⟩
  | delete arguments => exact ⟨by decide, hname⟩
  | load arguments =>
    refine ⟨by decide, ?_⟩
    cases arguments with
    | nil => cases hname
    | cons sample rest =>
      cases rest with
      | nil => exact hname
      | cons name' rest => exact hname
  | act action arguments =>
    rw [Command.subject?] at hname
    split at hname
    · rename_i hchanges
      cases action with
      | state | trans | eps | initial => exact ⟨by decide, hname⟩
      | test | trace | «show» | dot | graph => cases hchanges
    · cases hname
  | _ => cases hname

theorem ofWord_eq_leave_iff {word : String} {arguments : List String} :
    Command.ofWord word arguments = .leave ↔ word = "exit" ∨ word = "quit" := by
  constructor
  · intro h
    have hspells := spells_ofWord word arguments
    rw [h] at hspells
    cases hspells with
    | exit => exact .inl rfl
    | quit => exact .inr rfl
  · rintro (rfl | rfl) <;> rfl

/-- The line is the command to leave. -/
theorem ofLine_eq_leave_iff {line : String} :
    Command.ofLine line = .leave ↔
      ∃ arguments, Says line "exit" arguments ∨ Says line "quit" arguments := by
  constructor
  · intro h
    rcases ofLine_cases line with hline | ⟨command, arguments, hwhole, hline⟩
    · rw [hline] at h
      cases h
    · rw [hline, ofWord_eq_leave_iff] at h
      rcases h with rfl | rfl
      · exact ⟨arguments, .inl hwhole⟩
      · exact ⟨arguments, .inr hwhole⟩
  · rintro ⟨arguments, h | h⟩
    · exact h.ofLine
    · exact h.ofLine

theorem mayChange_of_eq_clear {line : String} (h : Command.ofLine line = .clear) (name : String) :
    MayChange line name := by
  rcases ofLine_cases line with hline | ⟨command, arguments, hwhole, hline⟩
  · rw [hline] at h
    cases h
  · have hspells := spells_ofWord command arguments
    rw [← hline, h] at hspells
    cases hspells with
    | clear => exact ⟨"clear", arguments, hwhole, .inl rfl⟩

theorem mayChange_of_subject {line name : String}
    (h : (Command.ofLine line).subject? = some name) : MayChange line name := by
  rcases ofLine_cases line with hline | ⟨command, arguments, hwhole, hline⟩
  · rw [hline] at h
    cases h
  · rw [hline] at h
    exact ⟨command, arguments, hwhole, .inr ((spells_ofWord command arguments).mem_changingCommands h)⟩

/-! ### Faults -/

theorem Value.isInValue_invalid (state : Value) (reason : String) :
    (state.invalid reason).isInValue = true := by
  rw [Value.invalid]
  cases h : state.literal with
  | ok shown => rfl
  | error fault => rw [Value.literal_eq_error h]; rfl

/-- What is wrong with a word that names no state is its value. -/
theorem isInValue_of_resolve {r : Registry} {word : String} {fault : Fault}
    (h : r.resolve word = .error fault) : fault.isInValue = true := by
  rw [Registry.resolve] at h
  cases hnumber : stateNumber word with
  | error fault' =>
    rw [hnumber] at h
    cases h
    rw [stateNumber] at hnumber
    split at hnumber
    · cases hnumber
      rfl
    · split at hnumber <;> cases hnumber <;> rfl
  | ok n =>
    rw [hnumber, ok_bind, Registry.lookup] at h
    split at h
    · cases h
    · cases h
      exact Value.isInValue_invalid _ _

/-! ### Replies -/

/-- What is true of the reply to a line. -/
structure Orderly (w : Workspace) (line : String) (reply : Reply) : Prop where
  /-- The line is broken off exactly if it misnames a state, and for that reason. -/
  fault_eq_some_iff : ∀ fault, reply.fault = some fault ↔ Misnames w line fault
  /-- The reason lies in the value of a word. -/
  isInValue : ∀ fault, reply.fault = some fault → fault.isInValue = true
  /-- Where it is broken off nothing is shown, reported or asked for, and the workspace is the
      same. -/
  eq_of_fault : ∀ fault, reply.fault = some fault → reply = { workspace := w, fault := some fault }
  /-- Otherwise the terminal goes on unless it was told to leave. -/
  goesOn_eq_false_iff : reply.fault = none →
    (reply.goesOn = false ↔ ∃ arguments, Says line "exit" arguments ∨ Says line "quit" arguments)
  /-- Under every name that the line may not change there is the same automaton, or still none. -/
  find?_eq : ∀ name, ¬ MayChange line name → reply.workspace.find? name = w.find? name

/-- Every line is orderly on a workspace with texts as symbols. -/
theorem orderly_of_textual {w : Workspace} (hw : w.Textual) (renderer : Renderer) (line : String) :
    Orderly w line (run renderer w line) := by
  have h := execute_executed hw renderer (.ofLine line)
  rw [← run] at h
  have hfault : ∀ fault, (run renderer w line).fault = some fault ↔ Misnames w line fault :=
    fun fault => h.fault_eq_some_iff.trans named_ofLine_eq_error_iff
  refine ⟨hfault, fun fault hsome => ?_, fun fault => h.eq_of_fault, fun hnone => ?_,
    fun name hname => ?_⟩
  · obtain ⟨_, _, _, a, -, -, hwords⟩ := (hfault fault).1 hsome
    obtain ⟨word, -, hword⟩ := mapM_eq_error hwords
    exact isInValue_of_resolve hword
  · rw [h.goesOn_eq_false_iff hnone, ofLine_eq_leave_iff]
  · have hclear : Command.ofLine line ≠ .clear := fun h => hname (mayChange_of_eq_clear h name)
    exact h.find?_eq hclear fun hsubject => hname (mayChange_of_subject hsubject)

/-- No line breaks the program off: what is wrong with it is shown, and the terminal goes on. -/
theorem turn_fault {w : Workspace} (hw : w.Textual) (renderer : Renderer) (line : String) :
    (turn renderer w line).fault = none := by
  have h := orderly_of_textual hw renderer line
  rw [turn, Reply.tolerant]
  split
  · assumption
  · rename_i fault hfault
    rw [if_pos (h.isInValue fault hfault)]

/-- **Lines are atomic and touch only what they name.** This is so on every workspace that is there
    after any lines, whatever became of the pictures that these asked for and whatever becomes of one
    that is asked for now. -/
theorem run_orderly (earlier : List (Renderer × String)) (renderer : Renderer) (line : String) :
    Orderly (after {} earlier) line (run renderer (after {} earlier) line) :=
  orderly_of_textual (textual_after Workspace.textual_empty earlier) renderer line

/-- An automaton without the state `q9` gets no entry for it. -/
example :
    (run .works (after {} [(.works, "new_nfa m"), (.works, "state m")]) "trans m q0 a q9").fault =
      some (.invalidState (.int 9) "9" "automaton has 1 states") := by decide +kernel

end FiniteAutomata.Terminal

import FiniteAutomata.Proofs.CommandLine
import FiniteAutomata.Proofs.Terminal.Atomicity
import FiniteAutomata.Proofs.Text.Words

namespace FiniteAutomata

/-!
# Commands and conversations

The program obeys the same lines in the same way whether they are given as commands in the arguments
or typed at the prompt: both obey them in order up to the first that leaves, and what is wrong with
one of them is shown without an end to the others. In a conversation the prompt, the reminder and
what comes at both ends are put around that. The one line that makes a difference is two hyphens,
which get lost on the way through the arguments.

* `Terminal.leaves`, `Terminal.heeded`: the lines up to the first that leaves.
* `Terminal.heard`: the replies to these lines.
* `Terminal.obey_eq`, `Terminal.converse_eq`: both ways to run the program in terms of the replies.
* `Terminal.dialogue`: what is shown from the first prompt to the last.
* `Program.RunsAlike`, `Program.runs_alike`: both ways together.
* `Program.fault_arguments_iff`: two hyphens are the only line that breaks the program off.
-/

namespace Terminal

open CommandLine

/-! ### Lines that leave -/

/-- The first word of the line is `exit` or `quit`, in any letter case. -/
def leaves (line : String) : Bool :=
  match Text.words line with
  | [] => false
  | word :: _ => Text.lowercase word == "exit" || Text.lowercase word == "quit"

/-- The lines up to the first that leaves, with that one. -/
def heeded : List String → List String
  | [] => []
  | line :: rest => line :: if leaves line then [] else heeded rest

theorem leaves_iff {line : String} : leaves line = true ↔ Command.ofLine line = .leave := by
  rw [leaves, Command.ofLine]
  cases Text.words line with
  | nil => simp
  | cons word arguments => simp [ofWord_eq_leave_iff]

theorem heeded_heeded (lines : List String) : heeded (heeded lines) = heeded lines := by
  induction lines with
  | nil => rfl
  | cons line rest ih =>
    by_cases hleaves : leaves line = true
    · simp [heeded, hleaves]
    · simp [heeded, hleaves, ih]

/-- Of the first lines nothing is heeded that is not heeded anyway. -/
theorem heeded_take_sublist (lines : List String) (n : Nat) :
    (heeded (lines.take n)).Sublist (heeded lines) := by
  induction lines generalizing n with
  | nil => simp [heeded]
  | cons line rest ih =>
    cases n with
    | zero => exact List.nil_sublist _
    | succ n =>
      rw [List.take_succ_cons, heeded, heeded]
      refine List.Sublist.cons_cons _ ?_
      split
      · exact List.Sublist.refl _
      · exact ih n

/-! ### One line -/

variable (renderer : Renderer) {w : Workspace}

/-- White space around a line makes no difference. -/
theorem turn_trim (w : Workspace) (line : String) :
    turn renderer w (Text.trim line) = turn renderer w line := by
  have hcommand : Command.ofLine (Text.trim line) = Command.ofLine line := by
    rw [Command.ofLine, Command.ofLine, Text.words_trim]
  rw [turn, turn, run, run, hcommand]

theorem workspace_tolerant (r : Reply) : r.tolerant.workspace = r.workspace := by
  unfold Reply.tolerant
  split
  · rfl
  · split <;> rfl

/-- Texts are the symbols of all automata after a line. -/
theorem textual_turn (hw : w.Textual) (line : String) :
    (turn renderer w line).workspace.Textual := by
  rw [turn, workspace_tolerant]
  exact (execute_executed hw renderer (.ofLine line)).textual hw

/-- The terminal goes on after every line but those that leave. -/
theorem goesOn_turn (hw : w.Textual) (line : String) :
    (turn renderer w line).goesOn = !leaves line := by
  by_cases hleaves : leaves line = true
  · rw [turn, run, leaves_iff.1 hleaves, hleaves]
    rfl
  · have hne : Command.ofLine line ≠ .leave := mt leaves_iff.2 hleaves
    have hexecuted := execute_executed hw renderer (.ofLine line)
    rw [Bool.not_eq_true] at hleaves
    rw [hleaves, turn, run, Reply.tolerant]
    split
    · rename_i hfault
      -- nothing was wrong with the line, and it is not the command to leave
      rw [Bool.not_false, ← Bool.not_eq_false]
      exact fun hgoesOn => hne ((hexecuted.goesOn_eq_false_iff hfault).1 hgoesOn)
    · rename_i fault hfault
      have hvalue : fault.isInValue = true :=
        (orderly_of_textual hw renderer line).isInValue fault hfault
      rw [if_pos hvalue]
      rfl

/-! ### Lines that are heeded -/

/-- The replies to lines up to the first that leaves. -/
def heard (w : Workspace) : List String → List Reply
  | [] => []
  | line :: rest =>
    turn renderer w line ::
      if leaves line then [] else heard (turn renderer w line).workspace rest

theorem length_heard (w : Workspace) (lines : List String) :
    (heard renderer w lines).length = (heeded lines).length := by
  induction lines generalizing w with
  | nil => rfl
  | cons line rest ih =>
    rw [heard, heeded, List.length_cons, List.length_cons]
    split
    · rfl
    · rw [ih]

/-- What is heard of the first lines is the first of what is heard. -/
theorem heard_take (w : Workspace) (lines : List String) (n : Nat) :
    heard renderer w (lines.take n) = (heard renderer w lines).take n := by
  induction lines generalizing w n with
  | nil => simp [heard]
  | cons line rest ih =>
    cases n with
    | zero => simp [heard]
    | succ n =>
      rw [List.take_succ_cons, heard, heard, List.take_succ_cons]
      split
      · rw [List.take_nil]
      · rw [ih]

/-- Nothing is heard of the lines behind the first that leaves. -/
theorem heard_heeded (w : Workspace) (lines : List String) :
    heard renderer w (heeded lines) = heard renderer w lines := by
  induction lines generalizing w with
  | nil => rfl
  | cons line rest ih =>
    rw [heeded, heard, heard]
    split
    · rfl
    · rw [ih]

/-- What several replies show, one after the other. -/
def transcriptOf (replies : List Reply) : Transcript where
  output := String.join (replies.map (·.output))
  report := replies.flatMap (·.report)
  pictures := replies.flatMap (·.pictures)

theorem append_of_fault_eq_none {a : Transcript} (h : a.fault = none) (b : Transcript) :
    a.append b =
      { output := a.output ++ b.output
        report := a.report ++ b.report
        pictures := a.pictures ++ b.pictures
        fault := b.fault } := by
  rw [Transcript.append, h]

theorem transcriptOf_cons {reply : Reply} (h : reply.fault = none) (replies : List Reply) :
    transcriptOf (reply :: replies) = reply.transcript.append (transcriptOf replies) := by
  have hfault : reply.transcript.fault = none := h
  rw [append_of_fault_eq_none hfault, transcriptOf, List.map_cons, String.join_cons]
  rfl

theorem transcriptOf_singleton {reply : Reply} (h : reply.fault = none) :
    transcriptOf [reply] = reply.transcript := by
  have hfault : reply.transcript.fault = none := h
  rw [transcriptOf_cons h, append_of_fault_eq_none hfault]
  simp [transcriptOf, Reply.transcript, h]

/-! ### Commands from the arguments -/

/-- The run of commands from the arguments, if none of those that are heeded is two hyphens. -/
theorem obey_eq (hw : w.Textual) {lines : List String} (h : "--" ∉ heeded lines) :
    obey renderer w (lines.map fun line => commandOf line.toList) =
      transcriptOf (heard renderer w lines) := by
  induction lines generalizing w with
  | nil => rfl
  | cons line rest ih =>
    rw [heeded, List.mem_cons, not_or] at h
    obtain ⟨hline, hrest⟩ := h
    have hfault : (turn renderer w line).fault = none := turn_fault hw renderer line
    rw [List.map_cons, commandOf_eq, if_neg (Ne.symm hline), heard]
    simp only [obey, goesOn_turn renderer hw]
    by_cases hleaves : leaves line = true
    · -- the rest is not looked at
      simp only [hleaves, if_true, transcriptOf_singleton hfault, Bool.not_true, Bool.false_eq_true,
        if_false]
    · rw [if_neg hleaves] at hrest
      simp only [hleaves, Bool.not_false, if_true, Bool.false_eq_true, if_false,
        transcriptOf_cons hfault, ih (textual_turn renderer hw line) hrest]

/-- Two hyphens among the commands that are heeded break the run off. -/
theorem fault_obey (hw : w.Textual) {lines : List String} (h : "--" ∈ heeded lines) :
    (obey renderer w (lines.map fun line => commandOf line.toList)).fault = some .noCommand := by
  induction lines generalizing w with
  | nil => cases h
  | cons line rest ih =>
    rw [List.map_cons, commandOf_eq]
    by_cases hline : line = "--"
    · rw [if_pos hline]
      rfl
    · have hfault : (turn renderer w line).transcript.fault = none := turn_fault hw renderer line
      rw [heeded, List.mem_cons, or_iff_right (Ne.symm hline)] at h
      have hleaves : leaves line = false := by
        by_contra hleaves
        rw [Bool.not_eq_false] at hleaves
        rw [if_pos hleaves] at h
        cases h
      rw [hleaves, if_neg Bool.false_ne_true] at h
      rw [if_neg hline]
      simp only [obey, goesOn_turn renderer hw, hleaves, Bool.not_false, if_true,
        append_of_fault_eq_none hfault]
      exact ih (textual_turn renderer hw line) h

/-! ### Conversations -/

/-- The lines that are typed. -/
def typed : List Input → List String
  | [] => []
  | .interrupt :: rest => typed rest
  | .line text :: rest => text :: typed rest

/-- What is shown from the first prompt to the last one: behind each prompt there is the share of
    the line that is typed there, or the reminder, or nothing where the input ends. -/
def dialogue : List Input → List String → String
  | [], _ => prompt
  | .interrupt :: rest, shares => prompt ++ reminder ++ dialogue rest shares
  | .line text :: rest, shares =>
    prompt ++ shares.headD "" ++ if leaves text then "" else dialogue rest shares.tail

/-- The inputs up to the first line that leaves. -/
def upToLeaving : List Input → List Input
  | [] => []
  | .interrupt :: rest => .interrupt :: upToLeaving rest
  | .line text :: rest => .line text :: if leaves text then [] else upToLeaving rest

theorem typed_upToLeaving (script : List Input) :
    typed (upToLeaving script) = heeded (typed script) := by
  induction script with
  | nil => rfl
  | cons input rest ih =>
    cases input with
    | interrupt => exact ih
    | line text =>
      rw [upToLeaving, typed, typed, heeded]
      split
      · rfl
      · rw [ih]

theorem dialogue_upToLeaving (script : List Input) (shares : List String) :
    dialogue (upToLeaving script) shares = dialogue script shares := by
  induction script generalizing shares with
  | nil => rfl
  | cons input rest ih =>
    cases input with
    | interrupt => rw [upToLeaving, dialogue, dialogue, ih]
    | line text =>
      rw [upToLeaving, dialogue, dialogue]
      by_cases hleaves : leaves text = true
      · rw [if_pos hleaves, if_pos hleaves]
      · rw [if_neg hleaves, if_neg hleaves, if_neg hleaves, ih]

/-- The run of a conversation from a prompt on. -/
theorem converseFrom_eq (hw : w.Textual) (script : List Input) :
    converseFrom renderer w script =
      { transcriptOf (heard renderer w (typed script)) with
        output := dialogue script ((heard renderer w (typed script)).map (·.output)) } := by
  induction script generalizing w with
  | nil => rfl
  | cons input rest ih =>
    cases input with
    | interrupt =>
      rw [converseFrom, ih hw]
      rfl
    | line text =>
      have hfault : (turn renderer w text).transcript.fault = none := turn_fault hw renderer text
      have hshown : (Transcript.ofOutput prompt).append (turn renderer w text).transcript =
          { (turn renderer w text).transcript with
            output := prompt ++ (turn renderer w text).output } := rfl
      rw [typed, heard, List.map_cons, dialogue, List.headD_cons, List.tail_cons]
      have hfault' : ((Transcript.ofOutput prompt).append
          (turn renderer w text).transcript).fault = none := hfault
      simp only [converseFrom, turn_trim, goesOn_turn renderer hw]
      by_cases hleaves : leaves text = true
      · simp only [hleaves, if_true, Bool.not_true, Bool.false_eq_true, if_false,
          transcriptOf_singleton hfault, String.append_empty, hshown]
      · -- what comes behind the line is the dialogue on the rest of the shares
        simp only [hleaves, Bool.not_false, if_true, Bool.false_eq_true, if_false,
          ih (textual_turn renderer hw text), transcriptOf_cons hfault]
        rw [append_of_fault_eq_none hfault', append_of_fault_eq_none hfault, hshown]

/-- The run of a whole conversation. -/
theorem converse_eq (script : List Input) :
    converse renderer script =
      { transcriptOf (heard renderer {} (typed script)) with
        output := banner ++ dialogue script ((heard renderer {} (typed script)).map (·.output)) ++
          farewell } := by
  rw [converse, converseFrom_eq renderer Workspace.textual_empty]
  simp [Transcript.append, Transcript.ofOutput, transcriptOf]

end Terminal

namespace Program

open CommandLine Terminal

variable (renderer : Renderer)

/-- Lines that are given as commands are obeyed; nothing is asked of the user. -/
theorem run_commandOptions {lines : List String} (hlines : lines ≠ []) (idle : List Input) :
    run renderer (lines.map commandOption) idle =
      .finished (obey renderer {} (lines.map fun line => commandOf line.toList)) false := by
  rw [run, ofArguments_commandOptions]
  cases lines with
  | nil => exact absurd rfl hlines
  | cons line rest => rfl

/-- They show what the replies show, if none of those that are heeded is two hyphens. -/
theorem run_commandOptions_of_heeded {lines : List String} (hlines : lines ≠ [])
    (hheeded : "--" ∉ heeded lines) (idle : List Input) :
    run renderer (lines.map commandOption) idle =
      .finished (transcriptOf (heard renderer {} lines)) false := by
  rw [run_commandOptions renderer hlines, obey_eq renderer Workspace.textual_empty hheeded]

theorem run_nil (script : List Input) :
    run renderer [] script = .finished (converse renderer script) false := rfl

/-- Lines that are given as commands are all obeyed as they ought to be exactly if none of those
    that are heeded is two hyphens. -/
theorem fault_arguments_iff {lines : List String} (hlines : lines ≠ []) (idle : List Input) :
    ∃ t, run renderer (lines.map commandOption) idle = .finished t false ∧
      (t.fault = none ↔ "--" ∉ heeded lines) ∧ (t.fault ≠ none → t.fault = some .noCommand) := by
  refine ⟨_, run_commandOptions renderer hlines idle, ?_⟩
  by_cases h : "--" ∈ heeded lines
  · have hfault := fault_obey renderer Workspace.textual_empty h
    simp [hfault, h]
  · have hobey := obey_eq renderer Workspace.textual_empty h
    simp [hobey, transcriptOf, h]

/-- How the run of the program with the lines of a script as commands and its run with the script
    typed at the prompt go together. Each line that is heeded has its share in what is shown. -/
structure RunsAlike (script idle : List Input) (shares : List String) (t c : Transcript) :
    Prop where
  arguments : run renderer ((typed script).map commandOption) idle = .finished t false
  conversation : run renderer [] script = .finished c false
  arguments_status : (Ending.finished t false).status = 0
  conversation_status : (Ending.finished c false).status = 0
  /-- Each line up to the first that leaves has a share. -/
  length_shares : shares.length = (heeded (typed script)).length
  /-- The first lines alone show their shares, and so all lines together show all shares. -/
  share : ∀ n, 0 < n → ∃ t', run renderer (((typed script).take n).map commandOption) idle =
    .finished t' false ∧ t'.output = String.join (shares.take n)
  arguments_output : t.output = String.join shares
  /-- In the conversation the same shares are shown, each behind the prompt at which its line is
      typed. -/
  conversation_output : c.output = banner ++ dialogue script shares ++ farewell
  report : c.report = t.report
  /-- The same pictures are asked for. -/
  pictures : c.pictures = t.pictures
  /-- Nothing behind the first line that leaves matters. -/
  arguments_heeded :
    run renderer ((heeded (typed script)).map commandOption) idle = .finished t false
  conversation_heeded : run renderer [] (upToLeaving script) = .finished c false

/-- **Commands and conversations run alike.** Take any script with at least one line, with
    interrupts anywhere, in which two hyphens are no line that is heeded. Typed at the prompt it
    shows, behind each prompt and between banner and farewell, what its lines show as commands in the
    arguments. Both runs go to their end, ask for the same pictures, and do nothing behind the first
    line that leaves. -/
theorem runs_alike (script idle : List Input) (hlines : typed script ≠ [])
    (hheeded : "--" ∉ heeded (typed script)) :
    ∃ shares t c, RunsAlike renderer script idle shares t c := by
  -- the shares are what the replies show
  refine ⟨(heard renderer {} (typed script)).map (·.output), _, _,
    { arguments := run_commandOptions_of_heeded renderer hlines hheeded idle
      conversation := rfl
      arguments_status := rfl
      conversation_status := ?_
      length_shares := ?_
      share := fun n hn => ?_
      arguments_output := rfl
      conversation_output := ?_
      report := ?_
      pictures := ?_
      arguments_heeded := ?_
      conversation_heeded := ?_ }⟩
  · rw [converse_eq]
    rfl
  · rw [List.length_map, length_heard]
  · have hne : (typed script).take n ≠ [] := by
      rw [Ne, List.take_eq_nil_iff, not_or]
      exact ⟨Nat.ne_of_gt hn, hlines⟩
    have hhyphens : "--" ∉ heeded ((typed script).take n) :=
      fun h => hheeded ((heeded_take_sublist _ n).subset h)
    refine ⟨_, run_commandOptions_of_heeded renderer hne hhyphens idle, ?_⟩
    rw [heard_take, transcriptOf, List.map_take]
  · rw [converse_eq]
  · rw [converse_eq]
  · rw [converse_eq]
  · have hne : heeded (typed script) ≠ [] := by
      cases hscript : typed script with
      | nil => exact absurd hscript hlines
      | cons line rest => exact List.cons_ne_nil _ _
    have hhyphens : "--" ∉ heeded (heeded (typed script)) := by
      rwa [heeded_heeded]
    rw [run_commandOptions_of_heeded renderer hne hhyphens, heard_heeded]
  · rw [run_nil, converse_eq, converse_eq, typed_upToLeaving, dialogue_upToLeaving, heard_heeded]

/-- Two lines that are met, one that is not, interrupts before and between them, and a line that
    leaves. The two hyphens behind that one do no harm. -/
def politeScript : List Input :=
  [.interrupt, .line "  new_nfa m ", .line "state m", .line "trans m q0 a q9", .interrupt,
   .line "QUIT now", .line "--"]

theorem polite_runs_alike :
    typed politeScript ≠ [] ∧ "--" ∉ heeded (typed politeScript) ∧
      ∃ shares t c, RunsAlike .works politeScript [] shares t c ∧ shares.length = 4 := by
  have hlines : typed politeScript ≠ [] := by decide
  have hheeded : "--" ∉ heeded (typed politeScript) := by decide +kernel
  obtain ⟨shares, t, c, halike⟩ := runs_alike .works politeScript [] hlines hheeded
  have hlength : (heeded (typed politeScript)).length = 4 := by decide +kernel
  exact ⟨hlines, hheeded, shares, t, c, halike, halike.length_shares.trans hlength⟩

/-- Two hyphens as a command break the program off, although they are a line like any other at the
    prompt. -/
theorem two_hyphens_not_alike :
    (∃ t, run .works [commandOption "--"] [] = .finished t false ∧ t.fault = some .noCommand ∧
      t.output = "") ∧
    (∃ c, run .works [] [.line "--"] = .finished c false ∧ c.fault = none ∧
      c.output = banner ++ (prompt ++ "Unknown command: --\n" ++ prompt) ++ farewell) ∧
    ¬ ∃ shares t c, RunsAlike .works [.line "--"] [] shares t c := by
  have hlines : ["--"] ≠ [] := List.cons_ne_nil _ _
  have harguments : run .works [commandOption "--"] [] =
      .finished { fault := some .noCommand } false := run_commandOptions .works hlines []
  refine ⟨⟨_, harguments, rfl, rfl⟩, ⟨_, rfl, ?_, ?_⟩, ?_⟩
  · decide +kernel
  · decide +kernel
  · rintro ⟨shares, t, c, halike⟩
    have hbroken : (run .works [commandOption "--"] []).status = 1 := by
      rw [harguments]
      rfl
    have hfinished : (run .works [commandOption "--"] []).status = 0 :=
      (congrArg Ending.status halike.arguments).trans halike.arguments_status
    omega

end Program

end FiniteAutomata

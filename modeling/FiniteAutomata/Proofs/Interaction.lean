import FiniteAutomata.Interaction

namespace FiniteAutomata

/-!
# The acts make up the run

Played one after the other, the acts of the program show what its run shows.

* `Transcript.append_assoc`: transcripts one behind another.
* `Act.played_over`, `Act.played_cons`: the last act, and one that others follow.
* `Terminal.played_prompt`, `Terminal.played_greet`: the acts of a conversation.
* `Program.run_eq_played`: the acts of the program.
-/

namespace Transcript

variable {a : Transcript}

theorem append_of_fault (h : a.fault ≠ none) (b : Transcript) : a.append b = a := by
  rw [append]
  split
  · rfl
  · rename_i heq
    exact absurd heq h

theorem append_assoc (a b c : Transcript) : (a.append b).append c = a.append (b.append c) := by
  cases ha : a.fault with
  | some fault =>
    have hfault : a.fault ≠ none := by rw [ha]; exact Option.some_ne_none fault
    rw [append_of_fault hfault, append_of_fault hfault, append_of_fault hfault]
  | none =>
    cases hb : b.fault with
    | some fault =>
      have hfault : b.fault ≠ none := by rw [hb]; exact Option.some_ne_none fault
      have hfault' : (a.append b).fault ≠ none := by
        simpa only [append, ha] using hfault
      rw [append_of_fault hfault, append_of_fault hfault']
    | none => simp only [append, ha, hb, String.append_assoc, List.append_assoc]

end Transcript

namespace Act

variable (renderer : Renderer) (shown : Transcript)

/-- After the last act nothing is done about the inputs that are left. -/
theorem played_over (inputs : List Terminal.Input) :
    ({ shown } : Act).played renderer inputs = shown := by
  cases inputs <;> rfl

theorem played_cons (w : Workspace) (input : Terminal.Input) (rest : List Terminal.Input) :
    ({ shown, waiting? := some w } : Act).played renderer (input :: rest) =
      shown.append ((Terminal.hear renderer w (some input)).played renderer rest) := rfl

end Act

namespace Terminal

variable (renderer : Renderer)

/-- From a prompt on, the acts show the conversation and the farewell. -/
theorem played_prompt (before : Transcript) (w : Workspace) (inputs : List Input) :
    ({ shown := before.append (.ofOutput prompt), waiting? := some w } : Act).played renderer inputs =
      (before.append (converseFrom renderer w inputs)).append (.ofOutput farewell) := by
  induction inputs generalizing before w with
  | nil => rfl
  | cons input rest ih =>
    rw [Act.played_cons]
    cases input with
    | interrupt =>
      have hact : hear renderer w (some .interrupt) =
          { shown := (Transcript.ofOutput reminder).append (.ofOutput prompt)
            waiting? := some w } := rfl
      have hshown : Transcript.ofOutput (prompt ++ reminder) =
          (Transcript.ofOutput prompt).append (.ofOutput reminder) := rfl
      rw [hact, ih, converseFrom, hshown]
      simp only [Transcript.append_assoc]
    | line text =>
      simp only [hear, converseFrom]
      generalize turn renderer w (Text.trim text) = reply
      by_cases hgoesOn : reply.goesOn = true
      · rw [if_pos hgoesOn, if_pos hgoesOn]
        cases hfault : reply.fault with
        | none => simp only [Option.isNone_none, if_true, ih, Transcript.append_assoc]
        | some fault =>
          have hbroken : reply.transcript.fault ≠ none := by
            rw [Reply.transcript, hfault]
            exact Option.some_ne_none fault
          -- what was broken off stays as it is, whatever would come behind it
          simp only [Option.isNone_some, Bool.false_eq_true, if_false, Act.played_over,
            Transcript.append_assoc, Transcript.append_of_fault hbroken]
      · rw [if_neg hgoesOn, if_neg hgoesOn, Act.played_over]
        simp only [Transcript.append_assoc]

theorem played_greet (inputs : List Input) :
    greet.played renderer inputs = converse renderer inputs :=
  played_prompt renderer (.ofOutput banner) {} inputs

end Terminal

namespace Program

/-- The acts of the program, played for the inputs of a user, show what its run shows. -/
theorem run_eq_played (renderer : Renderer) (arguments : List String) (inputs : List Terminal.Input) :
    run renderer arguments inputs =
      match start renderer arguments with
      | none => .misuse
      | some (act, verbose) => .finished (act.played renderer inputs) verbose := by
  rw [run, start]
  cases CommandLine.Invocation.ofArguments arguments with
  | misuse => rfl
  | help => simp only [Act.played_over]
  | run commands verbose =>
    cases commands with
    | nil => simp only [Terminal.played_greet]
    | cons command rest => simp only [Act.played_over]

end Program

end FiniteAutomata

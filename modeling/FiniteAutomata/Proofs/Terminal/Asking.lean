import FiniteAutomata.Proofs.Automaton.Asking
import FiniteAutomata.Proofs.Workspace
import FiniteAutomata.Terminal.Execution

namespace FiniteAutomata.Terminal

/-!
# Questions at the terminal

Actions that only ask keep the automaton as it was, and a listing keeps the workspace as it was. What is
shown is made of the answers.

* `judgeWord_def`, `traceWord_def`, `perform_show`, `perform_dot`, `askForPicture_def`: actions that only
  ask.
* `traceless_listing`, `execute_list`: listings.
-/

/-! ### Actions -/

variable (a : Automaton)

theorem judgeWord_def (word shown : String) :
    judgeWord a word shown = match a.judge (.text word) with
      | .ok verdict =>
        { automaton := a, output := shown ++ verdictLine verdict, report := verdict.report }
      | .error fault => { automaton := a, output := shown, fault := some fault } := by
  rw [judgeWord, (Automaton.Ask.traceless_judge (.text word)).ask_eq, Automaton.judge]
  cases (Automaton.Ask.judge (.text word)).answer a <;> rfl

theorem traceWord_def (arguments : List String) :
    traceWord a arguments = match a.simulate (.text (wordArgument arguments)) with
      | .error fault => .brokenOff a fault
      | .ok run =>
        if sawNothing run then .showing a (.ok "Automaton has no states")
        else judgeWord a (wordArgument arguments)
          (traceLines (wordArgument arguments).toList run) := by
  rw [traceWord, (Automaton.Ask.traceless_simulate (.text (wordArgument arguments))).ask_eq,
    Automaton.simulate]
  cases (Automaton.Ask.simulate (.text (wordArgument arguments))).answer a <;> rfl

theorem askForPicture_def (renderer : Renderer) (name : String) (arguments : List String) :
    askForPicture renderer a name arguments = match a.drawing with
      | .error fault => .brokenOff a fault
      | .ok _ =>
        { automaton := a
          output := lineOf (match renderer.outcome with
            | .ok () => "Created: " ++ arguments.headD name ++ ".png"
            | .error fault => "Error: " ++ fault.message)
          pictures := [{ file := arguments.headD name }] } := by
  rw [askForPicture, Automaton.Ask.traceless_drawing.ask_eq, Automaton.drawing]
  cases Automaton.Ask.drawing.answer a <;> rfl

theorem perform_show (renderer : Renderer) (name : String) (arguments : List String) :
    Action.perform renderer name arguments a .show = .showing a (a.description name) :=
  congrArg Outcome.telling ((Automaton.Ask.traceless_description name).ask_eq a)

theorem perform_dot (renderer : Renderer) (name : String) (arguments : List String) :
    Action.perform renderer name arguments a .dot = .showing a a.dot :=
  congrArg Outcome.telling (Automaton.Ask.traceless_dot.ask_eq a)

/-! ### Listings -/

/-- The line about an automaton, which is kept as it was. -/
theorem ask_listedLine (name : String) (w : Workspace) :
    (listedLine name).ask w = (.ok (((w.find? name).map fun a =>
      lineOf ("  " ++ name ++ ": " ++ a.kind.shortName ++ ", " ++ a.space.size.repr ++
        " states")).getD ""), w) := by
  rw [listedLine, Asking.traceless_get.ask_bind, Asking.answer_get]
  cases h : w.find? name with
  | none =>
    simp only [h]
    rfl
  | some a =>
    simp only [h]
    refine Eq.trans ?_ (congrArg (Prod.mk _) (Workspace.store_of_find? h))
    rfl

theorem traceless_listedLine (name : String) : (listedLine name).Traceless := fun w => by
  rw [ask_listedLine]

theorem traceless_listing : listing.Traceless := by
  refine Asking.traceless_get.bind fun w => ?_
  cases Ascending.sort (fun a b => a < b) w.automata.keys with
  | nil => exact Asking.traceless_pure _
  | cons name rest =>
    exact (Asking.Traceless.mapM traceless_listedLine (name :: rest)).bind fun _ =>
      Asking.traceless_pure _

theorem exists_answer_listing (w : Workspace) : ∃ text, listing.answer w = .ok text := by
  rw [listing, Asking.answer_get_bind]
  cases Ascending.sort (fun a b => a < b) w.automata.keys with
  | nil => exact ⟨_, rfl⟩
  | cons name rest =>
    obtain ⟨lines, hlines⟩ : ∃ lines, ((name :: rest).mapM fun name => (listedLine name).answer w) =
        .ok lines :=
      exists_mapM_eq_ok_iff.2 fun name _ => ⟨_, congrArg Prod.fst (ask_listedLine name w)⟩
    refine ⟨lineOf "Automata:" ++ String.join lines, ?_⟩
    rw [Asking.answer_bind_pure, Asking.answer_mapM traceless_listedLine, hlines, ok_bind]

/-- A listing shows a text and changes nothing. -/
theorem execute_list (renderer : Renderer) (w : Workspace) :
    ∃ output, execute renderer w .list = { workspace := w, output } := by
  obtain ⟨text, htext⟩ := exists_answer_listing w
  refine ⟨text, ?_⟩
  rw [execute, traceless_listing.ask_eq, htext]
  rfl

end FiniteAutomata.Terminal

import FiniteAutomata.Proofs.Session.Independence
import FiniteAutomata.Proofs.Terminal.Atomicity

namespace FiniteAutomata

/-!
# Questions leave no trace

Questions may be put at any place of a session, whatever their arguments are and whether they are
answered or refused: everything else shows what it shows without them.

* `Terminal.askingCommands`: the commands that only ask.
* `Request.Asks`: a request that only asks.
* `Terminal.Action.perform_automaton`, `Session.perform_session_of_asks`: what only asks changes
  nothing, neither an automaton nor a session.
* `Entry`, `Script`: requests with questions inserted among them.
* `Script.shown_eq`: several requests show the same whatever questions are inserted.
-/

namespace Terminal

/-- The commands that only ask. -/
def askingCommands : List String := ["test", "trace", "show", "dot", "graph", "list"]

end Terminal

/-- The request is a question about what is kept under some name, or asks for a drawing, or is a
    line with a command that only asks. -/
inductive Request.Asks : Request → Prop
  | call (name : String) (query : Query) : Asks (.call name (.ask query))
  | draw (name : String) (picture : Option Picture) : Asks (.draw name picture)
  | command {line command : String} {arguments : List String}
    (hline : Terminal.Says line command arguments) (hcommand : command ∈ Terminal.askingCommands) :
    Asks (.command line)

/-! ### What only asks changes nothing -/

namespace Terminal

theorem automaton_showing (a : Automaton) (text : Except Fault String) :
    (Outcome.showing a text).automaton = a := by
  cases text <;> rfl

theorem automaton_judgeWord (a : Automaton) (word shown : String) :
    (judgeWord a word shown).automaton = a := by
  rw [judgeWord_def]
  cases a.judge (.text word) <;> rfl

/-- An action that only asks leaves the automaton as it is, also when it is broken off. -/
theorem Action.perform_automaton {action : Action} (h : action.changes = false)
    (renderer : Renderer) (name : String) (arguments : List String) (a : Automaton) :
    (action.perform renderer name arguments a).automaton = a := by
  cases action with
  | state | trans | eps | initial => cases h
  | test => exact automaton_judgeWord a _ _
  | trace =>
    cases hrun : a.simulate (.text (wordArgument arguments)) with
    | error fault =>
      simp only [Action.perform, traceWord_def, hrun]
      rfl
    | ok run =>
      simp only [Action.perform, traceWord_def, hrun]
      -- nothing is judged if there is no state
      split
      · exact automaton_showing a _
      · exact automaton_judgeWord a _ _
  | «show» =>
    rw [perform_show]
    exact automaton_showing a _
  | dot =>
    rw [perform_dot]
    exact automaton_showing a _
  | graph =>
    show (askForPicture renderer a name arguments).automaton = a
    rw [askForPicture_def]
    cases a.drawing <;> rfl

/-- A line with a command that only asks is a listing or an action that only asks. -/
theorem ofLine_of_asking {line command : String} {arguments : List String}
    (hline : Says line command arguments) (hcommand : command ∈ askingCommands) :
    Command.ofLine line = .list ∨
      ∃ action : Action, action.changes = false ∧ Command.ofLine line = .act action arguments := by
  rw [hline.ofLine]
  simp only [askingCommands, List.mem_cons, List.not_mem_nil, or_false] at hcommand
  rcases hcommand with rfl | rfl | rfl | rfl | rfl | rfl
  · exact .inr ⟨.test, rfl, ofWord_word .test arguments⟩
  · exact .inr ⟨.trace, rfl, ofWord_word .trace arguments⟩
  · exact .inr ⟨.show, rfl, ofWord_word .show arguments⟩
  · exact .inr ⟨.dot, rfl, ofWord_word .dot arguments⟩
  · exact .inr ⟨.graph, rfl, ofWord_word .graph arguments⟩
  · exact .inl rfl

/-- A line with a command that only asks leaves the workspace as it is. -/
theorem run_workspace_of_asking {line command : String} {arguments : List String}
    (hline : Says line command arguments) (hcommand : command ∈ askingCommands)
    (renderer : Renderer) (w : Workspace) : (run renderer w line).workspace = w := by
  unfold run
  obtain hlist | ⟨action, haction, hact⟩ := ofLine_of_asking hline hcommand
  · obtain ⟨output, hexecuted⟩ := execute_list renderer w
    rw [hlist, hexecuted]
  · rw [hact]
    cases arguments with
    | nil => rfl
    | cons name arguments =>
      simp only [execute]
      cases ha : w.find? name with
      | none => rfl
      | some a =>
        -- what is put back under the name is what was there
        simp only [Outcome.reply, Action.perform_automaton haction]
        exact Workspace.store_of_find? ha

end Terminal

namespace Session

theorem session_draw (s : Session) (renderer : Renderer) (name : String)
    (picture : Option Picture) : (s.draw renderer name picture).session = s := by
  cases ha : s.workspace.find? name with
  | none =>
    simp only [draw_def, ha]
    rfl
  | some a => cases hdot : a.dot <;> cases picture <;> simp only [draw_def, ha, hdot]

/-- A question about what is kept under a name leaves the session as it is. -/
theorem session_call_ask (s : Session) (name : String) (query : Query) :
    (s.call name (.ask query)).session = s := by
  unfold Session.call
  cases ha : s.workspace.find? name with
  | some a =>
    -- what the question passes on is the automaton that was there
    simp only [performed, Automaton.perform_ask, Called.asked]
    rw [Workspace.store_of_find? ha]
    rfl
  | none =>
    cases hr : s.registries.get? name with
    | none => rfl
    | some r =>
      have hkept : s.withRegistry name r = s := by
        rw [withRegistry, Ledger.update_of_get?_eq_some hr rfl]
      cases query with
      | states query =>
        simp only [Option.bind_some, Registry.perform?_ask]
        exact hkept
      | _ => rfl

/-- A request that only asks leaves the session as it is. -/
theorem perform_session_of_asks {request : Request} (h : request.Asks) (renderer : Renderer)
    (s : Session) : (s.perform renderer request).session = s := by
  cases h with
  | call name query => exact s.session_call_ask name query
  | draw name picture => exact s.session_draw renderer name picture
  | @command line command arguments hline hcommand =>
    show s.withWorkspace (Terminal.run renderer s.workspace line).workspace = s
    rw [Terminal.run_workspace_of_asking hline hcommand]
    rfl

end Session

/-! ### Questions among other requests -/

/-- A request of a script: one that is there anyway, or a question that was inserted. -/
structure Entry where
  request : Request
  inserted : Bool := false

/-- Requests with others inserted among them. -/
abbrev Script := List Entry

namespace Script

/-- All requests of a script. -/
def whole (script : Script) : List Request := script.map (·.request)

/-- The requests without those that were inserted. -/
def original (script : Script) : List Request := (script.filter (!·.inserted)).map (·.request)

/-- What the requests that were not inserted show when the whole script is run. -/
def shown (renderer : Renderer) (s : Session) (script : Script) :
    List (Except Fault Effect × List Event × List Picture) :=
  ((script.zip (s.turns renderer script.whole)).filter (!·.1.inserted)).map (·.2.shown)

/-- Only questions were inserted. -/
def OnlyAsks (script : Script) : Prop := ∀ e ∈ script, e.inserted = true → e.request.Asks

variable (renderer : Renderer)

theorem shown_cons_inserted (s : Session) {e : Entry} (he : e.inserted = true) (rest : Script) :
    shown renderer s (e :: rest) = shown renderer (s.perform renderer e.request).session rest := by
  simp [shown, whole, Session.turns, he]

theorem shown_cons (s : Session) {e : Entry} (he : e.inserted = false) (rest : Script) :
    shown renderer s (e :: rest) = (s.perform renderer e.request).shown ::
      shown renderer (s.perform renderer e.request).session rest := by
  simp [shown, whole, Session.turns, he, Turn.shown]

/-- **Questions leave no trace.** When questions are inserted into a sequence of requests, the
    others show what they show without them, and the session is the same at the end. -/
theorem shown_eq {script : Script} (h : script.OnlyAsks) (s : Session) :
    script.shown renderer s = (s.turns renderer script.original).map Turn.shown ∧
      s.after renderer script.whole = s.after renderer script.original := by
  induction script generalizing s with
  | nil => exact ⟨rfl, rfl⟩
  | cons e rest ih =>
    have hrest := ih fun e' he' => h e' (List.mem_cons_of_mem e he')
    by_cases hinserted : e.inserted = true
    · -- the question leaves the session as it is for all that follows
      have hsession : (s.perform renderer e.request).session = s :=
        Session.perform_session_of_asks (h e List.mem_cons_self hinserted) renderer s
      have horiginal : original (e :: rest) = original rest := by
        rw [original, List.filter_cons_of_neg (by simp [hinserted]), original]
      rw [shown_cons_inserted renderer s hinserted, hsession, horiginal]
      refine ⟨(hrest s).1, ?_⟩
      show Session.after renderer (s.perform renderer e.request).session (whole rest) = _
      rw [hsession]
      exact (hrest s).2
    · -- both runs meet the request
      rw [Bool.not_eq_true] at hinserted
      have horiginal : original (e :: rest) = e.request :: original rest := by
        rw [original, List.filter_cons_of_pos (by simp [hinserted]), List.map_cons, original]
      obtain ⟨hshown, hafter⟩ := hrest (s.perform renderer e.request).session
      rw [shown_cons renderer s hinserted, horiginal, hshown]
      exact ⟨rfl, hafter⟩

/-- A nondeterministic automaton with a call that is refused because of its target, which makes room
    for an entry on `True`. Among the requests there are questions that are refused, one of them on
    the very symbol of that entry. -/
def curious : Script :=
  [{ request := .create .nfa "m" },
   { request := .call "m" (.ask (.next (.state ⟨0, 0⟩) (.int 1))), inserted := true },
   { request := .command "state m" },
   { request := .call "m" (.ask (.next (.state ⟨0, 0⟩) (.int 1))), inserted := true },
   { request := .command "TRACE m a", inserted := true },
   { request := .call "m"
       (.build (.addTransition (.state ⟨0, 0⟩) (.truth true) (.state ⟨1, 0⟩))) },
   { request := .call "m" (.ask (.step (.list [.state ⟨0, 0⟩]) (.list []))), inserted := true },
   { request := .call "m" (.build (.addTransition (.state ⟨0, 0⟩) (.int 1) (.state ⟨0, 0⟩))) },
   { request := .draw "m" none, inserted := true },
   { request := .call "m" (.ask .transitions) },
   { request := .draw "m" none }]

/-- The questions change nothing: the transition is still spelled with `True`. -/
theorem curious_shown :
    curious.OnlyAsks ∧
      curious.shown .works {} =
        ((Session.turns .works {} curious.original).map Turn.shown) ∧
      (curious.shown .works {})[4]? =
        some (.ok (.answered (.transitions [⟨0, ⟨.truth true, rfl⟩, 0⟩])), [], []) := by
  have hasks : curious.OnlyAsks := by
    intro e he hinserted
    simp only [curious, List.mem_cons, List.not_mem_nil, or_false] at he
    rcases he with rfl | rfl | rfl | rfl | rfl | rfl | rfl | rfl | rfl | rfl | rfl
    · cases hinserted
    · exact .call _ _
    · cases hinserted
    · exact .call _ _
    · have hline : Terminal.Says "TRACE m a" "trace" ["m", "a"] :=
        ⟨"TRACE", by decide +kernel, by decide +kernel⟩
      exact .command hline (by decide)
    · cases hinserted
    · exact .call _ _
    · cases hinserted
    · exact .draw _ _
    · cases hinserted
    · cases hinserted
  refine ⟨hasks, (shown_eq .works hasks {}).1, ?_⟩
  decide +kernel

end Script

end FiniteAutomata

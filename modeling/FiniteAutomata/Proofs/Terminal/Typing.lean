import FiniteAutomata.Proofs.Rebuilding
import FiniteAutomata.Proofs.StateName
import FiniteAutomata.Proofs.Terminal.Execution

namespace FiniteAutomata.Terminal

/-!
# Calls that are typed

Every call that adds a state, a transition on a word or an epsilon transition, or that chooses an
initial state, can be typed as a line. Lines that are typed one after the other make their calls one
after the other.

* `replies`: the replies to several lines.
* `stateLine`, `transLine`, `epsLine`, `initialLine`: the lines for calls.
* `Obeyed`: a line makes a call.
* `obeyed_stateLine` and those behind it: the lines make their calls.
* `ObeyedAll.run`: several lines make several calls.
-/

/-- The replies to several lines, one after the other. -/
def replies (w : Workspace) : List (Renderer × String) → List Reply
  | [] => []
  | (renderer, line) :: rest =>
    run renderer w line :: replies (run renderer w line).workspace rest

theorem replies_cons (w : Workspace) (renderer : Renderer) (line : String)
    (rest : List (Renderer × String)) :
    replies w ((renderer, line) :: rest) =
      run renderer w line :: replies (run renderer w line).workspace rest := rfl

theorem after_cons (w : Workspace) (renderer : Renderer) (line : String)
    (rest : List (Renderer × String)) :
    after w ((renderer, line) :: rest) = after (run renderer w line).workspace rest := rfl

/-! ### Lines -/

/-- The line that adds a state. -/
def stateLine (name : String) (accepting : Bool) : String :=
  Text.spaced ("state" :: name :: if accepting then ["accept"] else [])

/-- The line that adds a transition between states with the given names. -/
def transLine (name source symbol target : String) : String :=
  Text.spaced ["trans", name, source, symbol, target]

/-- The line that adds an epsilon transition between states with the given names. -/
def epsLine (name source target : String) : String := Text.spaced ["eps", name, source, target]

/-- The line that chooses the initial state. -/
def initialLine (name state : String) : String := Text.spaced ["initial", name, state]

/-- The line that creates an automaton. -/
def creationLine (kind : AutomatonKind) (name : String) : String :=
  Text.spaced [Command.creationWord kind, name]

theorem lowercase_word (action : Action) : Text.lowercase action.word = action.word := by
  cases action <;> decide +kernel

theorem lowercase_creationWord (kind : AutomatonKind) :
    Text.lowercase (Command.creationWord kind) = Command.creationWord kind := by
  cases kind <;> decide +kernel

theorem isWord_word (action : Action) : Text.IsWord action.word := by
  cases action <;> decide

theorem isWord_creationWord (kind : AutomatonKind) : Text.IsWord (Command.creationWord kind) := by
  cases kind <;> decide

/-- What a line of words says. -/
theorem ofLine_spaced {word : String} {arguments : List String} (hword : Text.IsWord word)
    (hlower : Text.lowercase word = word) (harguments : ∀ w ∈ arguments, Text.IsWord w) :
    Command.ofLine (Text.spaced (word :: arguments)) = .ofWord word arguments := by
  rw [Command.ofLine, Text.words_spaced (List.forall_mem_cons.2 ⟨hword, harguments⟩)]
  simp only [hlower]

theorem run_creationLine (renderer : Renderer) (w : Workspace) (kind : AutomatonKind)
    {name : String} (hname : Text.IsWord name) :
    run renderer w (creationLine kind name) =
      { workspace := w.create kind name, output := createdLine name } := by
  have hline := ofLine_spaced (isWord_creationWord kind) (lowercase_creationWord kind)
    (List.forall_mem_singleton.2 hname)
  rw [run, creationLine, hline]
  cases kind <;> rfl

/-! ### Lines that make calls -/

/-- The line makes the call on the automaton under the name, and does nothing else. -/
def Obeyed (name : String) (b : Automaton) (line : String) (call : Construction) : Prop :=
  ∀ renderer w, w.find? name = some b →
    (run renderer w line).workspace = w.store name (b.build call).automaton ∧
    (run renderer w line).fault = none ∧ (run renderer w line).goesOn = true

variable {name : String} {b : Automaton}

/-- A line for an action that makes a call, where that call is met. -/
theorem obeyed_of_perform (action : Action) (hname : Text.IsWord name) {arguments : List String}
    (harguments : ∀ w ∈ arguments, Text.IsWord w) {call : Construction} {index : Option Nat}
    (hresult : (b.build call).result = .ok index)
    (hperform : ∀ renderer, ∃ text,
      action.perform renderer name arguments b = .ofCall (b.build call) text) :
    Obeyed name b (Text.spaced (action.word :: name :: arguments)) call := by
  intro renderer w hb
  have hline := ofLine_spaced (isWord_word action) (lowercase_word action)
    (List.forall_mem_cons.2 ⟨hname, harguments⟩)
  obtain ⟨text, hperform⟩ := hperform renderer
  have hrun : run renderer w (Text.spaced (action.word :: name :: arguments)) =
      (Outcome.ofCall (b.build call) text).reply w name := by
    simp only [run, hline, ofWord_word, execute, hb, hperform]
  rw [hrun, Outcome.ofCall, hresult]
  exact ⟨rfl, rfl, rfl⟩

theorem obeyed_stateLine (hname : Text.IsWord name) (b : Automaton) (accepting : Bool) :
    Obeyed name b (stateLine name accepting) (.addState (.truth accepting)) := by
  have haccept : Text.IsWord "accept" := by decide
  have hlower : acceptingWords.contains (Text.lowercase "accept") = true := by decide +kernel
  have harguments : ∀ w ∈ if accepting then ["accept"] else [], Text.IsWord w := by
    cases accepting <;> simp [haccept]
  refine obeyed_of_perform .state hname harguments (b.result_addState _) fun _ => ?_
  have hany : ((if accepting then ["accept"] else []).head?.any fun word =>
      acceptingWords.contains (Text.lowercase word)) = accepting := by
    cases accepting
    · rfl
    · exact hlower
  rw [Action.perform, addState, hany]
  exact ⟨_, rfl⟩

section States

variable (hname : Text.IsWord name) (hsize : b.space.size ≤ 10 ^ Text.maxDigits)
include hname hsize

theorem obeyed_transLine {t : Transition} (hs : t.source < b.space.size)
    (ht : t.target < b.space.size) (htext : t.symbol.value = .text t.symbolText)
    (hsymbol : Text.IsWord t.symbolText) :
    Obeyed name b
      (transLine name (stateName t.source) t.symbolText (stateName t.target))
      (transitionCall b.space.owner t) := by
  refine obeyed_of_perform .trans hname ?_ (Automaton.result_addTransition hs t.symbol ht)
    fun _ => ?_
  · simp only [List.forall_mem_cons]
    exact ⟨isWord_stateName _, hsymbol, isWord_stateName _, by simp⟩
  · rw [Action.perform, addTransition, withState_of_ok (Registry.resolve_stateName hs hsize),
      withState_of_ok (Registry.resolve_stateName ht hsize), transitionCall, htext]
    exact ⟨_, rfl⟩

theorem obeyed_epsLine (hkind : b.kind = .nfa) {e : Nat × Nat} (hs : e.1 < b.space.size)
    (ht : e.2 < b.space.size) :
    Obeyed name b (epsLine name (stateName e.1) (stateName e.2)) (epsilonCall b.space.owner e) := by
  refine obeyed_of_perform .eps hname ?_ (Automaton.result_addEpsilon hkind hs ht)
    fun _ => ?_
  · simp only [List.forall_mem_cons]
    exact ⟨isWord_stateName _, isWord_stateName _, by simp⟩
  · simp only [Action.perform, addEpsilon, hkind]
    rw [withState_of_ok (Registry.resolve_stateName hs hsize),
      withState_of_ok (Registry.resolve_stateName ht hsize)]
    exact ⟨_, rfl⟩

theorem obeyed_initialLine {s : Nat} (hs : s < b.space.size) :
    Obeyed name b (initialLine name (stateName s)) (initialCall b.space.owner s) := by
  refine obeyed_of_perform .initial hname
    (List.forall_mem_singleton.2 (isWord_stateName s)) (Automaton.result_setInitial hs)
    fun _ => ?_
  rw [Action.perform, setInitial, withState_of_ok (Registry.resolve_stateName hs hsize)]
  exact ⟨_, rfl⟩

end States

/-! ### Several lines -/

/-- The lines make the calls one after the other. -/
inductive ObeyedAll (name : String) : Automaton → List String → List Construction → Prop
  | nil (b : Automaton) : ObeyedAll name b [] []
  | cons {b : Automaton} {line : String} {call : Construction} {lines : List String}
    {calls : List Construction} (hline : Obeyed name b line call)
    (hlines : ObeyedAll name (b.build call).automaton lines calls) :
    ObeyedAll name b (line :: lines) (call :: calls)

theorem ObeyedAll.append {lines later : List String} {calls calls' : List Construction}
    (h : ObeyedAll name b lines calls) (h' : ObeyedAll name (b.buildAll calls).1 later calls') :
    ObeyedAll name b (lines ++ later) (calls ++ calls') := by
  induction h with
  | nil b => exact h'
  | cons hline hlines ih => exact .cons hline (ih h')

/-- Lines that make their calls on every automaton of some sort, where those calls keep that sort. -/
theorem obeyedAll_map {α : Type} {p : Automaton → Prop} {line : α → String}
    {call : α → Construction} (items : List α)
    (hitems : ∀ x ∈ items, ∀ b, p b → Obeyed name b (line x) (call x) ∧
      p (b.build (call x)).automaton) (hb : p b) :
    ObeyedAll name b (items.map line) (items.map call) ∧
      p (b.buildAll (items.map call)).1 := by
  induction items generalizing b with
  | nil => exact ⟨.nil b, hb⟩
  | cons x rest ih =>
    obtain ⟨hx, hrest⟩ := List.forall_mem_cons.1 hitems
    obtain ⟨hline, hkeeps⟩ := hx b hb
    obtain ⟨hlines, hlast⟩ := ih hrest hkeeps
    exact ⟨.cons hline hlines, hlast⟩

/-- What lines that make their calls do to a workspace. -/
theorem ObeyedAll.run {lines : List String} {calls : List Construction}
    (h : ObeyedAll name b lines calls) (renderer : Renderer) {w : Workspace}
    (hb : w.find? name = some b) :
    (∀ reply ∈ replies w (lines.map (renderer, ·)), reply.fault = none ∧ reply.goesOn = true) ∧
      (after w (lines.map (renderer, ·))).find? name = some (b.buildAll calls).1 ∧
      ∀ name', name' ≠ name → (after w (lines.map (renderer, ·))).find? name' = w.find? name' := by
  induction h generalizing w with
  | nil b => exact ⟨by simp [replies], hb, fun _ _ => rfl⟩
  | @cons b line call lines calls hline hlines ih =>
    obtain ⟨hworkspace, hfault, hgoesOn⟩ := hline renderer w hb
    have hfind : (Terminal.run renderer w line).workspace.find? name =
        some (b.build call).automaton := by
      rw [hworkspace, Workspace.find?_store, if_pos rfl]
    obtain ⟨hreplies, hlast, hothers⟩ := ih hfind
    rw [List.map_cons, replies_cons, after_cons]
    refine ⟨List.forall_mem_cons.2 ⟨⟨hfault, hgoesOn⟩, hreplies⟩, hlast, fun name' hne => ?_⟩
    rw [hothers name' hne, hworkspace, Workspace.find?_store, if_neg hne.symm]

end FiniteAutomata.Terminal

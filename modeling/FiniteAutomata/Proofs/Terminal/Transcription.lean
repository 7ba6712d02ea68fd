import FiniteAutomata.Proofs.Account
import FiniteAutomata.Proofs.Terminal.Typing

namespace FiniteAutomata.Terminal

/-!
# Descriptions typed back

Whoever reads the description of an automaton can type it in again. Under the name there is then an
automaton that cannot be told from the described one.

* `script`: the lines to type, made of what a description says.
* `obeyedAll_rebuilding`: lines for the states, transitions and initial state make the calls that
  build a copy.
* `TypedBack`: the lines are all obeyed, build such an automaton and leave all others alone.
* `description_typed_back`: the lines that are read off a description do so.
-/

/-! ### Lines to type -/

/-- The lines that build what an account is of: it is created, gets its states, its transitions and
    its epsilon transitions, and then its initial state. -/
def script (name : String) (account : Account) : List String :=
  creationLine account.kind name ::
    ((List.range account.size).map
        (fun s => stateLine name (account.accepting.contains (stateName s))) ++
      account.transitions.map
        (fun (source, symbol, target) => transLine name source symbol target) ++
      account.epsilonTransitions.map (fun (source, target) => epsLine name source target) ++
      account.start.toList.map (initialLine name))

/-- The lines that add states with the given flags, transitions and epsilon transitions, and that
    choose the initial state. -/
def rebuildingLines (name : String) (flags : List Bool) (ts : List Transition)
    (es : List (Nat × Nat)) (start : Option Nat) : List String :=
  flags.map (stateLine name) ++
    ts.map (fun t => transLine name (stateName t.source) t.symbolText (stateName t.target)) ++
    es.map (fun e => epsLine name (stateName e.1) (stateName e.2)) ++
    start.toList.map (fun s => initialLine name (stateName s))

/-- The automaton has its kind and its states, and nothing was said about the initial one yet. -/
structure Settled (kind : AutomatonKind) (owner : Nat) (flags : List Bool) (b : Automaton) :
    Prop where
  kind_eq : b.kind = kind
  space_eq : b.space = { owner, flags }

section Rebuilding

variable {name : String} (hname : Text.IsWord name) {kind : AutomatonKind} {owner : Nat}
  {flags : List Bool} (hsize : flags.length ≤ 10 ^ Text.maxDigits) {b : Automaton}
include hname hsize

theorem Settled.obeyed_transition (h : Settled kind owner flags b) {t : Transition}
    (hs : t.source < flags.length) (ht : t.target < flags.length)
    (htext : t.symbol.value = .text t.symbolText) (hsymbol : Text.IsWord t.symbolText) :
    Obeyed name b (transLine name (stateName t.source) t.symbolText (stateName t.target))
        (transitionCall owner t) ∧
      Settled kind owner flags (b.build (transitionCall owner t)).automaton := by
  have hflags : b.space.size = flags.length := by rw [h.space_eq]; rfl
  have hobeyed := obeyed_transLine (b := b) (t := t) hname (by rwa [hflags]) (by rwa [hflags])
    (by rwa [hflags]) htext hsymbol
  have howner : b.space.owner = owner := by rw [h.space_eq]
  rw [howner] at hobeyed
  refine ⟨hobeyed, ?_, ?_⟩
  · rw [Automaton.kind_build, h.kind_eq]
  · rw [transitionCall, Automaton.space_addTransition, h.space_eq]

theorem Settled.obeyed_epsilon (h : Settled kind owner flags b) (hkind : kind = .nfa)
    {e : Nat × Nat} (hs : e.1 < flags.length) (ht : e.2 < flags.length) :
    Obeyed name b (epsLine name (stateName e.1) (stateName e.2)) (epsilonCall owner e) ∧
      Settled kind owner flags (b.build (epsilonCall owner e)).automaton := by
  have hflags : b.space.size = flags.length := by rw [h.space_eq]; rfl
  have hobeyed := obeyed_epsLine (b := b) (e := e) hname (by rwa [hflags]) (h.kind_eq.trans hkind)
    (by rwa [hflags]) (by rwa [hflags])
  have howner : b.space.owner = owner := by rw [h.space_eq]
  rw [howner] at hobeyed
  refine ⟨hobeyed, ?_, ?_⟩
  · rw [Automaton.kind_build, h.kind_eq]
  · rw [epsilonCall, Automaton.space_addEpsilon, h.space_eq]

theorem Settled.obeyed_initial (h : Settled kind owner flags b) {s : Nat}
    (hs : s < flags.length) :
    Obeyed name b (initialLine name (stateName s)) (initialCall owner s) := by
  have hflags : b.space.size = flags.length := by rw [h.space_eq]; rfl
  have hobeyed := obeyed_initialLine (b := b) (s := s) hname (by rwa [hflags]) (by rwa [hflags])
  have howner : b.space.owner = owner := by rw [h.space_eq]
  rwa [howner] at hobeyed

/-- The lines make the calls that build the automaton. -/
theorem obeyedAll_rebuilding {ts : List Transition} {es : List (Nat × Nat)} {start : Option Nat}
    (hts : ∀ t ∈ ts, t.source < flags.length ∧ t.target < flags.length)
    (hsymbols : ∀ t ∈ ts, t.symbol.value = .text t.symbolText ∧ Text.IsWord t.symbolText)
    (hes : ∀ e ∈ es, kind = .nfa ∧ e.1 < flags.length ∧ e.2 < flags.length)
    (hstart : ∀ s, start = some s → s < flags.length) :
    ObeyedAll name (.new kind owner) (rebuildingLines name flags ts es start)
      (rebuilding owner flags ts es start) := by
  have hstates : ObeyedAll name (.new kind owner) (flags.map (stateLine name))
      (stateCalls flags) :=
    (obeyedAll_map (p := fun _ => True) flags
      (fun accepting _ b _ => ⟨obeyed_stateLine hname b accepting, trivial⟩) trivial).1
  -- once the states are there, neither the kind nor the states change
  obtain ⟨hkind, hspace⟩ := Automaton.buildAll_stateCalls_new kind owner flags
  obtain ⟨htransitions, hsettled⟩ := obeyedAll_map ts
    (fun t ht b hb => Settled.obeyed_transition hname hsize hb (hts t ht).1 (hts t ht).2
      (hsymbols t ht).1 (hsymbols t ht).2) ⟨hkind, hspace⟩
  obtain ⟨hepsilons, hsettled⟩ := obeyedAll_map es
    (fun e he b hb => Settled.obeyed_epsilon hname hsize hb (hes e he).1 (hes e he).2.1
      (hes e he).2.2) hsettled
  have hinitial := fun s hs => hsettled.obeyed_initial hname hsize (hstart s hs)
  rw [rebuildingLines, rebuilding]
  simp only [List.append_assoc]
  refine hstates.append (htransitions.append (hepsilons.append ?_))
  cases start with
  | none => exact .nil _
  | some s => exact .cons (hinitial s rfl) (.nil _)

end Rebuilding

/-! ### Lines for an account -/

/-- The lines are those for the flags, the transitions in the order of the description and the
    initial state. -/
theorem script_account (name : String) (a : Automaton) :
    script name a.account = creationLine a.kind name ::
      rebuildingLines name a.space.flags (a.sortedLines.map TransitionLine.transition)
        (Ascending.sort pairBefore a.epsilonTransitions) a.space.initial? := by
  have hstates : (List.range a.space.size).map
      (fun s => stateLine name ((a.acceptingStates.map stateName).contains (stateName s))) =
        a.space.flags.map (stateLine name) := by
    rw [← Registry.map_accepts_range, List.map_map]
    refine List.map_congr_left fun s hs => ?_
    rw [a.contains_acceptingStates (List.mem_range.1 hs)]
    rfl
  rw [script, rebuildingLines, Automaton.account]
  simp only [hstates, List.map_map, Automaton.epsilonLines, epsilonLinesOf, Option.toList_map]
  rfl

/-! ### Descriptions typed back -/

/-- Whatever is shown of the automata is the same: they are described and drawn alike, and have the
    same verdicts and runs. -/
structure ShownAlike (a b : Automaton) : Prop where
  description_eq : ∀ name, b.description name = a.description name
  dot_eq : b.dot = a.dot
  judge_eq : b.judge = a.judge
  simulate_eq : b.simulate = a.simulate
  trace_eq : ∀ arguments, (traceWord b arguments).output = (traceWord a arguments).output

theorem shownAlike_of_copy {a b : Automaton} (h : a.Copy b) (htexts : OnlyTexts a.transitions) :
    ShownAlike a b where
  description_eq name := ((h.sameContents htexts).description_eq htexts name).symm
  dot_eq := ((h.sameContents htexts).dot_eq htexts).symm
  judge_eq := h.judge_eq.symm
  simulate_eq := h.simulate_eq.symm
  trace_eq arguments := by
    rw [traceWord_def, traceWord_def, ← h.simulate_eq]
    cases a.simulate (.text (wordArgument arguments)) with
    | error fault => rfl
    | ok run =>
      simp only
      split
      · rfl
      · rw [judgeWord_def, judgeWord_def, ← h.judge_eq]
        cases a.judge (.text (wordArgument arguments)) <;> rfl

/-- The lines are obeyed one after the other, and the terminal goes on after each of them. They put
    an automaton under the name that shows as the given one does, and leave all others alone. -/
structure TypedBack (renderer : Renderer) (w : Workspace) (name : String) (a : Automaton)
    (lines : List String) : Prop where
  obeyed : ∀ reply ∈ replies w (lines.map (renderer, ·)), reply.fault = none ∧ reply.goesOn = true
  shownAlike : ∃ b, (after w (lines.map (renderer, ·))).find? name = some b ∧ ShownAlike a b
  others : ∀ name', name' ≠ name →
    (after w (lines.map (renderer, ·))).find? name' = w.find? name'

/-- The lines for an account of an automaton put a copy of it under the name. -/
theorem typedBack_script {a : Automaton} (ha : a.Sound) {name : String} (hname : Text.IsWord name)
    (hsize : a.space.size ≤ 10 ^ Text.maxDigits)
    (hsymbols : ∀ t ∈ a.transitions, t.symbol.value = .text t.symbolText ∧
      Text.IsWord t.symbolText) (renderer : Renderer) (w : Workspace) :
    TypedBack renderer w name a (script name a.account) := by
  have htransitions := Automaton.perm_transition_sortedLines fun t ht => (hsymbols t ht).1
  have hepsilons : (Ascending.sort pairBefore a.epsilonTransitions).Perm a.epsilonTransitions :=
    Ascending.perm_sort _
  -- the states of the copy belong to whom the workspace creates next
  have hcopy := Automaton.copy_rebuilding ha w.created htransitions hepsilons
  have htexts : OnlyTexts a.transitions := fun t ht => ⟨_, (hsymbols t ht).1⟩
  have hlines : ObeyedAll name (.new a.kind w.created) _ _ := obeyedAll_rebuilding hname hsize
    (fun t ht => ha.within_transitions t (htransitions.mem_iff.1 ht))
    (fun t ht => hsymbols t (htransitions.mem_iff.1 ht))
    (fun e he => ha.within_epsilonTransitions e (hepsilons.mem_iff.1 he))
    (fun s hs => ha.initial_lt hs)
  have hcreated : (w.create a.kind name).find? name = some (.new a.kind w.created) := by
    rw [Workspace.find?_create, if_pos rfl]
  obtain ⟨hreplies, hlast, hothers⟩ := hlines.run renderer hcreated
  have hcreation := run_creationLine renderer w a.kind hname
  rw [script_account]
  refine ⟨?_, ?_, ?_⟩
  · rw [List.map_cons, replies_cons, hcreation]
    exact List.forall_mem_cons.2 ⟨⟨rfl, rfl⟩, hreplies⟩
  · rw [List.map_cons, after_cons, hcreation]
    exact ⟨_, hlast, shownAlike_of_copy hcopy htexts⟩
  · intro name' hne
    rw [List.map_cons, after_cons, hcreation, hothers name' hne, Workspace.find?_create,
      if_neg hne.symm]

/-- **What is shown of an automaton can be typed back.** After any calls, an automaton whose symbols
    are words is described under any word as its name. What is read off this description are lines
    that are obeyed in any workspace, and that put an automaton under the name that is described and
    drawn alike and has the same verdicts and runs. -/
theorem description_typed_back (kind : AutomatonKind) (owner : Nat) (calls : List Construction)
    {a : Automaton} (ha : ((Automaton.new kind owner).buildAll calls).1 = a)
    (hsize : a.space.size < 10 ^ Text.maxDigits)
    (hsymbols : ∀ t ∈ a.transitions, ∃ s, t.symbol.value = .text s ∧ Text.IsWord s)
    {name : String} (hname : Text.IsWord name) (renderer : Renderer) (w : Workspace) :
    ∃ text account, a.description name = .ok text ∧ Account.read text = some account ∧
      TypedBack renderer w name a (script name account) := by
  have hsound : a.Sound := ha ▸ Automaton.sound_buildAll_new kind owner calls
  have htexts : OnlyTexts a.transitions := by
    intro t ht
    obtain ⟨s, hs, -⟩ := hsymbols t ht
    exact ⟨s, hs⟩
  have hwords : ∀ t ∈ a.transitions, t.symbol.value = .text t.symbolText ∧
      Text.IsWord t.symbolText := by
    intro t ht
    obtain ⟨s, hs, hword⟩ := hsymbols t ht
    rw [Transition.symbolText, hs]
    exact ⟨rfl, hword⟩
  obtain ⟨text, htext⟩ := Automaton.exists_description htexts name
  have hread := Account.read_description htexts (fun t ht => (hwords t ht).2.unbroken) hname htext
  exact ⟨text, a.account, htext, hread, typedBack_script hsound hname hsize.le hwords renderer w⟩

/-- The calls that build two states with a transition on `->` from the second, which is initial and
    accepting, to the first, and a transition on the letter for epsilon and an epsilon transition
    back. A call with the state of another automaton is refused. -/
def arrowCalls : List Construction :=
  [.addState (.truth false), .addState (.truth true), .setInitial (.state ⟨1, 0⟩),
   .addTransition (.state ⟨1, 0⟩) (.text "->") (.state ⟨0, 0⟩),
   .addTransition (.state ⟨0, 0⟩) (.text "ε") (.state ⟨1, 0⟩),
   .addEpsilon (.state ⟨0, 0⟩) (.state ⟨1, 0⟩),
   .addTransition (.state ⟨0, 0⟩) (.text "a") (.state ⟨0, 7⟩)]

/-- The arrow is not taken for a part of its line, nor the letter for an epsilon transition. -/
theorem arrow_typed_back :
    ((Automaton.new .nfa 0).buildAll arrowCalls).1.space.size < 10 ^ Text.maxDigits ∧
      (∀ t ∈ ((Automaton.new .nfa 0).buildAll arrowCalls).1.transitions,
        ∃ s, t.symbol.value = .text s ∧ Text.IsWord s) ∧
      Text.IsWord "m" ∧
      TypedBack .works {} "m" ((Automaton.new .nfa 0).buildAll arrowCalls).1
        ["new_nfa m", "state m", "state m accept", "trans m q0 ε q1", "trans m q1 -> q0",
         "eps m q0 q1", "initial m q1"] := by
  have hsize : ((Automaton.new .nfa 0).buildAll arrowCalls).1.space.size < 10 ^ Text.maxDigits := by
    have htwo : ((Automaton.new .nfa 0).buildAll arrowCalls).1.space.size < 10 ^ 1 := by
      decide +kernel
    refine Nat.lt_of_lt_of_le htwo (Nat.pow_le_pow_right (by decide) ?_)
    rw [Text.maxDigits_eq]
    decide
  have htransitions : ((Automaton.new .nfa 0).buildAll arrowCalls).1.transitions =
      [⟨1, ⟨.text "->", rfl⟩, 0⟩, ⟨0, ⟨.text "ε", rfl⟩, 1⟩] := by decide +kernel
  have hsymbols : ∀ t ∈ ((Automaton.new .nfa 0).buildAll arrowCalls).1.transitions,
      ∃ s, t.symbol.value = .text s ∧ Text.IsWord s := by
    rw [htransitions]
    simp only [List.forall_mem_cons]
    exact ⟨⟨"->", rfl, by decide⟩, ⟨"ε", rfl, by decide⟩, by simp⟩
  have hname : Text.IsWord "m" := by decide
  obtain ⟨text, account, htext, haccount, hback⟩ :=
    description_typed_back .nfa 0 arrowCalls rfl hsize hsymbols hname .works {}
  have hlines : (((Automaton.new .nfa 0).buildAll arrowCalls).1.description "m").toOption.bind
      (fun text => (Account.read text).map (script "m")) =
        some ["new_nfa m", "state m", "state m accept", "trans m q0 ε q1", "trans m q1 -> q0",
          "eps m q0 q1", "initial m q1"] := by decide +kernel
  rw [htext, Except.toOption, Option.bind_some, haccount, Option.map_some, Option.some.injEq]
    at hlines
  rw [hlines] at hback
  exact ⟨hsize, hsymbols, hname, hback⟩

end FiniteAutomata.Terminal

import FiniteAutomata.Proofs.Concatenation
import FiniteAutomata.Proofs.Locality
import FiniteAutomata.Proofs.Spelling
import FiniteAutomata.Proofs.Terminal.Asking
import FiniteAutomata.Proofs.Textual
import FiniteAutomata.Proofs.Twins.Construction

namespace FiniteAutomata

/-!
# Tests and traces depend on the letters of their word

What the terminal shows of a run comes from the run, and that depends on the transitions on the letters
of the word alone. A word at the terminal is made of single characters, so a transition on anything
else is never taken there, whenever it was added.

* `Terminal.SameShow`, `Terminal.SameTests`: outcomes and automata that show the same.
* `Terminal.sameShow_of_read_eq`: equal runs are shown alike.
* `Construction.isUnread`: a call that adds a transition on anything but a single character.
* `Dfa.SameLetters`, `Nfa.SameLetters`: automata that differ in such transitions only.
* `Dfa.SameLetters.buildAll_filter`, `Nfa.SameLetters.buildAll_filter`: any history without such calls.
* `runs_are_local`: runs, tests and traces of automata after any calls.
-/

/-! ### What is shown -/

namespace Terminal

/-- Two outcomes show, report and ask for the same and are broken off for the same reason. -/
structure SameShow (o o' : Outcome) : Prop where
  output : o.output = o'.output
  report : o.report = o'.report
  pictures : o.pictures = o'.pictures
  fault : o.fault = o'.fault

/-- The two automata can not be told apart by tests and traces. -/
def SameTests (a b : Automaton) : Prop :=
  ∀ (renderer : Renderer) (name : String) (arguments : List String), ∀ action ∈ [.test, .trace],
    SameShow (Action.perform renderer name arguments a action)
      (Action.perform renderer name arguments b action)

variable {a b : Automaton}

theorem sameShow_judgeWord {word : String} (h : a.judge (.text word) = b.judge (.text word))
    (shown : String) : SameShow (judgeWord a word shown) (judgeWord b word shown) := by
  rw [judgeWord_def, judgeWord_def, h]
  cases b.judge (.text word) <;> exact ⟨rfl, rfl, rfl, rfl⟩

theorem sameShow_traceWord {arguments : List String}
    (hsimulate : a.simulate (.text (wordArgument arguments)) =
      b.simulate (.text (wordArgument arguments)))
    (hjudge : a.judge (.text (wordArgument arguments)) = b.judge (.text (wordArgument arguments))) :
    SameShow (traceWord a arguments) (traceWord b arguments) := by
  simp only [traceWord_def, hsimulate]
  cases b.simulate (.text (wordArgument arguments)) with
  | error fault => exact ⟨rfl, rfl, rfl, rfl⟩
  | ok run =>
    by_cases hnothing : sawNothing run = true
    · simp only [hnothing, if_true]
      exact ⟨rfl, rfl, rfl, rfl⟩
    · simp only [hnothing]
      exact sameShow_judgeWord hjudge _

/-- Equal runs are shown alike. -/
theorem sameShow_of_read_eq {arguments : List String}
    (h : a.simulate (.text (wordArgument arguments)) = b.simulate (.text (wordArgument arguments)) ∧
      a.judge (.text (wordArgument arguments)) = b.judge (.text (wordArgument arguments)))
    (renderer : Renderer) (name : String) {action : Action} (haction : action ∈ [.test, .trace]) :
    SameShow (Action.perform renderer name arguments a action)
      (Action.perform renderer name arguments b action) := by
  rcases List.mem_pair.1 haction with rfl | rfl
  · exact sameShow_judgeWord h.2 ""
  · exact sameShow_traceWord h.1 h.2

end Terminal

/-! ### Symbols that are no letters -/

/-- The value is a text of a single character. -/
def Value.isLetter : Value → Bool
  | .text s => s.toList.length == 1
  | _ => false

/-- The call adds a transition on anything but a single character. -/
def Construction.isUnread : Construction → Bool
  | .addTransition _ symbol _ => !symbol.isLetter
  | _ => false

theorem Value.isLetter_ofChar (c : Char) : (Value.ofChar c).isLetter = true := by
  simp [ofChar, isLetter]

/-- A letter is spelled in one way. -/
theorem Symbol.isLetter_of_beq {a : Symbol} {c : Char} (h : (a == Symbol.ofChar c) = true) :
    a.value.isLetter = true := by
  have hsame : (Value.text (String.singleton c)).same a.value = true :=
    Value.same_iff.2 (Symbol.beq_iff.1 h).symm
  rw [Value.eq_of_same_text hsame]
  exact Value.isLetter_ofChar c

theorem Construction.not_isLetter_of_isUnread {source symbol target : Value} {a : Symbol}
    (hcall : (addTransition source symbol target).isUnread = true) (ha : symbol.symbol = .ok a) :
    a.value.isLetter = false := by
  rw [← Value.eq_value_of_symbol ha]
  simpa [isUnread] using hcall

/-- A departure on a letter is not one on anything else. -/
theorem Departure.ne_of_not_isLetter {a : Symbol} (ha : a.value.isLetter = false) (s s' : Nat)
    (c : Char) : ((⟨s, a⟩ : Departure) == ⟨s', .ofChar c⟩) = false := by
  rw [Bool.eq_false_iff]
  intro h
  have hletter := Symbol.isLetter_of_beq (Departure.beq_iff.1 h).2
  rw [ha] at hletter
  cases hletter

/-! ### Deterministic automata -/

namespace Dfa

/-- The two automata have the same states, and every state goes to the same state on each letter. -/
structure SameLetters (d e : Dfa) : Prop where
  space : d.toStateSpace = e.toStateSpace
  target? : ∀ s c, d.target? s (.ofChar c) = e.target? s (.ofChar c)

variable {d e : Dfa}

theorem SameLetters.refl (d : Dfa) : d.SameLetters d := ⟨rfl, fun _ _ => rfl⟩

theorem SameLetters.symm (h : d.SameLetters e) : e.SameLetters d :=
  ⟨h.space.symm, fun s c => (h.target? s c).symm⟩

theorem SameLetters.trans {f : Dfa} (h : d.SameLetters e) (h' : e.SameLetters f) :
    d.SameLetters f :=
  ⟨h.space.trans h'.space, fun s c => (h.target? s c).trans (h'.target? s c)⟩

/-- The same call on both automata makes no difference between them. -/
theorem SameLetters.build (h : d.SameLetters e) (call : Construction) :
    (d.build call).automaton.SameLetters (e.build call).automaton := by
  have hvalidate : d.validate = e.validate := by rw [h.space]
  cases call with
  | addState accepting =>
    simp only [Dfa.build, h.space]
    exact ⟨rfl, h.target?⟩
  | addTransition source symbol target =>
    simp only [Dfa.build, addTransition, hvalidate]
    cases e.validate source with
    | error fault => exact h
    | ok s =>
      cases e.validate target with
      | error fault => exact h
      | ok t =>
        cases symbol.symbol with
        | error fault => exact h
        | ok a =>
          refine ⟨h.space, fun s' c => ?_⟩
          show (d.connect s a t).target? s' (.ofChar c) = (e.connect s a t).target? s' (.ofChar c)
          rw [target?_connect, target?_connect, h.target?]
  | addEpsilon source target => exact h
  | setInitial state =>
    simp only [Dfa.build, h.space]
    exact ⟨rfl, h.target?⟩

/-- A transition that is not on a letter makes no difference on letters. -/
theorem sameLetters_of_isUnread {call : Construction} (hcall : call.isUnread = true) :
    d.SameLetters (d.build call).automaton := by
  cases call with
  | addTransition source symbol target =>
    rw [build]
    cases hadd : d.addTransition source symbol target with
    | error fault => exact .refl d
    | ok result =>
      obtain ⟨s, a, t, -, ha, -, hconnect, -⟩ := addTransition_eq_ok_iff.1 hadd
      have hletter := Construction.not_isLetter_of_isUnread hcall ha
      simp only [hconnect]
      refine ⟨rfl, fun s' c => ?_⟩
      rw [target?_connect, Departure.ne_of_not_isLetter hletter, if_neg Bool.false_ne_true]
  | addState | addEpsilon | setInitial => cases hcall

/-- Automata that differ in such transitions only still do when all further ones are left out in one of
    them. -/
theorem SameLetters.buildAll_filter (h : d.SameLetters e) (calls : List Construction) :
    (d.buildAll calls).SameLetters (e.buildAll (calls.filter (!·.isUnread))) := by
  induction calls generalizing d e with
  | nil => exact h
  | cons call rest ih =>
    rw [List.filter_cons]
    cases hcall : call.isUnread with
    | true => exact ih ((sameLetters_of_isUnread hcall).symm.trans h)
    | false => exact ih (h.build call)

end Dfa

/-! ### Nondeterministic automata -/

namespace Nfa

/-- The two automata have the same states, and every state goes to the same states on each letter and
    without reading. -/
structure SameLetters (n m : Nfa) : Prop where
  space : n.toStateSpace = m.toStateSpace
  targets : ∀ s c, n.targets s (.ofChar c) = m.targets s (.ofChar c)
  epsilonTargets : n.epsilonTargets = m.epsilonTargets

variable {n m : Nfa}

theorem Similar.sameLetters (h : n.Similar m) : n.SameLetters m :=
  ⟨h.space, fun _ _ => by rw [h.targets], h.epsilonTargets⟩

theorem SameLetters.symm (h : n.SameLetters m) : m.SameLetters n :=
  ⟨h.space.symm, fun s c => (h.targets s c).symm, h.epsilonTargets.symm⟩

theorem SameLetters.trans {k : Nfa} (h : n.SameLetters m) (h' : m.SameLetters k) :
    n.SameLetters k :=
  ⟨h.space.trans h'.space, fun s c => (h.targets s c).trans (h'.targets s c),
    h.epsilonTargets.trans h'.epsilonTargets⟩

theorem SameLetters.connect (h : n.SameLetters m) (s : Nat) (a : Symbol) (t : Nat) :
    (n.connect s a t).SameLetters (m.connect s a t) := by
  refine ⟨h.space, fun s' c => ?_, h.epsilonTargets⟩
  simp only [targets_connect]
  split
  · rename_i hdeparture
    -- the departure is one on this letter, in whatever spelling
    have htargets : ∀ k : Nfa, k.targets s a = k.targets s' (.ofChar c) := fun k => by
      rw [Nfa.targets, Nfa.targets, Ledger.get?_congr hdeparture]
    rw [htargets n, htargets m, h.targets]
  · exact h.targets s' c

/-- The same call on both automata makes no difference between them. -/
theorem SameLetters.build (h : n.SameLetters m) (call : Construction) :
    (n.build call).automaton.SameLetters (m.build call).automaton := by
  have hvalidate : n.validate = m.validate := by rw [h.space]
  cases call with
  | addState accepting =>
    simp only [Nfa.build, h.space]
    exact ⟨rfl, h.targets, h.epsilonTargets⟩
  | addTransition source symbol target =>
    simp only [Nfa.build, addTransition, hvalidate]
    split
    · exact h
    · rename_i s a _
      cases m.validate target with
      | error fault =>
        -- what is left of the refused call is an empty entry in both automata
        exact (similar_reserve n s a).symm.sameLetters.trans
          (h.trans (similar_reserve m s a).sameLetters)
      | ok t => exact h.connect s a t
  | addEpsilon source target =>
    simp only [Nfa.build, addEpsilon, hvalidate]
    cases m.validate source with
    | error fault => exact h
    | ok s =>
      cases m.validate target with
      | error fault =>
        exact (similar_reserveEpsilon n s).symm.sameLetters.trans
          (h.trans (similar_reserveEpsilon m s).sameLetters)
      | ok t =>
        refine ⟨h.space, h.targets, ?_⟩
        show (n.connectEpsilon s t).epsilonTargets = (m.connectEpsilon s t).epsilonTargets
        rw [epsilonTargets_connectEpsilon, epsilonTargets_connectEpsilon, h.epsilonTargets]
  | setInitial state =>
    simp only [Nfa.build, h.space]
    exact ⟨rfl, h.targets, h.epsilonTargets⟩

/-- A transition that is not on a letter makes no difference on letters. -/
theorem sameLetters_of_isUnread {call : Construction} (hcall : call.isUnread = true) :
    n.SameLetters (n.build call).automaton := by
  cases call with
  | addTransition source symbol target =>
    cases hadd : (n.addTransition source symbol target).2 with
    | error fault =>
      have hrefused : (n.build (.addTransition source symbol target)).result = .error fault := by
        simp only [build, hadd]
        rfl
      exact (similar_of_refused hrefused).sameLetters
    | ok _ =>
      obtain ⟨s, a, t, -, ha, -, hconnect⟩ := addTransition_eq_ok_iff.1 (Prod.ext rfl hadd)
      have hletter := Construction.not_isLetter_of_isUnread hcall ha
      simp only [build, hconnect]
      refine ⟨rfl, fun s' c => ?_, rfl⟩
      simp only [targets_connect, Departure.ne_of_not_isLetter hletter, Bool.false_eq_true, if_false]
  | addState | addEpsilon | setInitial => cases hcall

theorem SameLetters.buildAll_filter (h : n.SameLetters m) (calls : List Construction) :
    (n.buildAll calls).SameLetters (m.buildAll (calls.filter (!·.isUnread))) := by
  induction calls generalizing n m with
  | nil => exact h
  | cons call rest ih =>
    rw [List.filter_cons]
    cases hcall : call.isUnread with
    | true => exact ih ((sameLetters_of_isUnread hcall).symm.trans h)
    | false => exact ih (h.build call)

end Nfa

/-! ### Automata of either kind -/

namespace Automaton

/-- Automata that differ in such transitions only agree on the letters of every word. -/
theorem agreeOn_dfa_of_sameLetters {d e : Dfa} (h : d.SameLetters e) (word : List Char) :
    (dfa d).AgreeOn (dfa e) (word.map .ofChar) where
  kind := rfl
  flags := congrArg (·.flags) h.space
  initial := congrArg (·.initial?) h.space
  epsilonTransitions _ := Iff.rfl
  next s hs c hc := by
    obtain ⟨c, -, rfl⟩ := List.mem_map.1 hc
    have hs' : s < e.size := by rwa [← h.space]
    exact (next_dfa hs _).trans (by rw [h.target?, ← next_dfa hs']; rfl)

theorem agreeOn_nfa_of_sameLetters {n m : Nfa} (h : n.SameLetters m) (hn : n.Sound) (hm : m.Sound)
    (word : List Char) : (nfa n).AgreeOn (nfa m) (word.map .ofChar) where
  kind := rfl
  flags := congrArg (·.flags) h.space
  initial := congrArg (·.initial?) h.space
  epsilonTransitions := by
    rintro ⟨s, t⟩
    show (s, t) ∈ n.epsilonTransitions ↔ (s, t) ∈ m.epsilonTransitions
    rw [← hn.mem_epsilonTargets_iff, ← hm.mem_epsilonTargets_iff, h.epsilonTargets]
  next s hs c hc := by
    obtain ⟨c, -, rfl⟩ := List.mem_map.1 hc
    have hs' : s < m.size := by rwa [← h.space]
    exact (next_nfa hs _).trans (by rw [h.targets, ← next_nfa hs']; rfl)

/-- After two histories that are the same without the calls that add transitions on anything but
    letters, the automata agree on the letters of every word. -/
theorem agreeOn_of_filter_eq {kind : AutomatonKind} {owner : Nat} {calls calls' : List Construction}
    (h : calls.filter (!·.isUnread) = calls'.filter (!·.isUnread)) (word : List Char) :
    ((new kind owner).buildAll calls).1.AgreeOn ((new kind owner).buildAll calls').1
      (word.map .ofChar) := by
  cases kind with
  | dfa =>
    have hleft := (Dfa.SameLetters.refl (.new owner)).buildAll_filter calls
    have hright := (Dfa.SameLetters.refl (.new owner)).buildAll_filter calls'
    rw [new, buildAll_dfa, buildAll_dfa]
    rw [h] at hleft
    exact agreeOn_dfa_of_sameLetters (hleft.trans hright.symm) word
  | nfa =>
    have hleft := (Nfa.Similar.refl (.new owner)).sameLetters.buildAll_filter calls
    have hright := (Nfa.Similar.refl (.new owner)).sameLetters.buildAll_filter calls'
    rw [new, buildAll_nfa, buildAll_nfa]
    rw [h] at hleft
    exact agreeOn_nfa_of_sameLetters (hleft.trans hright.symm) (Nfa.sound_buildAll_new owner calls)
      (Nfa.sound_buildAll_new owner calls') word

/-- What follows for two automata from agreeing on the symbols of a word. -/
structure LocalRuns (a b : Automaton) : Prop where
  /-- The same is seen while the word is read, and it is judged alike behind as many symbols. -/
  read : ∀ (word : Value) (symbols : List Symbol), word.items? = some (symbols.map (·.value)) →
    a.AgreeOn b symbols → a.simulate word = b.simulate word ∧ a.judge word = b.judge word
  /-- Where the word is one at the terminal, tests and traces show the same. -/
  shown : ∀ (renderer : Renderer) (name : String) (arguments : List String),
    a.AgreeOn b ((Terminal.wordArgument arguments).toList.map .ofChar) →
      ∀ action ∈ [.test, .trace],
        Terminal.SameShow (Terminal.Action.perform renderer name arguments a action)
          (Terminal.Action.perform renderer name arguments b action)

theorem localRuns {a b : Automaton} (ha : a.Sound) (hb : b.Sound) : a.LocalRuns b where
  read _ _ hword h := h.read_eq ha hb hword
  shown renderer name _ h _ haction :=
    Terminal.sameShow_of_read_eq (h.read_eq ha hb (Value.items?_text _)) renderer name haction

/-- **A run depends only on the edges for the symbols of its word.** After any calls, automata that
    agree on these symbols read and judge the word alike, and the terminal shows the same of it. In
    particular, calls that add transitions on anything but single characters never change a test or a
    trace, wherever in a history they are made. -/
theorem runs_are_local (kind : AutomatonKind) (owner owner' : Nat)
    (calls calls' : List Construction) :
    ((new kind owner).buildAll calls).1.LocalRuns ((new kind owner').buildAll calls').1 ∧
      (owner = owner' → calls.filter (!·.isUnread) = calls'.filter (!·.isUnread) →
        Terminal.SameTests ((new kind owner).buildAll calls).1
          ((new kind owner').buildAll calls').1) := by
  have hlocal := localRuns (sound_buildAll_new kind owner calls)
    (sound_buildAll_new kind owner' calls')
  refine ⟨hlocal, ?_⟩
  rintro rfl hcalls renderer name arguments action haction
  exact hlocal.shown renderer name arguments (agreeOn_of_filter_eq hcalls _) action haction

/-- One more transition on `b` does not show in runs over `a`, though it does in runs over `b`, and one
    on `ab` shows in no test and no trace. -/
theorem other_symbols_are_local :
    ((new .nfa 0).buildAll returnCalls).1.AgreeOn
        ((new .nfa 0).buildAll (returnCalls ++ [transitionCall 0 ⟨0, letterB, 1⟩])).1 [letterA] ∧
      ((new .nfa 0).buildAll returnCalls).1.simulate (.text "b") ≠
        ((new .nfa 0).buildAll (returnCalls ++ [transitionCall 0 ⟨0, letterB, 1⟩])).1.simulate
          (.text "b") ∧
      ((new .nfa 0).buildAll returnCalls).1.simulate (.text "a") =
        ((new .nfa 0).buildAll (returnCalls ++ [transitionCall 0 ⟨0, letterB, 1⟩])).1.simulate
          (.text "a") ∧
      Terminal.SameTests ((new .nfa 0).buildAll returnCalls).1
        ((new .nfa 0).buildAll
          (returnCalls ++ [transitionCall 0 ⟨0, ⟨.text "ab", rfl⟩, 1⟩])).1 := by
  have hword : (Value.text "a").items? = some ([letterA].map Symbol.value) := by decide +kernel
  have hagree : ((new .nfa 0).buildAll returnCalls).1.AgreeOn
      ((new .nfa 0).buildAll (returnCalls ++ [transitionCall 0 ⟨0, letterB, 1⟩])).1 [letterA] := by
    refine ⟨rfl, by decide +kernel, by decide +kernel, fun e => ?_, by decide +kernel⟩
    have hepsilons : ((new .nfa 0).buildAll returnCalls).1.epsilonTransitions =
        ((new .nfa 0).buildAll
          (returnCalls ++ [transitionCall 0 ⟨0, letterB, 1⟩])).1.epsilonTransitions := by
      decide +kernel
    rw [hepsilons]
  have hfilter : returnCalls.filter (!·.isUnread) =
      (returnCalls ++ [transitionCall 0 ⟨0, ⟨.text "ab", rfl⟩, 1⟩]).filter (!·.isUnread) := by
    decide +kernel
  exact ⟨hagree, by decide +kernel,
    ((runs_are_local .nfa 0 0 returnCalls _).1.read _ _ hword hagree).1,
    (runs_are_local .nfa 0 0 returnCalls _).2 rfl hfilter⟩

end Automaton

end FiniteAutomata

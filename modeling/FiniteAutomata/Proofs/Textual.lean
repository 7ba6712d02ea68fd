import FiniteAutomata.Proofs.Automaton.Asking
import FiniteAutomata.Proofs.Dfa.Run
import FiniteAutomata.Proofs.Nfa.Run
import FiniteAutomata.Proofs.Transition
import FiniteAutomata.Sample

namespace FiniteAutomata

/-!
# Automata on texts

A text is its own wording, so that an automaton whose symbols are all texts can always be drawn and
described. Calls that give texts as symbols build no other automata.

* `Construction.GivesText`: the symbol that is given, if any, is a text.
* `Automaton.Textual`: every symbol in the table is a text.
* `Automaton.Textual.build`, `Automaton.Textual.buildAll`: one call and any number of calls that give
  texts keep it so.
* `Automaton.transitionLines_eq`, `Automaton.symbolEdges_eq`: what is described and drawn.
* `Automaton.exists_simulate_text`, `Automaton.exists_judge_text`: every automaton reads every text.
-/

/-- The symbol is a text. -/
def Symbol.IsText (a : Symbol) : Prop := ∃ s, a.value = .text s

/-- The call gives a text where it gives a symbol. -/
def Construction.GivesText : Construction → Prop
  | .addTransition _ symbol _ => ∃ s, symbol = .text s
  | _ => True

/-! ### Tables on texts -/

theorem Symbol.IsText.of_symbol {v : Value} {a : Symbol} (hv : ∃ s, v = .text s)
    (h : v.symbol = .ok a) : a.IsText := by
  obtain ⟨s, rfl⟩ := hv
  cases h
  exact ⟨s, rfl⟩

namespace Dfa

/-- Every symbol in the table is a text. -/
def Textual (d : Dfa) : Prop := ∀ k t, (k, t) ∈ d.edges → k.symbol.IsText

theorem Textual.build {d : Dfa} (h : d.Textual) {call : Construction} (hcall : call.GivesText) :
    (d.build call).automaton.Textual := by
  cases call with
  | addState accepting => exact h
  | addEpsilon source target => exact h
  | setInitial state =>
    rw [Dfa.build, StateSpace.buildInitial]
    cases hs : d.setInitial state with
    | error fault => exact h
    | ok space => exact h
  | addTransition source symbol target =>
    rw [Dfa.build]
    cases hd : d.addTransition source symbol target with
    | error fault => exact h
    | ok result =>
      obtain ⟨s, a, t, -, ha, -, hconnect, -⟩ := addTransition_eq_ok_iff.1 hd
      simp only [hconnect]
      have htext : a.IsText := .of_symbol hcall ha
      exact Ledger.forall_key_update h htext

end Dfa

namespace Nfa

/-- Every symbol in the table is a text, also where the entry is empty. -/
def Textual (n : Nfa) : Prop := ∀ k set, (k, set) ∈ n.edges → k.symbol.IsText

theorem Textual.build {n : Nfa} (h : n.Textual) {call : Construction} (hcall : call.GivesText) :
    (n.build call).automaton.Textual := by
  cases call with
  | addState accepting => exact h
  | addEpsilon source target =>
    -- the table of epsilon transitions is another one
    simp only [Nfa.build, addEpsilon]
    cases n.validate source with
    | error fault => exact h
    | ok s => cases n.validate target <;> exact h
  | setInitial state =>
    rw [Nfa.build, StateSpace.buildInitial]
    cases hs : n.setInitial state with
    | error fault => exact h
    | ok space => exact h
  | addTransition source symbol target =>
    simp only [Nfa.build, addTransition]
    cases n.validate source with
    | error fault => exact h
    | ok s =>
      cases ha : symbol.symbol with
      | error fault => exact h
      | ok a =>
        have htext : a.IsText := .of_symbol hcall ha
        simp only [ok_bind, pure_eq_ok]
        cases n.validate target with
        | error fault => exact Ledger.forall_key_update h htext
        | ok t => exact Ledger.forall_key_update h htext

end Nfa

namespace Automaton

/-- Every symbol in the table is a text. -/
def Textual : Automaton → Prop
  | .dfa d => d.Textual
  | .nfa n => n.Textual

theorem textual_new (kind : AutomatonKind) (owner : Nat) : (new kind owner).Textual := by
  cases kind with
  | dfa => exact fun _ _ hmem => nomatch hmem
  | nfa => exact fun _ _ hmem => nomatch hmem

variable {a : Automaton}

/-- A call that gives a text, or no symbol, puts no other symbol into the table. -/
theorem Textual.build (h : a.Textual) {call : Construction} (hcall : call.GivesText) :
    (a.build call).automaton.Textual := by
  cases a with
  | dfa d => exact Dfa.Textual.build h hcall
  | nfa n => exact Nfa.Textual.build h hcall

theorem Textual.buildAll (h : a.Textual) {calls : List Construction}
    (hcalls : ∀ call ∈ calls, call.GivesText) : (a.buildAll calls).1.Textual := by
  induction calls generalizing a with
  | nil => exact h
  | cons call rest ih =>
    obtain ⟨hcall, hrest⟩ := List.forall_mem_cons.1 hcalls
    exact ih (h.build hcall) hrest

/-- The symbols of the samples are texts. -/
theorem textual_sample (sample : Sample) (owner : Nat) : (sample.automaton owner).Textual := by
  refine (textual_new _ owner).buildAll ?_
  cases sample <;> simp [Sample.steps, Construction.GivesText]

theorem Textual.onlyTexts (h : a.Textual) : OnlyTexts a.transitions := by
  intro t ht
  cases a with
  | dfa d =>
    obtain ⟨⟨k, t'⟩, hmem, rfl⟩ := List.mem_map.1 ht
    exact h k t' hmem
  | nfa n =>
    obtain ⟨⟨k, set⟩, hmem, ht⟩ := List.mem_flatMap.1 ht
    obtain ⟨t', -, rfl⟩ := List.mem_map.1 ht
    exact h k set hmem

end Automaton

/-! ### Descriptions and drawings -/

/-- The text of a symbol that is one. -/
def Transition.symbolText (t : Transition) : String :=
  match t.symbol.value with
  | .text s => s
  | _ => ""

/-- The line of a transition on a text. -/
def Transition.line (t : Transition) : TransitionLine := ⟨t.source, t.symbolText, t.target⟩

/-- The edge to draw for a transition on a text. -/
def Transition.labelled (t : Transition) : LabelledEdge :=
  ⟨t.source, t.target, textLabel t.symbolText⟩

/-- What is made of the text of each symbol, where all symbols are texts. -/
theorem OnlyTexts.mapM_eq {ts : List Transition} (h : OnlyTexts ts) {α : Type}
    {f : Transition → Except Fault α} {g : Transition → α}
    (hf : ∀ t s, t.symbol.value = .text s → f t = .ok (g t)) : ts.mapM f = .ok (ts.map g) := by
  refine mapM_eq_ok_iff.2 (List.forall₂_map_right_iff.2 (List.forall₂_same.2 fun t ht => ?_))
  obtain ⟨s, hs⟩ := h t ht
  exact hf t s hs

namespace Automaton

variable {a : Automaton} (h : OnlyTexts a.transitions)
include h

theorem transitionLines_eq :
    a.transitionLines =
      .ok (Ascending.sort TransitionLine.before (a.transitions.map Transition.line)) := by
  rw [transitionLines, transitionLinesOf, h.mapM_eq (g := Transition.line) fun t s hs => ?_]
  · rfl
  · rw [hs, Transition.line, Transition.symbolText, hs]
    rfl

theorem symbolEdges_eq : a.symbolEdges = .ok (a.transitions.map Transition.labelled) := by
  refine h.mapM_eq fun t s hs => ?_
  rw [labelOf, hs, Transition.labelled, Transition.symbolText, hs]
  rfl

theorem exists_description (name : String) : ∃ text, a.description name = .ok text := by
  rw [description_def, Listing.description, listing, ← transitionLines, transitionLines_eq h]
  exact ⟨_, rfl⟩

theorem exists_drawing : ∃ drawing, a.drawing = .ok drawing := by
  rw [drawing_def, symbolEdges_eq h]
  exact ⟨_, rfl⟩

theorem exists_dot : ∃ text, a.dot = .ok text := by
  obtain ⟨drawing, hdrawing⟩ := exists_drawing h
  rw [dot_def, hdrawing]
  exact ⟨_, rfl⟩

end Automaton

/-! ### Texts as words -/

/-- A character as a symbol. -/
def Symbol.ofChar (c : Char) : Symbol := ⟨.ofChar c, rfl⟩

theorem Value.items?_text (s : String) :
    (Value.text s).items? = some ((s.toList.map Symbol.ofChar).map (·.value)) := by
  rw [items?, ofText, List.map_map]
  rfl

theorem Value.items?_ofList (word : List Char) :
    (Value.text (String.ofList word)).items? = some ((word.map Symbol.ofChar).map (·.value)) := by
  rw [items?_text, String.toList_ofList]

namespace Automaton

/-- Every automaton can read every text. -/
theorem exists_simulate_text (a : Automaton) (s : String) :
    ∃ run, a.simulate (.text s) = .ok run := by
  cases a with
  | dfa d =>
    obtain ⟨path, -, hpath, -⟩ := d.exists_read (Value.items?_text s)
    exact ⟨.path path, by rw [simulate_dfa, hpath]; rfl⟩
  | nfa n =>
    obtain ⟨sets, -, hsets, -⟩ := n.exists_read (Value.items?_text s)
    exact ⟨.trail sets, by rw [simulate_nfa, hsets]; rfl⟩

/-- Every automaton has a verdict on every text. -/
theorem exists_judge_text (a : Automaton) (s : String) : ∃ v, a.judge (.text s) = .ok v := by
  cases a with
  | dfa d =>
    obtain ⟨-, v, -, hv⟩ := d.exists_read (Value.items?_text s)
    exact ⟨v, by rw [judge_dfa, hv]⟩
  | nfa n =>
    obtain ⟨-, v, -, hv⟩ := n.exists_read (Value.items?_text s)
    exact ⟨v, by rw [judge_nfa, hv]⟩

end Automaton

end FiniteAutomata

import FiniteAutomata.Proofs.Account
import FiniteAutomata.Proofs.Contents
import FiniteAutomata.Proofs.Safety

namespace FiniteAutomata

/-!
# A description determines the automaton

An automaton on texts without white space is known from its description up to the order in which its
transitions were added, and nothing of that order shows in the description. The name stands in front of
everything else and has no part in it, whatever it is. The numbers in the description count the lines
below them.

* `Automaton.SameDescription`: what two automata share that are described alike.
* `Automaton.Counted`: the numbers in a description and the lines below them.
* `Automaton.Sound.sameContents`, `Automaton.sameDescription_of_account_eq`: sameness of automata and
  of what is said of them.
* `Automaton.description_eq_body`: the name and the other lines.
* `Automaton.description_eq_iff_sameDescription`: the description determines what is shared and nothing
  else.
-/

theorem TransitionLine.named_injective : Function.Injective TransitionLine.named := by
  rintro ⟨s, c, t⟩ ⟨s', c', t'⟩ h
  simp only [named, Prod.mk.injEq] at h
  obtain ⟨hs, rfl, ht⟩ := h
  rw [stateName_injective hs, stateName_injective ht]

namespace Automaton

/-- What two automata share that are described alike. -/
structure SameDescription (a b : Automaton) : Prop where
  kind : a.kind = b.kind
  size : a.space.size = b.space.size
  initial : a.space.initial? = b.space.initial?
  accepts : ∀ s < a.space.size, a.space.accepts s = b.space.accepts s
  transitions : ∀ t, t ∈ a.transitions ↔ t ∈ b.transitions
  epsilonTransitions : ∀ e, e ∈ a.epsilonTransitions ↔ e ∈ b.epsilonTransitions

/-- All symbols are texts without white space. -/
def Unspaced (a : Automaton) : Prop :=
  ∀ t ∈ a.transitions, ∃ s, t.symbol.value = .text s ∧ Text.Unbroken s

/-- Behind the name the text has four lines about the states, then the number of the lines that follow
    it, one for each transition, and for a nondeterministic automaton the same for its epsilon
    transitions. -/
def Counted (a : Automaton) (name text : String) : Prop :=
  ∃ body edges silent, text = "\n" ++ name ++ ":\n" ++ body ∧
    Text.linesOf body =
      ["  Type: " ++ a.kind.shortName,
       "  States: " ++ a.space.size.repr,
       "  Start: " ++ stateOrNone a.space.initial?,
       "  Accepting: " ++ stateSet a.acceptingStates,
       "  Transitions: " ++ (List.length edges).repr] ++ edges.map TransitionLine.text ++
      (match a.kind with
        | .dfa => []
        | .nfa => ("  Epsilon transitions: " ++ (List.length silent).repr) ::
            silent.map TransitionLine.text) ++ [""]

variable {a b : Automaton}

/-! ### Contents -/

theorem Sound.nodup_transitions (h : a.Sound) : a.transitions.Nodup := by
  cases a with
  | dfa d => exact (Dfa.Sound.nodup_edges h).of_map _
  | nfa n => exact (Nfa.Sound.nodup_edges h).of_map _

theorem Sound.nodup_epsilonTransitions (h : a.Sound) : a.epsilonTransitions.Nodup := by
  cases a with
  | dfa d => exact List.nodup_nil
  | nfa n => exact Nfa.Sound.nodup_epsilonTransitions h

/-- What is shared are the contents: nothing is listed twice, so only the order is free. -/
theorem Sound.sameContents (ha : a.Sound) (hb : b.Sound) (h : a.SameDescription b) :
    a.SameContents b where
  kind := h.kind
  flags := by
    rw [← Registry.map_accepts_range, ← Registry.map_accepts_range, ← h.size]
    exact List.map_congr_left fun s hs => h.accepts s (List.mem_range.1 hs)
  initial := h.initial
  transitions := (List.perm_ext_iff_of_nodup ha.nodup_transitions hb.nodup_transitions).2
    fun t => h.transitions t
  epsilonTransitions :=
    (List.perm_ext_iff_of_nodup ha.nodup_epsilonTransitions hb.nodup_epsilonTransitions).2
      fun e => h.epsilonTransitions e

namespace Unspaced

theorem onlyTexts (h : a.Unspaced) : OnlyTexts a.transitions := by
  intro t ht
  obtain ⟨s, hs, -⟩ := h t ht
  exact ⟨s, hs⟩

theorem value_eq (h : a.Unspaced) {t : Transition} (ht : t ∈ a.transitions) :
    t.symbol.value = .text t.symbolText := by
  obtain ⟨s, hs, -⟩ := h t ht
  rw [Transition.symbolText, hs]

theorem unbroken (h : a.Unspaced) : ∀ t ∈ a.transitions, Text.Unbroken t.symbolText := by
  intro t ht
  obtain ⟨s, hs, hunbroken⟩ := h t ht
  rw [Transition.symbolText, hs]
  exact hunbroken

/-- The lines of a description tell of the transitions and of nothing else. -/
theorem mem_transitions_iff (h : a.Unspaced) {t : Transition} :
    t ∈ a.transitions ↔ t ∈ a.sortedLines.map TransitionLine.transition :=
  (perm_transition_sortedLines fun _ ht => h.value_eq ht).mem_iff.symm

end Unspaced

/-! ### What is said -/

theorem epsilonTransitions_account (a : Automaton) :
    a.account.epsilonTransitions =
      (Ascending.sort pairBefore a.epsilonTransitions).map (Prod.map stateName stateName) := by
  rw [account, epsilonLines, epsilonLinesOf, List.map_map, List.map_map]
  rfl

/-- Automata of which the same is said share all that shows. -/
theorem sameDescription_of_account_eq (ha : a.Unspaced) (hb : b.Unspaced)
    (h : a.account = b.account) : a.SameDescription b where
  kind := congrArg Account.kind h
  size := congrArg Account.size h
  initial := Option.map_injective stateName_injective (congrArg Account.start h)
  accepts := by
    -- different states have different names
    have haccepting : a.acceptingStates = b.acceptingStates :=
      List.map_injective_iff.2 stateName_injective (congrArg Account.accepting h)
    intro s hs
    have hs' : s < b.space.size := Nat.lt_of_lt_of_eq hs (congrArg Account.size h)
    rw [← contains_acceptingStates a hs, ← contains_acceptingStates b hs', haccepting]
  transitions := by
    have hlines : a.sortedLines = b.sortedLines :=
      List.map_injective_iff.2 TransitionLine.named_injective (congrArg Account.transitions h)
    intro t
    rw [ha.mem_transitions_iff, hb.mem_transitions_iff, hlines]
  epsilonTransitions := by
    have hnames := congrArg Account.epsilonTransitions h
    rw [epsilonTransitions_account, epsilonTransitions_account] at hnames
    have hsorted : Ascending.sort pairBefore a.epsilonTransitions =
        Ascending.sort pairBefore b.epsilonTransitions :=
      List.map_injective_iff.2 (stateName_injective.prodMap stateName_injective) hnames
    -- lists that are equal once they are sorted have the same items
    have hperm := hsorted ▸ Ascending.perm_sort a.epsilonTransitions
    exact fun e => hperm.symm.mem_iff.trans (Ascending.perm_sort b.epsilonTransitions).mem_iff

/-! ### The name and the other lines -/

/-- The lines of a description behind the name. -/
def bodyLines (a : Automaton) : List String :=
  (a.heading "").drop 2 ++ (a.sortedLines.map TransitionLine.text ++ (a.epsilonSection ++ [""]))

theorem describedLines_eq (a : Automaton) (name : String) :
    a.describedLines name = "" :: (name ++ ":") :: a.bodyLines := rfl

/-- The name stands in front of everything else. -/
theorem description_eq_body (h : OnlyTexts a.transitions) (name : String) :
    a.description name = .ok ("\n" ++ name ++ ":\n" ++ "\n".intercalate a.bodyLines) := by
  have hcolon : ":\n" = ":" ++ "\n" := by decide
  obtain ⟨line, rest, hlines⟩ : ∃ line rest, a.bodyLines = line :: rest := ⟨_, _, rfl⟩
  rw [description_eq_describedLines h, describedLines_eq, hlines, String.intercalate_cons_cons,
    String.intercalate_cons_cons, hcolon]
  simp only [String.append_assoc, String.empty_append]

theorem isLine_bodyLines (h : a.Unspaced) : ∀ l ∈ a.bodyLines, Text.IsLine l := by
  have hname : Text.IsWord "m" := by decide
  have hlines := isLine_describedLines h.unbroken hname
  rw [describedLines_eq] at hlines
  exact fun l hl => hlines l (List.mem_cons_of_mem _ (List.mem_cons_of_mem _ hl))

theorem linesOf_bodyLines (h : a.Unspaced) :
    Text.linesOf ("\n".intercalate a.bodyLines) = a.bodyLines :=
  Text.linesOf_intercalate (isLine_bodyLines h) (List.cons_ne_nil _ _)

/-- The numbers of transitions are those of the lines below. -/
theorem counted_description (h : a.Unspaced) (name : String) :
    a.Counted name ("\n" ++ name ++ ":\n" ++ "\n".intercalate a.bodyLines) := by
  have hcount : a.transitionCount = a.sortedLines.length := by
    rw [sortedLines, (Ascending.perm_sort _).length_eq, List.length_map, length_transitions]
  refine ⟨_, a.sortedLines, a.epsilonLines, rfl, ?_⟩
  rw [linesOf_bodyLines h, bodyLines, heading, hcount]
  cases a with
  | dfa d => simp [epsilonSection, Listing.epsilonSection, listing, kind]
  | nfa n =>
    have hepsilons : n.epsilonCount = (nfa n).epsilonLines.length := by
      rw [epsilonLines, epsilonLinesOf, List.length_map, (Ascending.perm_sort _).length_eq,
        ← n.length_epsilonTransitions]
      rfl
    have hsection : (nfa n).epsilonSection = ("  Epsilon transitions: " ++ n.epsilonCount.repr) ::
        (nfa n).epsilonLines.map TransitionLine.text := rfl
    simp [hsection, kind, hepsilons]

/-- Only automata of which the same is said are described alike, whatever the name is. -/
theorem account_eq_of_bodyLines_eq (ha : a.Unspaced) (hb : b.Unspaced)
    (h : "\n".intercalate a.bodyLines = "\n".intercalate b.bodyLines) : a.account = b.account := by
  -- the descriptions are read under a name that is a word
  have hname : Text.IsWord "m" := by decide
  have hread := Account.read_description ha.onlyTexts ha.unbroken hname
    (description_eq_body ha.onlyTexts "m")
  rw [h, Account.read_description hb.onlyTexts hb.unbroken hname
    (description_eq_body hb.onlyTexts "m")] at hread
  exact (Option.some.inj hread).symm

/-- **A description determines the automaton and shows nothing of its history.** After any calls, two
    automata on texts without white space are described alike under any name exactly if they have the
    same kind, states, initial state and transitions. The numbers of transitions in the description are
    those of the lines that follow. In whatever order the states and the transitions are gone through to
    write the description, it is the same. -/
theorem description_eq_iff_sameDescription {kind kind' : AutomatonKind} {owner owner' : Nat}
    {calls calls' : List Call} (ha : (new kind owner).after calls = a)
    (hb : (new kind' owner').after calls' = b) (hatexts : a.Unspaced) (hbtexts : b.Unspaced)
    (name : String) :
    ∃ s t, a.description name = .ok s ∧ b.description name = .ok t ∧
      (s = t ↔ a.SameDescription b) ∧ a.Counted name s ∧ b.Counted name t ∧
      ∀ l : Listing, a.listing.SameItems l → l.description name = .ok s := by
  have hasound : a.Sound := ha ▸ sound_after_new kind owner calls
  have hbsound : b.Sound := hb ▸ sound_after_new kind' owner' calls'
  have hs := description_eq_body hatexts.onlyTexts name
  have ht := description_eq_body hbtexts.onlyTexts name
  refine ⟨_, _, hs, ht, ⟨fun h => ?_, fun h => ?_⟩, counted_description hatexts name,
    counted_description hbtexts name, fun l hl => ?_⟩
  · have hbody := (String.append_right_inj _).1 h
    exact sameDescription_of_account_eq hatexts hbtexts
      (account_eq_of_bodyLines_eq hatexts hbtexts hbody)
  · have heq := (hasound.sameContents hbsound h).description_eq hatexts.onlyTexts name
    rw [hs, ht] at heq
    exact Except.ok.inj heq
  · exact Listing.description_congr hl ((a.description_def name).symm.trans hs)

/-- One state with what the call adds. -/
def oneState (call : Construction) : Automaton :=
  (new .nfa 0).after [.build (.addState (.truth false)), .build call]

/-- A transition from the state to itself on the letter for epsilon. -/
def letterLoop : Automaton :=
  oneState (.addTransition (.state ⟨0, 0⟩) (.text "ε") (.state ⟨0, 0⟩))

/-- An epsilon transition from the state to itself. -/
def epsilonLoop : Automaton := oneState (.addEpsilon (.state ⟨0, 0⟩) (.state ⟨0, 0⟩))

/-- A transition on the letter for epsilon has the same line as an epsilon transition. They are told
    apart by where the line stands. -/
theorem letterLoop_description_ne :
    letterLoop.Unspaced ∧ epsilonLoop.Unspaced ∧
      ∃ s t, letterLoop.description "m" = .ok s ∧ epsilonLoop.description "m" = .ok t ∧ s ≠ t := by
  have hletter : letterLoop.transitions = [⟨0, ⟨.text "ε", rfl⟩, 0⟩] := by decide +kernel
  have hnone : epsilonLoop.transitions = [] := by decide +kernel
  have hunspaced : letterLoop.Unspaced := by
    rw [Unspaced, hletter]
    exact List.forall_mem_singleton.2 ⟨"ε", rfl, by decide⟩
  have hunspaced' : epsilonLoop.Unspaced := by
    rw [Unspaced, hnone]
    exact nofun
  obtain ⟨s, t, hs, ht, hiff, -, -, -⟩ :=
    description_eq_iff_sameDescription (a := letterLoop) (b := epsilonLoop) rfl rfl hunspaced
      hunspaced' "m"
  refine ⟨hunspaced, hunspaced', s, t, hs, ht, fun heq => ?_⟩
  have hmem := ((hiff.1 heq).transitions ⟨0, ⟨.text "ε", rfl⟩, 0⟩).1
  rw [hletter, hnone] at hmem
  exact List.not_mem_nil (hmem List.mem_cons_self)

end Automaton

end FiniteAutomata

import FiniteAutomata.Proofs.Listing
import FiniteAutomata.Proofs.StateName
import FiniteAutomata.Proofs.Textual

namespace FiniteAutomata

/-!
# What a description says

A description is a text that can be read: it says of which kind an automaton is, how many states it
has, and by their names which of them are initial and accepting and how they are joined.

* `Account`: what a description says.
* `Account.read`: reads a description.
* `Automaton.account`: what is to be said of an automaton.
* `Account.read_description`: a description says exactly that where no symbol has white space.
* `Automaton.contains_acceptingStates`, `Automaton.perm_transition_sortedLines`: the flags and the
  transitions are told by what is said.
-/

/-- What a description says of an automaton. States go by their names. -/
structure Account where
  kind : AutomatonKind
  size : Nat
  start : Option String
  accepting : List String
  transitions : List (String × String × String)
  epsilonTransitions : List (String × String)
deriving DecidableEq

namespace Account

/-! ### Reading -/

/-- The word behind the label of a line. -/
def field (line : String) : String := (Text.words line)[1]?.getD ""

/-- The kind with a short name. -/
def readKind (word : String) : Option AutomatonKind :=
  [AutomatonKind.dfa, .nfa].find? (·.shortName == word)

/-- The number with a numeral. -/
def readNumber (word : String) : Option Nat :=
  if word.toList.all Char.isDigit then some (Nat.ofDigitChars 10 word.toList 0) else none

/-- The items of a set, which stand between curly brackets with commas between them. -/
def readSet (word : String) : List String :=
  match (word.toList.drop 1).dropLast with
  | [] => []
  | items => (items.splitOn ',').map String.ofList

/-- The source, the symbol and the target of a transition; the symbol is inside the shaft of the
    arrow between the two states. -/
def readTransition (line : String) : Option (String × String × String) :=
  match Text.words line with
  | [source, arrow, target] =>
    some (source, String.ofList (arrow.toList.drop 1).dropLast.dropLast, target)
  | _ => none

/-- The line tells of a transition: it is further in than the others. -/
def isTransition (line : String) : Bool := line.toList.take 4 == "    ".toList

/-- Reads a description: a line each for the name, the kind, the states, the initial state, the
    accepting states and the number of transitions, then the transitions, another number, and the
    epsilon transitions. -/
def read (text : String) : Option Account :=
  match Text.linesOf text with
  | _ :: _ :: kind :: size :: start :: accepting :: _ :: rest => do
    let kind ← readKind (field kind)
    let size ← readNumber (field size)
    let below := (rest.dropWhile isTransition).drop 1
    return {
      kind
      size
      start := if field start = "None" then none else some (field start)
      accepting := readSet (field accepting)
      transitions := (rest.takeWhile isTransition).filterMap readTransition
      epsilonTransitions :=
        (below.filterMap readTransition).map fun (source, _, target) => (source, target) }
  | _ => none

end Account

/-- A transition with its states by their names. -/
def TransitionLine.named (t : TransitionLine) : String × String × String :=
  (stateName t.source, t.symbol, stateName t.target)

/-! ### Fields -/

theorem isWord_repr (n : Nat) : Text.IsWord n.repr where
  ne_empty := Nat.repr_ne_empty
  unbroken := by
    intro c hc
    rw [Nat.toList_repr] at hc
    exact isBlank_of_isDigit (Nat.isDigit_of_mem_toDigits (by decide) (by decide) hc)

theorem isWord_shortName (kind : AutomatonKind) : Text.IsWord kind.shortName := by
  cases kind <;> decide

theorem isWord_stateOrNone (start : Option Nat) : Text.IsWord (stateOrNone start) := by
  cases start with
  | none => decide
  | some s => exact isWord_stateName s

theorem isWord_stateSet (states : List Nat) : Text.IsWord (stateSet states) := by
  have hopen : Text.IsWord "\x7b" := by decide
  have hnames : ∀ w ∈ (Ascending.sort (fun s t => s < t) states).map stateName, Text.IsWord w :=
    List.forall_mem_map.2 fun s _ => isWord_stateName s
  exact (hopen.append (Text.unbroken_intercalate (by decide) hnames)).append (by decide)

namespace Account

/-- The word behind the label is read. -/
theorem field_append (label : String) {front : String} (hlabel : Text.IsWord label)
    (hfront : front = "  " ++ label ++ " ") {value : String} (hvalue : Text.IsWord value) :
    field (front ++ value) = value := by
  have hwords : ∀ w ∈ [label, value], Text.IsWord w := by simp [hlabel, hvalue]
  have hline : front ++ value = "  " ++ Text.spaced [label, value] := by
    rw [hfront, Text.spaced, String.intercalate_cons_cons, String.intercalate_singleton]
    simp only [String.append_assoc]
  rw [field, hline, Text.words_indented (by decide), Text.words_spaced hwords]
  rfl

theorem readKind_shortName (kind : AutomatonKind) : readKind kind.shortName = some kind := by
  cases kind <;> decide

theorem readNumber_repr (n : Nat) : readNumber n.repr = some n := by
  have hdigits : (Nat.toDigits 10 n).all Char.isDigit = true :=
    List.all_eq_true.2 fun c hc => Nat.isDigit_of_mem_toDigits (by decide) (by decide) hc
  rw [readNumber, Nat.toList_repr, if_pos hdigits, Nat.ofDigitChars_ten_toDigits]

/-- The names of states have no comma in them. -/
theorem comma_notMem_stateName (s : Nat) : ',' ∉ (stateName s).toList := by
  rw [Dot.toList_stateName, List.mem_cons]
  rintro (h | h)
  · cases h
  · have hdigit := Nat.isDigit_of_mem_toDigits (by decide) (by decide) h
    exact absurd hdigit (by decide)

theorem readSet_stateSet {states : StateSet} (h : states.Ascends) :
    readSet (stateSet states) = states.map stateName := by
  have hlist : (stateSet states).toList =
      '\x7b' :: ([','].intercalate ((states.map stateName).map String.toList) ++ ['\x7d']) := by
    simp [stateSet_of_ascends h, bracedText, String.toList_append, String.toList_intercalate]
  rw [readSet, hlist, List.drop_one, List.tail_cons, List.dropLast_concat]
  cases states with
  | nil => rfl
  | cons s rest =>
    have hsplit : ([','].intercalate (((s :: rest).map stateName).map String.toList)).splitOn ',' =
        ((s :: rest).map stateName).map String.toList :=
      List.splitOn_intercalate ',' (by simp [comma_notMem_stateName]) (by simp)
    -- the items are not nothing: there is a name among them
    split
    · rename_i hnil
      rw [hnil] at hsplit
      have := congrArg List.head? hsplit
      simp [Dot.toList_stateName] at this
    · rw [hsplit, List.map_map]
      simp

/-! ### Transitions -/

/-- A line of a description is three words further in. -/
theorem text_eq (t : TransitionLine) :
    t.text = "    " ++ Text.spaced [stateName t.source, "-" ++ t.symbol ++ "->",
      stateName t.target] := by
  have hshaft : " -" = " " ++ "-" := by decide
  have hhead : "-> " = "->" ++ " " := by decide
  rw [TransitionLine.text, Text.spaced, String.intercalate_cons_cons, String.intercalate_cons_cons,
    String.intercalate_singleton, hshaft, hhead]
  simp only [String.append_assoc]

theorem isWord_arrow {symbol : String} (h : Text.Unbroken symbol) :
    Text.IsWord ("-" ++ symbol ++ "->") := by
  have hshaft : Text.IsWord "-" := by decide
  exact (hshaft.append h).append (by decide)

theorem isTransition_text (t : TransitionLine) : isTransition t.text = true := by
  rw [text_eq, isTransition, String.toList_append]
  rfl

theorem isLine_text {t : TransitionLine} (h : Text.Unbroken t.symbol) : Text.IsLine t.text := by
  have hindent : Text.IsLine "    " := by decide
  rw [text_eq]
  refine hindent.append (Text.isLine_spaced ?_)
  simp [isWord_stateName, isWord_arrow h]

/-- A transition is read from its line. -/
theorem readTransition_text {t : TransitionLine} (h : Text.Unbroken t.symbol) :
    readTransition t.text = some t.named := by
  have hwords : ∀ w ∈ [stateName t.source, "-" ++ t.symbol ++ "->", stateName t.target],
      Text.IsWord w := by simp [isWord_stateName, isWord_arrow h]
  -- what is left of the arrow without its first and its last two characters
  have hsymbol : String.ofList (("-" ++ t.symbol ++ "->").toList.drop 1).dropLast.dropLast =
      t.symbol := by
    have hlist : ("-" ++ t.symbol ++ "->").toList = '-' :: (t.symbol.toList ++ ['-'] ++ ['>']) := by
      simp only [String.toList_append]
      simp
    rw [hlist, List.drop_one, List.tail_cons, List.dropLast_concat, List.dropLast_concat,
      String.ofList_toList]
  rw [readTransition, text_eq, Text.words_indented (by decide), Text.words_spaced hwords]
  simp only [hsymbol, TransitionLine.named]

end Account

/-! ### The lines of a description -/

namespace Automaton

/-- The lines in front of the transitions. -/
def heading (name : String) (a : Automaton) : List String :=
  ["", name ++ ":",
   "  Type: " ++ a.kind.shortName,
   "  States: " ++ a.space.size.repr,
   "  Start: " ++ stateOrNone a.space.initial?,
   "  Accepting: " ++ stateSet a.acceptingStates,
   "  Transitions: " ++ a.transitionCount.repr]

/-- The transitions on texts in the order of a description. -/
def sortedLines (a : Automaton) : List TransitionLine :=
  Ascending.sort TransitionLine.before (a.transitions.map Transition.line)

/-- All lines of a description, the last of them empty. -/
def describedLines (name : String) (a : Automaton) : List String :=
  a.heading name ++ (a.sortedLines.map TransitionLine.text ++ (a.epsilonSection ++ [""]))

theorem description_eq_describedLines {a : Automaton} (h : OnlyTexts a.transitions)
    (name : String) : a.description name = .ok ("\n".intercalate (a.describedLines name)) := by
  -- the line feeds at both ends are those between the other lines and two empty ones
  have hend : ∀ l : List String, l ≠ [] →
      "\n".intercalate l ++ "\n" = "\n".intercalate (l ++ [""]) := by
    intro l hl
    rw [String.intercalate_append_of_ne_nil hl (List.cons_ne_nil _ _), String.intercalate_singleton,
      String.append_empty]
  have hfront : ∀ (s : String) (l : List String),
      "\n".intercalate (("\n" ++ s) :: l) = "\n".intercalate ("" :: s :: l) := by
    intro s l
    rw [String.intercalate_cons_append, String.intercalate_cons_cons, String.empty_append]
  rw [description_def, Listing.description, listing, ← transitionLines, transitionLines_eq h]
  simp only [ok_bind, pure_eq_ok, Except.ok.injEq]
  rw [hend _ (by simp), describedLines, heading, sortedLines]
  simp only [List.cons_append, List.nil_append, List.append_assoc, String.append_assoc]
  rw [hfront]
  rfl

theorem unbroken_epsilonLabel : Text.Unbroken epsilonLabel := by decide

theorem isLine_heading {name : String} (hname : Text.IsWord name) (a : Automaton) :
    ∀ l ∈ a.heading name, Text.IsLine l := by
  have hlabelled : ∀ {label word : String}, Text.IsLine label → Text.IsWord word →
      Text.IsLine (label ++ word) := fun hlabel hword => hlabel.append hword.isLine
  rw [heading]
  simp only [List.forall_mem_cons]
  refine ⟨by decide, hname.isLine.append (by decide), ?_, ?_, ?_, ?_, ?_, by simp⟩
  · exact hlabelled (by decide) (isWord_shortName _)
  · exact hlabelled (by decide) (isWord_repr _)
  · exact hlabelled (by decide) (isWord_stateOrNone _)
  · exact hlabelled (by decide) (isWord_stateSet _)
  · exact hlabelled (by decide) (isWord_repr _)

theorem isLine_epsilonSection (a : Automaton) : ∀ l ∈ a.epsilonSection, Text.IsLine l := by
  cases a with
  | dfa d => exact nofun
  | nfa n =>
    have hlabel : Text.IsLine "  Epsilon transitions: " := by decide
    refine List.forall_mem_cons.2 ⟨hlabel.append (isWord_repr _).isLine, ?_⟩
    rw [epsilonLinesOf, List.map_map]
    refine List.forall_mem_map.2 fun e _ => ?_
    exact Account.isLine_text unbroken_epsilonLabel

section Unbroken

variable {a : Automaton} (hsymbols : ∀ t ∈ a.transitions, Text.Unbroken t.symbolText)
include hsymbols

theorem unbroken_symbol_of_mem_sortedLines : ∀ t ∈ a.sortedLines, Text.Unbroken t.symbol := by
  intro t ht
  rw [sortedLines, (Ascending.perm_sort _).mem_iff] at ht
  obtain ⟨t', ht', rfl⟩ := List.mem_map.1 ht
  exact hsymbols t' ht'

theorem isLine_describedLines {name : String} (hname : Text.IsWord name) :
    ∀ l ∈ a.describedLines name, Text.IsLine l := by
  have hend : Text.IsLine "" := by decide
  rw [describedLines]
  simp only [List.forall_mem_append, List.forall_mem_map]
  refine ⟨isLine_heading hname a, fun t ht => ?_, isLine_epsilonSection a, by simp [hend]⟩
  exact Account.isLine_text (unbroken_symbol_of_mem_sortedLines hsymbols t ht)

end Unbroken

end Automaton

/-! ### What is to be said -/

/-- What is to be said of an automaton. -/
def Automaton.account (a : Automaton) : Account where
  kind := a.kind
  size := a.space.size
  start := a.space.initial?.map stateName
  accepting := a.acceptingStates.map stateName
  transitions := a.sortedLines.map TransitionLine.named
  epsilonTransitions :=
    (a.epsilonLines.map TransitionLine.named).map fun (source, _, target) => (source, target)

namespace Account

theorem readStart (start : Option Nat) :
    (if stateOrNone start = "None" then none else some (stateOrNone start)) =
      start.map stateName := by
  cases start with
  | none => rfl
  | some s =>
    have hne : stateName s ≠ "None" := by
      intro h
      have hlist := congrArg String.toList h
      rw [Dot.toList_stateName] at hlist
      cases hlist
    exact if_neg hne

/-- Transitions are read from their lines. -/
theorem filterMap_readTransition {ls : List TransitionLine}
    (h : ∀ t ∈ ls, Text.Unbroken t.symbol) :
    (ls.map TransitionLine.text).filterMap readTransition = ls.map TransitionLine.named := by
  induction ls with
  | nil => rfl
  | cons t rest ih =>
    obtain ⟨ht, hrest⟩ := List.forall_mem_cons.1 h
    rw [List.map_cons, List.filterMap_cons, readTransition_text ht, ih hrest]
    rfl

/-- The lines about epsilon transitions begin with another one, and all of them are read. -/
theorem read_epsilonSection (a : Automaton) :
    (a.epsilonSection ++ [""]).takeWhile isTransition = [] ∧
      (((a.epsilonSection ++ [""]).dropWhile isTransition).drop 1).filterMap readTransition =
        a.epsilonLines.map TransitionLine.named := by
  have hblank : readTransition "" = none := by decide
  cases a with
  | dfa d => exact ⟨rfl, rfl⟩
  | nfa n =>
    -- the line with their number is no transition, so the other transitions end in front of it
    have hhead : isTransition ("  Epsilon transitions: " ++ n.epsilonCount.repr) = false := by
      rw [isTransition, String.toList_append]
      rfl
    have hlabels : ∀ t ∈ (Automaton.nfa n).epsilonLines, Text.Unbroken t.symbol := by
      rw [Automaton.epsilonLines, epsilonLinesOf]
      exact List.forall_mem_map.2 fun _ _ => Automaton.unbroken_epsilonLabel
    have hsection : (Automaton.nfa n).epsilonSection =
        ("  Epsilon transitions: " ++ n.epsilonCount.repr) ::
          (Automaton.nfa n).epsilonLines.map TransitionLine.text := rfl
    rw [hsection, List.cons_append,
      List.takeWhile_cons_of_neg (Bool.not_eq_true _ ▸ hhead),
      List.dropWhile_cons_of_neg (Bool.not_eq_true _ ▸ hhead), List.drop_one, List.tail_cons,
      List.filterMap_append, filterMap_readTransition hlabels]
    refine ⟨rfl, ?_⟩
    simp [hblank]

/-- A description says what is to be said of the automaton. -/
theorem read_description {a : Automaton} (htexts : OnlyTexts a.transitions)
    (hsymbols : ∀ t ∈ a.transitions, Text.Unbroken t.symbolText) {name text : String}
    (hname : Text.IsWord name) (htext : a.description name = .ok text) :
    read text = some a.account := by
  have hlines : Text.linesOf text = a.describedLines name := by
    rw [Automaton.description_eq_describedLines htexts, Except.ok.injEq] at htext
    rw [← htext]
    exact Text.linesOf_intercalate (Automaton.isLine_describedLines hsymbols hname)
      (List.append_ne_nil_of_left_ne_nil (List.cons_ne_nil _ _) _)
  have htransitions : ∀ l ∈ a.sortedLines.map TransitionLine.text, isTransition l = true :=
    List.forall_mem_map.2 fun t _ => isTransition_text t
  have hread := filterMap_readTransition (Automaton.unbroken_symbol_of_mem_sortedLines hsymbols)
  obtain ⟨hnone, hepsilons⟩ := read_epsilonSection a
  have hkind : field ("  Type: " ++ a.kind.shortName) = a.kind.shortName :=
    field_append "Type:" (by decide) rfl (isWord_shortName _)
  have hsize : field ("  States: " ++ a.space.size.repr) = a.space.size.repr :=
    field_append "States:" (by decide) rfl (isWord_repr _)
  have hstart : field ("  Start: " ++ stateOrNone a.space.initial?) =
      stateOrNone a.space.initial? :=
    field_append "Start:" (by decide) rfl (isWord_stateOrNone _)
  have haccepting : field ("  Accepting: " ++ stateSet a.acceptingStates) =
      stateSet a.acceptingStates :=
    field_append "Accepting:" (by decide) rfl (isWord_stateSet _)
  -- the text is taken apart into its lines, and every field is read from its own
  rw [read, hlines, Automaton.describedLines, Automaton.heading]
  simp only [List.cons_append, List.nil_append]
  rw [hkind, hsize, hstart, haccepting, readKind_shortName, readNumber_repr, readStart,
    readSet_stateSet a.ascends_acceptingStates, List.takeWhile_append_of_pos htransitions,
    List.dropWhile_append_of_pos htransitions, hnone, hepsilons, List.append_nil, hread]
  rfl

end Account

/-! ### From what is said to the automaton -/

theorem Registry.map_accepts_range (r : Registry) :
    (List.range r.size).map r.accepts = r.flags := by
  refine List.ext_getElem (by simp [Registry.size]) fun i _ hi => ?_
  rw [List.getElem_map, List.getElem_range, Registry.accepts_eq_getElem hi]

/-- The transition that a line tells of. -/
def TransitionLine.transition (t : TransitionLine) : Transition :=
  ⟨t.source, ⟨.text t.symbol, rfl⟩, t.target⟩

theorem Transition.transition_line {t : Transition} (h : t.symbol.value = .text t.symbolText) :
    t.line.transition = t := by
  obtain ⟨source, ⟨value, hvalue⟩, target⟩ := t
  simp only at h
  simp only [line, TransitionLine.transition, ← h]

namespace Automaton

/-- Whether a state is accepting is read off the names of the accepting states. -/
theorem contains_acceptingStates (a : Automaton) {s : Nat} (hs : s < a.space.size) :
    (a.acceptingStates.map stateName).contains (stateName s) = a.space.accepts s := by
  rw [Bool.eq_iff_iff, List.contains_iff_mem, List.mem_map_of_injective stateName_injective,
    acceptingStates, List.mem_filter, Registry.indexes, List.mem_range]
  exact and_iff_right hs

/-- The lines of a description tell of all transitions. -/
theorem perm_transition_sortedLines {a : Automaton}
    (h : ∀ t ∈ a.transitions, t.symbol.value = .text t.symbolText) :
    (a.sortedLines.map TransitionLine.transition).Perm a.transitions := by
  have hback : (a.transitions.map Transition.line).map TransitionLine.transition =
      a.transitions := by
    rw [List.map_map]
    exact (List.map_congr_left fun t ht => Transition.transition_line (h t ht)).trans
      (List.map_id _)
  rw [← hback]
  exact (Ascending.perm_sort _).map TransitionLine.transition

end Automaton

end FiniteAutomata

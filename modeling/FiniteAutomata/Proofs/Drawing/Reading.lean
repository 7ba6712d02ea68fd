import FiniteAutomata.Proofs.Dot.Reading
import FiniteAutomata.Proofs.Drawing.Determined

namespace FiniteAutomata

/-!
# The labels of a drawing can be read

Whoever reads the text of a drawing by the rules of the language gets the label of each arrow as it was
meant, with its backslashes doubled, and goes on behind what was written for it.

* `Arrow.label`, `Arrow.written`: the labels of an arrow as one text, and what is written for it.
* `Drawing.before`: the text of a drawing before one of its arrows.
* `Drawing.ReadsLabel`: where the label of an arrow stands and how it is read.
* `Drawing.exists_readsLabel`: every label is read like that.
* `Automaton.readsLabels_drawing`: so are the labels of the drawing of an automaton.
-/

/-- The labels of an arrow as one text. -/
def Arrow.label (a : Arrow) : String := labelGap.intercalate a.labels

/-- What is written for the label of an arrow. -/
def Arrow.written (a : Arrow) : List Char := (Dot.word (Dot.escapeBackslashes a.label)).toList

namespace Drawing

/-- The text of a drawing before the arrow at a position. -/
def before (d : Drawing) (i : Nat) : String :=
  let drawn := { d with arrows := d.arrows.take i }
  "digraph " ++ Dot.word d.kind.shortName ++ " \x7b\n" ++
    String.join ((drawn.defaults ++ drawn.statements).map Dot.Statement.line)

/-- The label of the arrow at a position stands behind the names of the two states, and is read as it
    was meant. Only a name or a number with a line end after it loses the line end. -/
structure ReadsLabel (d : Drawing) (i : Nat) (a : Arrow) (behind : List Char) : Prop where
  source : d.source.toList =
    (d.before i ++ "\t" ++ stateName a.source ++ " -> " ++ stateName a.target ++
      " [label=").toList ++ (a.written ++ behind)
  read : ¬ Dot.IsLine a.label.toList →
    Dot.readWord (a.written ++ behind) = some (Dot.doubled a.label.toList, behind)
  line : ∀ word, (Dot.isName word || Dot.isNumber word) = true → a.label.toList = word ++ ['\n'] →
    a.written = a.label.toList ∧
      Dot.readWord (a.written ++ behind) = some (word, '\n' :: behind)

theorem written_eq (a : Arrow) : a.written = Dot.wordOf (Dot.doubled a.label.toList) :=
  Dot.toList_word_escapeBackslashes a.label

/-- The statements of a drawing up to an arrow are those of the drawing with fewer arrows. -/
theorem statements_of_arrows {d : Drawing} {drawn rest : List Arrow}
    (h : d.arrows = drawn ++ rest) :
    d.statements = { d with arrows := drawn }.statements ++ rest.map arrow := by
  rw [statements, statements, h, List.map_append, List.append_assoc, List.append_assoc]
  simp only [List.cons_append, List.append_assoc]

theorem source_eq_before {d : Drawing} {i : Nat} {a : Arrow} (h : d.arrows[i]? = some a) :
    ∃ rest, d.source = d.before i ++ (arrow a).line ++ rest := by
  obtain ⟨hi, rfl⟩ := List.getElem?_eq_some_iff.1 h
  have harrows : d.arrows = d.arrows.take i ++ d.arrows[i] :: d.arrows.drop (i + 1) := by
    rw [List.getElem_cons_drop, List.take_append_drop]
  refine ⟨String.join ((d.arrows.drop (i + 1)).map fun b => (arrow b).line) ++ "\x7d\n", ?_⟩
  rw [source, Dot.source, statements_of_arrows harrows, before]
  simp only [List.map_append, List.map_cons, List.map_map, String.join_append, String.join_cons,
    String.append_assoc]
  rfl

/-- Every label of a drawing can be read. -/
theorem exists_readsLabel {d : Drawing} {i : Nat} {a : Arrow} (h : d.arrows[i]? = some a) :
    ∃ behind, d.ReadsLabel i a behind := by
  obtain ⟨rest, hsource⟩ := source_eq_before h
  have hline := Item.line_arrow a
  rw [Item.line, Item.statement] at hline
  generalize hending : ending (if a.source = a.target then [⟨"headport", "n"⟩, ⟨"tailport", "n"⟩]
    else []) = close at hline
  -- a blank or a bracket stands behind the label and ends it, quoted or not
  obtain ⟨c, hhead, hc⟩ := hending ▸ head_ending _ rest.toList
  have hends : Dot.endsBare c = true := by rcases hc with rfl | rfl <;> rfl
  refine ⟨close ++ rest.toList, ?_, fun hnoLine => ?_, fun word hword hlabel => ?_⟩
  · rw [hsource, String.toList_append, String.toList_append, hline, written_eq, Arrow.label]
    simp
  · rw [written_eq]
    exact Dot.readWord_wordOf hnoLine ⟨c, hhead, hends⟩
  · rw [written_eq, hlabel]
    exact ⟨Dot.wordOf_doubled_line hword, Dot.readWord_wordOf_line hword _⟩

end Drawing

namespace Automaton

/-- **Labels survive quoting.** An automaton whose symbols have texts is drawn, and the label of every
    arrow between states is read as it was meant. -/
theorem readsLabels_drawing (a : Automaton) (h : a.HasTexts) :
    ∃ d, a.drawing = .ok d ∧ a.dot = .ok d.source ∧
      ∀ i arrow, d.arrows[i]? = some arrow → ∃ behind, d.ReadsLabel i arrow behind := by
  obtain ⟨es, hes⟩ := h.exists_symbolEdges
  obtain ⟨d, hd⟩ : ∃ d, a.drawing = .ok d := ⟨_, by rw [drawing_def, hes]; rfl⟩
  exact ⟨d, hd, by rw [dot_def, hd]; rfl, fun i arrow => Drawing.exists_readsLabel⟩

/-- A backslash is read as two, though four quoted characters were written for it. -/
theorem loops_backslash_readsLabel :
    (loops ["\\"]).HasTexts ∧
      ∃ s before behind, (loops ["\\"]).dot = .ok s ∧
        s.toList = before ++ ['"', '\\', '\\', '"'] ++ behind ∧
        Dot.readWord (['"', '\\', '\\', '"'] ++ behind) = some (['\\', '\\'], behind) := by
  have htransitions : (loops ["\\"]).transitions = [⟨0, ⟨.text "\\", rfl⟩, 0⟩] := by decide +kernel
  have htexts : (loops ["\\"]).HasTexts := by
    intro t ht
    rw [htransitions, List.mem_singleton] at ht
    exact ⟨"\\", by rw [ht]; rfl⟩
  obtain ⟨d, hd, hdot, hread⟩ := readsLabels_drawing _ htexts
  have hdrawn : (loops ["\\"]).drawing = .ok ⟨.nfa, [false], some 0, [⟨0, 0, ["\\"]⟩]⟩ := by
    decide +kernel
  cases hd.symm.trans hdrawn
  obtain ⟨behind, hsource, hlabel, -⟩ := hread 0 _ rfl
  have hwritten : Arrow.written ⟨0, 0, ["\\"]⟩ = ['"', '\\', '\\', '"'] := by decide +kernel
  rw [hwritten] at hsource hlabel
  refine ⟨htexts, _, _, behind, hdot, by rw [hsource, List.append_assoc], hlabel ?_⟩
  -- a backslash is no part of a name or a number
  rintro ⟨word, hword, hline⟩
  have hmem : '\\' ∈ word ++ ['\n'] := by
    rw [← hline]
    decide +kernel
  rcases List.mem_append.1 hmem with hmem | hmem
  · exact absurd ((Dot.parts_of_isName_or_isNumber hword).2 _ hmem) (by decide)
  · exact absurd (List.mem_singleton.1 hmem) (by decide)

end Automaton

end FiniteAutomata

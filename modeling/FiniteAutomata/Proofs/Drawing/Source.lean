import FiniteAutomata.Proofs.Collection.Ascending
import FiniteAutomata.Proofs.Dot.Quoting
import FiniteAutomata.Proofs.Label

namespace FiniteAutomata.Drawing

/-!
# The text of a drawing determines the drawing

Every statement of a drawing shows where it ends: names of states end before a blank, labels are
words of the language, and whatever else is in a line is fixed. So the lines can be told apart, and
what each of them draws can be read off it.

* `Item`: what a statement of a drawing draws.
* `Item.line_delimits`: it can be seen where a line ends and what it draws.
* `source_injective`: drawings with the same text are equal.
-/

/-! ### Lines -/

/-- What a statement draws: a state, the arrow to the initial state or another arrow. -/
inductive Item
  | circle (accepting : Bool) (index : Nat)
  | start (initial : Nat)
  | arrow (a : Arrow)

namespace Item

/-- The statement that draws it. -/
def statement : Item → Dot.Statement
  | circle accepting index => Drawing.circle accepting index
  | start initial => Drawing.startArrow initial
  | arrow a => Drawing.arrow a

/-- The line of the statement. -/
def line (item : Item) : List Char := item.statement.line.toList

/-- The labels of an arrow are labels. -/
def WellLabelled : Item → Prop
  | arrow a => ∀ label ∈ a.labels, IsLabel label.toList
  | _ => True

end Item

/-- Attributes behind the label. -/
def behindLabel (attributes : List Dot.Attribute) : List Char :=
  (Ascending.sort (fun a b => a.name < b.name) attributes).flatMap fun a => ' ' :: a.text.toList

theorem toList_intercalate_attributes (first : String) (attributes : List String) :
    (" ".intercalate (first :: attributes)).toList =
      first.toList ++ attributes.flatMap fun text => ' ' :: text.toList := by
  induction attributes generalizing first with
  | nil => simp
  | cons text rest ih =>
    rw [String.intercalate_cons_cons, String.toList_append, String.toList_append, ih,
      List.flatMap_cons]
    simp

theorem toList_attributeText (label : String) (attributes : List Dot.Attribute) :
    (Dot.attributeText (some label) attributes).toList =
      "[label=".toList ++ (Dot.word label).toList ++ behindLabel attributes ++ [']'] := by
  have hname : Dot.word "label" = "label" := by decide +kernel
  have hlist : (some label).toList.map (fun text => Dot.Attribute.text ⟨"label", text⟩) =
      ["label=" ++ Dot.word label] := by
    rw [Option.toList_some, List.map_singleton, Dot.Attribute.text, hname]
    rfl
  simp only [Dot.attributeText, hlist, List.singleton_append, String.toList_append,
    toList_intercalate_attributes, behindLabel, List.flatMap_map]
  simp

/-- How a line with a label ends: with more attributes or at once. -/
def ending (attributes : List Dot.Attribute) : List Char := behindLabel attributes ++ [']', '\n']

theorem head_ending_nil (rest : List Char) : (ending [] ++ rest).head? = some ']' := rfl

theorem head_ending_cons (a : Dot.Attribute) (attributes : List Dot.Attribute) (rest : List Char) :
    (ending (a :: attributes) ++ rest).head? = some ' ' := by
  rw [ending, behindLabel]
  cases hsort : Ascending.sort (fun a b : Dot.Attribute => decide (a.name < b.name))
      (a :: attributes) with
  | nil =>
    have hperm := hsort ▸ Ascending.perm_sort (a :: attributes)
    exact absurd hperm.nil_eq (List.cons_ne_nil _ _).symm
  | cons b sorted => rfl

theorem head_ending (attributes : List Dot.Attribute) (rest : List Char) :
    ∃ c, (ending attributes ++ rest).head? = some c ∧ (c = ' ' ∨ c = ']') := by
  cases attributes with
  | nil => exact ⟨']', head_ending_nil rest, .inr rfl⟩
  | cons a attributes => exact ⟨' ', head_ending_cons a attributes rest, .inl rfl⟩

theorem endsWord_ending (attributes : List Dot.Attribute) (rest : List Char) :
    Dot.EndsWord (ending attributes ++ rest) := by
  obtain ⟨c, hhead, hc⟩ := head_ending attributes rest
  refine ⟨c, hhead, ?_⟩
  rcases hc with rfl | rfl <;> decide

/-- Whether there are more attributes can be seen. -/
theorem ending_inj {a : Dot.Attribute} {attributes : List Dot.Attribute} {more more' : Bool}
    {rest rest' : List Char}
    (h : ending (if more then a :: attributes else []) ++ rest =
      ending (if more' then a :: attributes else []) ++ rest') : more = more' ∧ rest = rest' := by
  have hhead := congrArg List.head? h
  cases more <;> cases more'
  · exact ⟨rfl, List.append_cancel_left h⟩
  · simp only [Bool.false_eq_true, if_false, if_true, head_ending_nil, head_ending_cons] at hhead
    cases hhead
  · simp only [Bool.false_eq_true, if_false, if_true, head_ending_nil, head_ending_cons] at hhead
    cases hhead
  · exact ⟨rfl, List.append_cancel_left h⟩

namespace Item

theorem line_circle (accepting : Bool) (index : Nat) :
    (circle accepting index).line = '\t' :: ((stateName index).toList ++
      (' ' :: '[' :: ("label=".toList ++ ((stateName index).toList ++
        ending (if accepting then
          [⟨"shape", "doublecircle"⟩, ⟨"fillcolor", "lightgreen"⟩, ⟨"peripheries", "2"⟩]
        else []))))) := by
  simp only [line, statement, Drawing.circle, Dot.Statement.line, Dot.word_stateName,
    String.toList_append, toList_attributeText, ending]
  simp

theorem line_start (initial : Nat) :
    (start initial).line = '\t' :: '_' :: ("_start__ -> ".toList ++ ((stateName initial).toList ++
      (' ' :: "[penwidth=2]\n".toList))) := by
  have hword : Dot.word startName = "__start__" := by decide +kernel
  have hattributes : Dot.attributeText none [⟨"penwidth", "2"⟩] = "[penwidth=2]" := by
    decide +kernel
  simp only [line, statement, startArrow, Dot.Statement.line, Dot.word_stateName, hword,
    hattributes, String.toList_append]
  simp

theorem line_arrow (a : Arrow) :
    (arrow a).line = '\t' :: ((stateName a.source).toList ++ (' ' :: '-' :: ("> ".toList ++
      ((stateName a.target).toList ++ (' ' :: ("[label=".toList ++
        (Dot.wordOf (Dot.doubled (labelGap.intercalate a.labels).toList) ++
          ending (if a.source = a.target then [⟨"headport", "n"⟩, ⟨"tailport", "n"⟩]
          else [])))))))) := by
  simp only [line, statement, Drawing.arrow, Dot.Statement.line, Dot.word_stateName,
    String.toList_append, toList_attributeText, Dot.toList_word_escapeBackslashes, ending]
  simp

theorem head_line (item : Item) (rest : List Char) : (item.line ++ rest).head? = some '\t' := by
  cases item with
  | circle accepting index => rw [line_circle]; rfl
  | start initial => rw [line_start]; rfl
  | arrow a => rw [line_arrow]; rfl

/-- A blank is no digit, so the name of a state ends before it. -/
theorem no_digit_blank (rest : List Char) : ∀ c ∈ (' ' :: rest).head?, c.isDigit = false := by
  intro c hc
  cases hc
  rfl

theorem circle_delimits {accepting accepting' : Bool} {index index' : Nat} {rest rest' : List Char}
    (h : (circle accepting index).line ++ rest = (circle accepting' index').line ++ rest') :
    circle accepting index = circle accepting' index' ∧ rest = rest' := by
  simp only [line_circle, List.cons_append, List.append_assoc, List.cons.injEq, true_and] at h
  obtain ⟨rfl, h⟩ := Dot.stateName_delimits trivial trivial (no_digit_blank _) (no_digit_blank _) h
  simp only [List.cons.injEq, true_and, List.append_cancel_left_eq] at h
  obtain ⟨rfl, hrests⟩ := ending_inj h
  exact ⟨rfl, hrests⟩

theorem start_delimits {initial initial' : Nat} {rest rest' : List Char}
    (h : (start initial).line ++ rest = (start initial').line ++ rest') :
    start initial = start initial' ∧ rest = rest' := by
  simp only [line_start, List.cons_append, List.append_assoc, List.cons.injEq, true_and,
    List.append_cancel_left_eq] at h
  obtain ⟨rfl, h⟩ := Dot.stateName_delimits trivial trivial (no_digit_blank _) (no_digit_blank _) h
  simp only [List.cons.injEq, true_and, List.append_cancel_left_eq] at h
  exact ⟨rfl, h⟩

theorem arrow_delimits {a b : Arrow} (ha : (arrow a).WellLabelled) (hb : (arrow b).WellLabelled)
    {rest rest' : List Char} (h : (arrow a).line ++ rest = (arrow b).line ++ rest') :
    arrow a = arrow b ∧ rest = rest' := by
  obtain ⟨source, target, labels⟩ := a
  obtain ⟨source', target', labels'⟩ := b
  simp only [line_arrow, List.cons_append, List.append_assoc, List.cons.injEq, true_and] at h
  obtain ⟨rfl, h⟩ := Dot.stateName_delimits trivial trivial (no_digit_blank _) (no_digit_blank _) h
  simp only [List.cons.injEq, true_and, List.append_cancel_left_eq] at h
  obtain ⟨rfl, h⟩ := Dot.stateName_delimits trivial trivial (no_digit_blank _) (no_digit_blank _) h
  simp only [List.cons.injEq, true_and, List.append_cancel_left_eq] at h
  -- the word behind the names is that of the joined labels, and these can be taken apart
  obtain ⟨hlabels, h⟩ := Dot.wordOf_doubled_delimits trivial trivial (endsWord_ending _ _)
    (endsWord_ending _ _) h
  have hlabels := intercalate_labels_injective ha hb (String.toList_inj.1 hlabels)
  simp only at hlabels
  subst hlabels
  exact ⟨rfl, List.append_cancel_left h⟩

/-- Behind the name of a state a bracket shows a circle and a dash shows an arrow. -/
theorem circle_ne_arrow {accepting : Bool} {index : Nat} {a : Arrow} {rest rest' : List Char} :
    (circle accepting index).line ++ rest ≠ (arrow a).line ++ rest' := by
  intro h
  simp only [line_circle, line_arrow, List.cons_append, List.append_assoc, List.cons.injEq,
    true_and] at h
  obtain ⟨-, h⟩ := Dot.stateName_delimits trivial trivial (no_digit_blank _) (no_digit_blank _) h
  simp at h

/-- The name of the starting point begins with no letter, unlike that of a state. -/
theorem start_ne_circle {initial : Nat} {accepting : Bool} {index : Nat} {rest rest' : List Char} :
    (start initial).line ++ rest ≠ (circle accepting index).line ++ rest' := by
  intro h
  simp [line_start, line_circle, Dot.toList_stateName] at h

theorem start_ne_arrow {initial : Nat} {a : Arrow} {rest rest' : List Char} :
    (start initial).line ++ rest ≠ (arrow a).line ++ rest' := by
  intro h
  simp [line_start, line_arrow, Dot.toList_stateName] at h

/-- It can be seen where a line ends and what it draws. -/
theorem line_delimits : Text.Delimits line WellLabelled (fun _ => True) := by
  intro item item' rest rest' hitem hitem' _ _ h
  cases item with
  | circle accepting index =>
    cases item' with
    | circle accepting' index' => exact circle_delimits h
    | start initial' => exact absurd h.symm start_ne_circle
    | arrow b => exact absurd h circle_ne_arrow
  | start initial =>
    cases item' with
    | circle accepting' index' => exact absurd h start_ne_circle
    | start initial' => exact start_delimits h
    | arrow b => exact absurd h start_ne_arrow
  | arrow a =>
    cases item' with
    | circle accepting' index' => exact absurd h.symm circle_ne_arrow
    | start initial' => exact absurd h.symm start_ne_arrow
    | arrow b => exact arrow_delimits hitem hitem' h

/-- The flag of the state that is drawn. -/
def accepting? : Item → Option Bool
  | circle accepting _ => some accepting
  | _ => none

/-- The initial state that is drawn. -/
def initial? : Item → Option Nat
  | start initial => some initial
  | _ => none

/-- The arrow between states that is drawn. -/
def arrow? : Item → Option Arrow
  | arrow a => some a
  | _ => none

end Item

/-! ### Drawings -/

/-- What the statements of a drawing draw, in their order. -/
def items (d : Drawing) : List Item :=
  d.circles.mapIdx (fun i accepting => .circle accepting i) ++ d.initial?.toList.map .start ++
    d.arrows.map .arrow

/-- All labels in a drawing are labels. -/
def WellLabelled (d : Drawing) : Prop := ∀ a ∈ d.arrows, ∀ label ∈ a.labels, IsLabel label.toList

theorem WellLabelled.items {d : Drawing} (h : d.WellLabelled) :
    ∀ item ∈ d.items, item.WellLabelled := by
  intro item hitem
  simp only [Drawing.items, List.mem_append, List.mem_mapIdx, List.mem_map] at hitem
  rcases hitem with (⟨i, hi, rfl⟩ | ⟨i, -, rfl⟩) | ⟨a, ha, rfl⟩
  · trivial
  · trivial
  · exact h a ha

theorem filterMap_accepting_items (d : Drawing) :
    d.items.filterMap Item.accepting? = d.circles := by
  simp [items, List.filterMap_append, List.mapIdx_eq_zipIdx_map, List.filterMap_map,
    Function.comp_def, Item.accepting?]

theorem filterMap_initial_items (d : Drawing) :
    d.items.filterMap Item.initial? = d.initial?.toList := by
  simp [items, List.filterMap_append, List.mapIdx_eq_zipIdx_map, List.filterMap_map,
    Function.comp_def, Item.initial?]

theorem filterMap_arrow_items (d : Drawing) : d.items.filterMap Item.arrow? = d.arrows := by
  simp [items, List.filterMap_append, List.mapIdx_eq_zipIdx_map, List.filterMap_map,
    Function.comp_def, Item.arrow?]

/-- The drawing is put together again from its kind and from what is drawn. -/
theorem eq_of_items_eq {d d' : Drawing} (hkind : d.kind = d'.kind) (h : d.items = d'.items) :
    d = d' := by
  have hcircles : d.circles = d'.circles := by
    rw [← filterMap_accepting_items, h, filterMap_accepting_items]
  have harrows : d.arrows = d'.arrows := by
    rw [← filterMap_arrow_items, h, filterMap_arrow_items]
  have hlists : d.initial?.toList = d'.initial?.toList := by
    rw [← filterMap_initial_items, h, filterMap_initial_items]
  have hinitial : d.initial? = d'.initial? := by
    rw [← Option.head?_toList (o := d.initial?), hlists, Option.head?_toList]
  cases d
  cases d'
  simp only at hkind hcircles hinitial harrows
  rw [hkind, hcircles, hinitial, harrows]

/-- What stands in front of the first line that depends on more than the kind of the automaton. -/
def opening (kind : AutomatonKind) (defaults : List Dot.Statement) : String :=
  "digraph " ++ kind.shortName ++ " \x7b\n" ++
    String.join ((defaults ++ [startPoint]).map Dot.Statement.line)

theorem toList_source (d : Drawing) :
    d.source.toList =
      (opening d.kind d.defaults).toList ++ (d.items.flatMap Item.line ++ "\x7d\n".toList) := by
  have hword : ∀ kind : AutomatonKind, Dot.word kind.shortName = kind.shortName := by
    intro kind
    cases kind <;> decide +kernel
  have hstatements : d.statements = startPoint :: d.items.map Item.statement := by
    simp only [statements, items, List.map_append, List.mapIdx_eq_zipIdx_map, List.map_map,
      List.cons_append]
    rfl
  have hlines : (String.join ((d.items.map Item.statement).map Dot.Statement.line)).toList =
      d.items.flatMap Item.line := by
    rw [String.toList_join, List.flatMap_map, List.flatMap_map]
    rfl
  have hsource : d.source = opening d.kind d.defaults ++
      String.join ((d.items.map Item.statement).map Dot.Statement.line) ++ "\x7d\n" := by
    simp only [source, Dot.source, hword, hstatements, opening, List.map_append, List.map_cons,
      List.map_nil, String.join_append, String.join_cons, String.join_nil, String.append_assoc,
      String.append_empty]
  rw [hsource, String.toList_append, String.toList_append, hlines, List.append_assoc]

/-- The opening tells the kind. -/
theorem opening_inj {kind kind' : AutomatonKind} {defaults defaults' : List Dot.Statement}
    {rest rest' : List Char}
    (h : (opening kind defaults).toList ++ rest = (opening kind' defaults').toList ++ rest') :
    kind = kind' := by
  simp only [opening, String.toList_append, List.append_assoc, List.append_cancel_left_eq] at h
  cases kind <;> cases kind'
  · rfl
  · simp [AutomatonKind.shortName] at h
  · simp [AutomatonKind.shortName] at h
  · rfl

/-- The text of a drawing determines the drawing. -/
theorem source_injective {d d' : Drawing} (hd : d.WellLabelled) (hd' : d'.WellLabelled)
    (h : d.source = d'.source) : d = d' := by
  have hlines := Item.line_delimits.flatMap (fun rest => rest.head? = some '\x7d')
    (fun _ _ _ => trivial) (fun _ _ => trivial) fun item rest _ => by
      rw [Item.head_line]
      decide
  have hlist := congrArg String.toList h
  rw [toList_source, toList_source] at hlist
  have hkind := opening_inj hlist
  -- once the kinds agree, both texts begin alike up to the first circle
  have hdefaults : d.defaults = d'.defaults := by rw [defaults, defaults, hkind]
  rw [hkind, hdefaults, List.append_cancel_left_eq] at hlist
  have hitems := (hlines hd.items hd'.items rfl rfl hlist).1
  exact eq_of_items_eq hkind hitems

end FiniteAutomata.Drawing

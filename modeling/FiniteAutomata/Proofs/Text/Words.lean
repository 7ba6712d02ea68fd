import FiniteAutomata.Text.Blank

namespace FiniteAutomata.Text

/-!
# Words and lines

Words that are written with a space between them are read back as those words, and so are lines of
them.

* `Unbroken`, `IsWord`: a text without white space, and one that is one word.
* `spaced`: words with a space between them.
* `words_spaced`: the words of such a text.
* `words_indented`, `words_trim`: white space around a text makes no difference to its words.
* `linesOf`, `linesOf_intercalate`: the lines of a text.
* `IsLine`: a text that is one line.
-/

/-- A text without white space. -/
def Unbroken (s : String) : Prop := ∀ c ∈ s.toList, isBlank c = false

instance (s : String) : Decidable (Unbroken s) :=
  decidable_of_iff (s.toList.all fun c => !isBlank c) (by simp [Unbroken])

/-- A text that is one word: it is not empty and has no white space. -/
structure IsWord (s : String) : Prop where
  ne_empty : s ≠ ""
  unbroken : Unbroken s

instance (s : String) : Decidable (IsWord s) :=
  decidable_of_iff (s ≠ "" ∧ Unbroken s) ⟨fun h => ⟨h.1, h.2⟩, fun h => ⟨h.ne_empty, h.unbroken⟩⟩

/-- Words with a space between them. -/
def spaced (ws : List String) : String := " ".intercalate ws

/-- Characters that are not blank are added to the word that is being read. -/
theorem wordsFrom_append (word : List Char) {piece : List Char}
    (hpiece : ∀ c ∈ piece, isBlank c = false) (rest : List Char) :
    wordsFrom word (piece ++ rest) = wordsFrom (piece.reverse ++ word) rest := by
  induction piece generalizing word with
  | nil => rfl
  | cons c piece ih =>
    obtain ⟨hc, hpiece⟩ := List.forall_mem_cons.1 hpiece
    rw [List.cons_append, wordsFrom, hc, if_neg Bool.false_ne_true, ih (c :: word) hpiece,
      List.reverse_cons, List.append_assoc, List.singleton_append]

/-- A word ends at a space. -/
theorem wordsFrom_word_space {w : String} (hw : IsWord w) (rest : List Char) :
    wordsFrom [] (w.toList ++ ' ' :: rest) = w.toList :: wordsFrom [] rest := by
  have hne : w.toList.reverse.isEmpty = false := by simpa using hw.ne_empty
  have hspace : isBlank ' ' = true := by decide
  rw [wordsFrom_append [] hw.unbroken, List.append_nil, wordsFrom, if_pos hspace, hne,
    if_neg Bool.false_ne_true, List.reverse_reverse]

theorem wordsFrom_word {w : String} (hw : IsWord w) : wordsFrom [] w.toList = [w.toList] := by
  have hne : w.toList.reverse.isEmpty = false := by simpa using hw.ne_empty
  have h := wordsFrom_append [] hw.unbroken []
  rw [List.append_nil, List.append_nil] at h
  rw [h, wordsFrom, hne, if_neg Bool.false_ne_true, List.reverse_reverse]

/-- Words with a space between them are those words. -/
theorem words_spaced {ws : List String} (hws : ∀ w ∈ ws, IsWord w) : words (spaced ws) = ws := by
  have h : wordsFrom [] (spaced ws).toList = ws.map String.toList := by
    induction ws with
    | nil => rfl
    | cons w rest ih =>
      obtain ⟨hw, hrest⟩ := List.forall_mem_cons.1 hws
      cases rest with
      | nil => exact wordsFrom_word hw
      | cons w' rest =>
        rw [spaced, String.intercalate_cons_cons, String.toList_append, String.toList_append,
          List.append_assoc]
        have hspace : " ".toList = [' '] := rfl
        rw [hspace, List.singleton_append, wordsFrom_word_space hw, ← spaced, ih hrest]
        rfl
  rw [words, h, List.map_map]
  simp

/-! ### White space around words -/

/-- White space in front of characters makes no difference to their words. -/
theorem wordsFrom_blanks_append {blanks : List Char} (hblanks : ∀ c ∈ blanks, isBlank c = true)
    (rest : List Char) : wordsFrom [] (blanks ++ rest) = wordsFrom [] rest := by
  induction blanks with
  | nil => rfl
  | cons c blanks ih =>
    obtain ⟨hc, hblanks⟩ := List.forall_mem_cons.1 hblanks
    rw [List.cons_append, wordsFrom, if_pos hc]
    exact ih hblanks

/-- White space at the end of characters makes no difference to their words. -/
theorem wordsFrom_append_blanks {blanks : List Char} (hblanks : ∀ c ∈ blanks, isBlank c = true)
    (word text : List Char) : wordsFrom word (text ++ blanks) = wordsFrom word text := by
  induction text generalizing word with
  | nil =>
    cases blanks with
    | nil => rfl
    | cons c rest =>
      -- the first blank character ends the word that is being read, and nothing comes behind it
      obtain ⟨hc, hrest⟩ := List.forall_mem_cons.1 hblanks
      have hnothing : wordsFrom [] rest = [] := by
        have := wordsFrom_blanks_append hrest []
        rwa [List.append_nil] at this
      simp only [List.nil_append, wordsFrom, hc, if_true, hnothing]
  | cons c rest ih => simp only [List.cons_append, wordsFrom, ih]

/-- White space in front of a text makes no difference to its words. -/
theorem words_indented {indent : String} (hindent : indent.toList.all isBlank = true)
    (s : String) : words (indent ++ s) = words s := by
  rw [words, words, String.toList_append, wordsFrom_blanks_append (List.all_eq_true.1 hindent)]

/-- Trimming makes no difference to the words of a text. -/
theorem words_trim (s : String) : words (trim s) = words s := by
  have hblanks : ∀ l : List Char, ∀ c ∈ l.takeWhile isBlank, isBlank c = true :=
    fun l => List.all_eq_true.1 List.all_takeWhile
  -- what is left of a text that is trimmed in front
  let text := s.toList.dropWhile isBlank
  have hback : ∀ c ∈ (text.reverse.takeWhile isBlank).reverse, isBlank c = true :=
    fun c hc => hblanks text.reverse c (List.mem_reverse.1 hc)
  have hwords : wordsFrom [] (text.reverse.dropWhile isBlank).reverse =
      wordsFrom [] s.toList := calc
    _ = wordsFrom [] ((text.reverse.dropWhile isBlank).reverse ++
          (text.reverse.takeWhile isBlank).reverse) := (wordsFrom_append_blanks hback [] _).symm
    _ = wordsFrom [] text := by
      rw [← List.reverse_append, List.takeWhile_append_dropWhile, List.reverse_reverse]
    _ = wordsFrom [] (s.toList.takeWhile isBlank ++ text) :=
      (wordsFrom_blanks_append (hblanks s.toList) text).symm
    _ = wordsFrom [] s.toList := by rw [List.takeWhile_append_dropWhile]
  rw [words, words, trim, String.toList_ofList, hwords]

/-! ### Words made of words -/

theorem IsWord.append {s t : String} (hs : IsWord s) (ht : Unbroken t) :
    IsWord (s ++ t) where
  ne_empty := by simp [hs.ne_empty]
  unbroken := by
    intro c hc
    rw [String.toList_append] at hc
    rcases List.mem_append.1 hc with hc | hc
    · exact hs.unbroken c hc
    · exact ht c hc

/-- Words with something between them that is not blank have no white space. -/
theorem unbroken_intercalate {sep : String} (hsep : Unbroken sep) {ws : List String}
    (hws : ∀ w ∈ ws, IsWord w) : Unbroken (sep.intercalate ws) := by
  induction ws with
  | nil => simp [Unbroken]
  | cons w rest ih =>
    obtain ⟨hw, hrest⟩ := List.forall_mem_cons.1 hws
    cases rest with
    | nil => simpa using hw.unbroken
    | cons w' rest =>
      rw [String.intercalate_cons_cons]
      intro c hc
      rw [String.toList_append] at hc
      rcases List.mem_append.1 hc with hc | hc
      · exact (hw.append hsep).unbroken c hc
      · exact ih hrest c hc

/-! ### Lines -/

/-- The lines of a text. -/
def linesOf (text : String) : List String := (text.toList.splitOn '\n').map String.ofList

/-- A text that is one line. -/
def IsLine (s : String) : Prop := '\n' ∉ s.toList

instance (s : String) : Decidable (IsLine s) := inferInstanceAs (Decidable ('\n' ∉ s.toList))

theorem IsWord.isLine {s : String} (h : IsWord s) : IsLine s := by
  intro hmem
  have hblank : isBlank '\n' = true := by decide
  rw [h.unbroken _ hmem] at hblank
  cases hblank

theorem IsLine.append {s t : String} (hs : IsLine s) (ht : IsLine t) : IsLine (s ++ t) := by
  rw [IsLine, String.toList_append, List.mem_append]
  rintro (h | h)
  · exact hs h
  · exact ht h

/-- Words with a space between them are a line. -/
theorem isLine_spaced {ws : List String} (hws : ∀ w ∈ ws, IsWord w) : IsLine (spaced ws) := by
  have hspace : IsLine " " := by decide
  induction ws with
  | nil => decide
  | cons w rest ih =>
    obtain ⟨hw, hrest⟩ := List.forall_mem_cons.1 hws
    cases rest with
    | nil => exact hw.isLine
    | cons w' rest =>
      rw [spaced, String.intercalate_cons_cons]
      exact (hw.isLine.append hspace).append (ih hrest)

/-- Lines that are put below one another are those lines. -/
theorem linesOf_intercalate {ls : List String} (hls : ∀ l ∈ ls, IsLine l) (hne : ls ≠ []) :
    linesOf ("\n".intercalate ls) = ls := by
  have hbreak : "\n".toList = ['\n'] := rfl
  have hlines : ∀ l ∈ ls.map String.toList, '\n' ∉ l := by
    intro l hl
    obtain ⟨l', hl', rfl⟩ := List.mem_map.1 hl
    exact hls l' hl'
  rw [linesOf, String.toList_intercalate, hbreak,
    List.splitOn_intercalate '\n' hlines (by simpa using hne), List.map_map]
  simp

end FiniteAutomata.Text

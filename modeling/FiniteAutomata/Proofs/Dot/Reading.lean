import FiniteAutomata.Proofs.Dot.Quoting

namespace FiniteAutomata.Dot

/-!
# Words are read as they were meant

Words are read by the rules of the language, which know nothing of how a word was written. A text whose
backslashes are to be shown comes back with its backslashes doubled, and nothing behind the word is
touched. One kind of text is an exception: a name or a number with a line end after it is written as it
is, and the line end is then no part of the word.

* `readQuoted`, `readBare`, `readWord`: read a word and tell what is behind it.
* `IsLine`: a name or a number with a line end after it.
* `readWord_wordOf`: every other text is read as it was meant.
* `readWord_wordOf_line`: what happens to the exception.
-/

/-! ### Reading -/

/-- Reads up to the quotation mark that ends a quoted word. A backslash protects a quotation mark and
    is then left out; two backslashes stay two. -/
def readQuoted : List Char → Option (List Char × List Char)
  | [] => none
  | '"' :: rest => some ([], rest)
  | '\\' :: '"' :: rest => (readQuoted rest).map fun (text, behind) => ('"' :: text, behind)
  | '\\' :: '\\' :: rest =>
    (readQuoted rest).map fun (text, behind) => ('\\' :: '\\' :: text, behind)
  | c :: rest => (readQuoted rest).map fun (text, behind) => (c :: text, behind)

/-- Ends a word that is not quoted. -/
def endsBare (c : Char) : Bool := c == ' ' || c == '\n' || c == ']'

/-- Reads a word that is not quoted, which is not empty. -/
def readBare (text : List Char) : Option (List Char × List Char) :=
  match text.span fun c => !endsBare c with
  | ([], _) => none
  | (word, behind) => some (word, behind)

/-- Reads a word. -/
def readWord : List Char → Option (List Char × List Char)
  | '"' :: rest => readQuoted rest
  | text => readBare text

/-! ### Quoted words -/

theorem readQuoted_shown {c : Char} {rest text behind : List Char}
    (h : readQuoted rest = some (text, behind)) :
    readQuoted (shown c ++ rest) =
      some (if c = '\\' then '\\' :: '\\' :: text else c :: text, behind) := by
  rw [shown]
  split
  · show (readQuoted rest).map _ = _
    rw [h]
    rfl
  · rename_i hbackslash
    split
    · rename_i hquote
      subst hquote
      show (readQuoted rest).map _ = _
      rw [h]
      rfl
    · rename_i hquote
      rw [List.singleton_append, readQuoted.eq_5 _ _ hquote (fun _ hc _ => hbackslash hc)
        (fun _ hc _ => hbackslash hc), h]
      rfl

/-- What is quoted is read up to the closing quotation mark, with its backslashes doubled. -/
theorem readQuoted_flatMap_shown (text behind : List Char) :
    readQuoted (text.flatMap shown ++ '"' :: behind) = some (doubled text, behind) := by
  induction text with
  | nil => rfl
  | cons c rest ih =>
    rw [List.flatMap_cons, List.append_assoc, readQuoted_shown ih, doubled]

/-! ### Words that are written as they are -/

theorem endsBare_of_isPart {c : Char} (h : isPart c = true) : endsBare c = false := by
  rw [Bool.eq_false_iff]
  intro hends
  simp only [endsBare, Bool.or_eq_true, beq_iff_eq] at hends
  rcases hends with (rfl | rfl) | rfl <;> exact absurd h (by decide)

/-- A name or a number is read up to the character behind it. -/
theorem readWord_append {word behind : List Char} (h : (isName word || isNumber word) = true)
    (hbehind : ∃ c ∈ behind.head?, endsBare c = true) :
    readWord (word ++ behind) = some (word, behind) := by
  obtain ⟨hne, hparts⟩ := parts_of_isName_or_isNumber h
  obtain ⟨d, hd, hends⟩ := hbehind
  have hspan : (word ++ behind).span (fun c => !endsBare c) = (word, behind) := by
    have hword : ∀ c ∈ word, (!endsBare c) = true := fun c hc => by
      rw [endsBare_of_isPart (hparts c hc)]
      rfl
    obtain ⟨behind', rfl⟩ := List.head?_eq_some_iff.1 hd
    have hd : ¬ (!endsBare d) = true := by simp [hends]
    rw [List.span_eq_takeWhile_dropWhile, List.takeWhile_append_of_pos hword,
      List.dropWhile_append_of_pos hword, List.takeWhile_cons_of_neg (p := fun c => !endsBare c) hd,
      List.dropWhile_cons_of_neg (p := fun c => !endsBare c) hd, List.append_nil]
  obtain ⟨c, rest, rfl⟩ := List.exists_cons_of_ne_nil hne
  -- a word that begins with a quotation mark is no name and no number
  have hquote : c ≠ '"' := (inside_of_isPart (hparts c List.mem_cons_self)).2.2.1
  have hbare : readWord (c :: rest ++ behind) = readBare (c :: rest ++ behind) :=
    readWord.eq_2 _ fun _ heq => hquote (List.cons.inj heq).1
  rw [hbare, readBare, hspan]

/-! ### All words -/

/-- The text is a name or a number with a line end after it. -/
def IsLine (text : List Char) : Prop :=
  ∃ word, (isName word || isNumber word) = true ∧ text = word ++ ['\n']

/-- A text that is no line is read as it was meant, up to what is behind the word. -/
theorem readWord_wordOf {text behind : List Char} (h : ¬ IsLine text)
    (hbehind : ∃ c ∈ behind.head?, endsBare c = true) :
    readWord (wordOf (doubled text) ++ behind) = some (doubled text, behind) := by
  rw [wordOf]
  split
  · rename_i hbare
    have hself := doubled_eq_self_of_isBare hbare
    rw [hself] at hbare ⊢
    exact readWord_append ((isName_or_isNumber_of_isBare hbare).resolve_right h) hbehind
  · rw [protect_doubled, List.append_assoc]
    exact readQuoted_flatMap_shown text behind

/-- The quotation mark in the text stands behind two backslashes and is protected by a third one. -/
example : readWord (wordOf (doubled ['\\', '"']) ++ [']']) = some (['\\', '\\', '"'], [']']) := by
  decide

/-- A name or a number with a line end after it is written as it is. -/
theorem wordOf_doubled_line {word : List Char} (h : (isName word || isNumber word) = true) :
    wordOf (doubled (word ++ ['\n'])) = word ++ ['\n'] := by
  obtain ⟨-, hparts⟩ := parts_of_isName_or_isNumber h
  have hself : doubled (word ++ ['\n']) = word ++ ['\n'] := by
    refine doubled_eq_self fun c hc => ?_
    rcases List.mem_append.1 hc with hc | hc
    · exact (inside_of_isPart (hparts c hc)).2.2.2
    · rw [List.mem_singleton.1 hc]
      decide
  have hline : dropLineEnd (word ++ ['\n']) = word := by
    rw [dropLineEnd, if_pos List.getLast?_concat, List.dropLast_concat]
  have hkeyword : keywords.contains
      (String.ofList ((word ++ ['\n']).map Char.toLower)) = false := by
    -- no keyword has a line end
    have hlast : ∀ k ∈ keywords, k.toList.getLast? ≠ some '\n' := by decide +kernel
    rw [List.contains_eq_mem, decide_eq_false_iff_not]
    intro hmem
    refine hlast _ hmem ?_
    rw [String.toList_ofList, List.map_append]
    exact List.getLast?_concat
  rw [hself, wordOf, isBare, hline, h, hkeyword]
  rfl

/-- Of such a text only the name or the number is read. -/
theorem readWord_wordOf_line {word : List Char} (h : (isName word || isNumber word) = true)
    (behind : List Char) :
    readWord (wordOf (doubled (word ++ ['\n'])) ++ behind) = some (word, '\n' :: behind) := by
  rw [wordOf_doubled_line h, List.append_assoc]
  exact readWord_append h ⟨'\n', rfl, rfl⟩

/-- The line end stays behind the word. -/
example : readWord (wordOf (doubled ['a', '\n']) ++ [']']) = some (['a'], ['\n', ']']) := by decide

end FiniteAutomata.Dot

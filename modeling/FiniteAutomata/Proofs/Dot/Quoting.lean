import FiniteAutomata.Dot.Quoting
import FiniteAutomata.Proofs.Text.Delimiting
import FiniteAutomata.Value.Text
import Mathlib.Data.List.TakeDrop
import Mathlib.Data.List.TakeWhile
import Mathlib.Tactic.SplitIfs

namespace FiniteAutomata.Dot

/-!
# Words can be told apart

Texts whose backslashes are to be shown have each backslash doubled. Between quotation marks every
backslash of theirs then stands with another one, so that a quotation mark is always protected by a
backslash of its own; and a word that is written as it is has no backslash at all.

* `Inside`: the characters that do not end a word that is written as it is.
* `isPart`: the characters of names and numbers, which are among them.
* `inside_of_isBare`: such a word is not empty and has no others.
* `protect_doubled`: a text with doubled backslashes, between quotation marks.
* `wordOf_doubled_delimits`: a word ends before a blank or a closing bracket.
* `word_stateName`, `stateName_delimits`: the name of a state is written as it is, and ends before
  whatever is no digit.
-/

/-! ### Words that are written as they are -/

/-- Does not end a word that is written as it is, and is neither quoted nor protected. -/
def Inside (c : Char) : Prop := c ≠ ' ' ∧ c ≠ ']' ∧ c ≠ '"' ∧ c ≠ '\\'

instance (c : Char) : Decidable (Inside c) := inferInstanceAs (Decidable (_ ∧ _))

/-- May be part of a name or of a number. -/
def isPart (c : Char) : Bool := isNameStart c || c.isDigit || c == '-' || c == '.'

theorem inside_of_isPart {c : Char} (h : isPart c = true) : Inside c := by
  refine ⟨?_, ?_, ?_, ?_⟩ <;> rintro rfl <;> exact absurd h (by decide)

theorem isPart_of_isDigit {c : Char} (h : c.isDigit = true) : isPart c = true := by
  rw [isPart, h, Bool.or_true, Bool.true_or, Bool.true_or]

theorem parts_of_isName {text : List Char} (h : isName text = true) :
    text ≠ [] ∧ ∀ c ∈ text, isPart c = true := by
  cases text with
  | nil => cases h
  | cons c rest =>
    simp only [isName, Bool.and_eq_true, List.all_eq_true] at h
    refine ⟨List.cons_ne_nil c rest, fun d hd => ?_⟩
    rcases List.mem_cons.1 hd with rfl | hd
    · rw [isPart, h.1, Bool.true_or, Bool.true_or, Bool.true_or]
    · rw [isPart, h.2 d hd, Bool.true_or, Bool.true_or]

theorem parts_of_isUnsigned {text : List Char} (h : isUnsigned text = true) :
    text ≠ [] ∧ ∀ c ∈ text, isPart c = true := by
  have hwhole : ∀ c ∈ text.takeWhile Char.isDigit, isPart c = true := fun c hc =>
    isPart_of_isDigit (List.mem_takeWhile_imp hc)
  have hsplit := List.takeWhile_append_dropWhile (p := Char.isDigit) (l := text)
  rw [isUnsigned, List.span_eq_takeWhile_dropWhile] at h
  generalize text.takeWhile Char.isDigit = whole at h hwhole hsplit
  generalize text.dropWhile Char.isDigit = rest at h hsplit
  subst hsplit
  split at h
  · rename_i heq
    cases heq
    rw [List.append_nil]
    exact ⟨by simpa using h, hwhole⟩
  · rename_i places heq
    cases heq
    simp only [Bool.and_eq_true, List.all_eq_true] at h
    refine ⟨by simp, fun c hc => ?_⟩
    rcases List.mem_append.1 hc with hc | hc
    · exact hwhole c hc
    · rcases List.mem_cons.1 hc with rfl | hc
      · decide
      · exact isPart_of_isDigit (h.1 c hc)
  · cases h

theorem parts_of_isNumber {text : List Char} (h : isNumber text = true) :
    text ≠ [] ∧ ∀ c ∈ text, isPart c = true := by
  rw [isNumber.eq_def] at h
  split at h
  · rename_i rest
    refine ⟨List.cons_ne_nil _ _, fun c hc => ?_⟩
    rcases List.mem_cons.1 hc with rfl | hc
    · decide
    · exact (parts_of_isUnsigned h).2 c hc
  · exact parts_of_isUnsigned h

/-- A name or a number is not empty, and all its characters may be part of one. -/
theorem parts_of_isName_or_isNumber {text : List Char}
    (h : (isName text || isNumber text) = true) : text ≠ [] ∧ ∀ c ∈ text, isPart c = true :=
  ((Bool.or_eq_true _ _).mp h).elim parts_of_isName parts_of_isNumber

/-- A word that is written as it is is a name or a number, or one with a line end after it. -/
theorem isName_or_isNumber_of_isBare {text : List Char} (h : isBare text = true) :
    (isName text || isNumber text) = true ∨
      ∃ word, (isName word || isNumber word) = true ∧ text = word ++ ['\n'] := by
  rw [isBare, Bool.and_eq_true] at h
  have hword := h.1
  rw [dropLineEnd] at hword
  split at hword
  · rename_i hlast
    exact .inr ⟨_, hword, (List.dropLast_append_getLast? '\n' hlast).symm⟩
  · exact .inl hword

/-- A word that is written as it is is not empty, and no character of it ends it. -/
theorem inside_of_isBare {text : List Char} (h : isBare text = true) :
    text ≠ [] ∧ ∀ c ∈ text, Inside c := by
  rcases isName_or_isNumber_of_isBare h with hword | ⟨word, hword, rfl⟩
  · obtain ⟨hne, hparts⟩ := parts_of_isName_or_isNumber hword
    exact ⟨hne, fun c hc => inside_of_isPart (hparts c hc)⟩
  · obtain ⟨-, hparts⟩ := parts_of_isName_or_isNumber hword
    refine ⟨by simp, fun c hc => ?_⟩
    -- the line end that was let through does not end a word either
    rcases List.mem_append.1 hc with hc | hc
    · exact inside_of_isPart (hparts c hc)
    · rw [List.mem_singleton.1 hc]
      decide

/-! ### Words between quotation marks -/

/-- A character of a text whose backslashes are to be shown, between quotation marks. -/
def shown (c : Char) : List Char :=
  if c = '\\' then ['\\', '\\'] else if c = '"' then ['\\', '"'] else [c]

/-- Reads one such character. -/
def readShown : List Char → Option (Char × List Char)
  | [] => none
  | c :: rest =>
    if c = '\\' then
      match rest with
      | [] => none
      | d :: rest => some (d, rest)
    else some (c, rest)

theorem readShown_shown (c : Char) (rest : List Char) :
    readShown (shown c ++ rest) = some (c, rest) := by
  rw [shown]
  split
  · rename_i h
    rw [h]
    rfl
  · rename_i hbackslash
    split
    · rename_i h
      rw [h]
      rfl
    · simp [readShown, hbackslash]

theorem head_shown_ne (c : Char) (rest : List Char) : (shown c ++ rest).head? ≠ some '"' := by
  rw [shown]
  split
  · simp
  · split
    · simp
    · rename_i hquote
      simpa using hquote

/-- Behind an even number of backslashes every quotation mark gets a backslash of its own. -/
theorem protectAfter_doubled (text : List Char) {backslashes : Nat} (h : backslashes % 2 = 0) :
    protectAfter backslashes (doubled text) = text.flatMap shown := by
  induction text generalizing backslashes with
  | nil => rfl
  | cons c rest ih =>
    rw [doubled, List.flatMap_cons, shown]
    -- two backslashes keep the number of backslashes even, any other character makes it zero
    by_cases hbackslash : c = '\\'
    · rw [if_pos hbackslash, if_pos hbackslash, protectAfter, if_pos rfl, protectAfter, if_pos rfl,
        ih (by omega)]
      rfl
    · rw [if_neg hbackslash, if_neg hbackslash, protectAfter, if_neg hbackslash]
      by_cases hquote : c = '"'
      · rw [if_pos ⟨hquote, h⟩, if_pos hquote, ih rfl]
        rfl
      · rw [if_neg fun hboth => hquote hboth.1, if_neg hquote, ih rfl]
        rfl

theorem protect_doubled (text : List Char) : protect (doubled text) = text.flatMap shown :=
  protectAfter_doubled text rfl

/-! ### Words -/

/-- Stands behind a word: a blank or a closing bracket. -/
def EndsWord (rest : List Char) : Prop := ∃ c, rest.head? = some c ∧ ¬ Inside c

theorem mem_doubled_of_mem {text : List Char} {c : Char} (h : c ∈ text) : c ∈ doubled text := by
  induction text with
  | nil => cases h
  | cons d rest ih =>
    rw [doubled]
    rcases List.mem_cons.1 h with rfl | hc
    · split
      · rename_i hbackslash
        rw [hbackslash]
        exact List.mem_cons_self
      · exact List.mem_cons_self
    · split
      · exact List.mem_cons_of_mem _ (List.mem_cons_of_mem _ (ih hc))
      · exact List.mem_cons_of_mem _ (ih hc)

/-- Without backslashes there is nothing to double. -/
theorem doubled_eq_self {text : List Char} (h : ∀ c ∈ text, c ≠ '\\') : doubled text = text := by
  induction text with
  | nil => rfl
  | cons c rest ih =>
    rw [doubled, if_neg (h c List.mem_cons_self), ih fun d hd => h d (List.mem_cons_of_mem c hd)]

theorem doubled_eq_self_of_isBare {text : List Char} (h : isBare (doubled text) = true) :
    doubled text = text :=
  doubled_eq_self fun c hc => ((inside_of_isBare h).2 c (mem_doubled_of_mem hc)).2.2.2

theorem EndsWord.not_inside {rest : List Char} (h : EndsWord rest) :
    ∀ c ∈ rest.head?, ¬ Inside c := by
  obtain ⟨d, hd, hinside⟩ := h
  intro c hc
  rw [Option.mem_def, hd, Option.some.injEq] at hc
  exact hc ▸ hinside

/-- A word that is written as it is and a quoted one are told apart by their first characters. -/
theorem bare_append_ne_quoted {text body rest rest' : List Char} (h : isBare text = true) :
    text ++ rest ≠ '"' :: body ++ ['"'] ++ rest' := by
  obtain ⟨hne, hinside⟩ := inside_of_isBare h
  obtain ⟨c, text', rfl⟩ := List.exists_cons_of_ne_nil hne
  intro heq
  simp only [List.cons_append, List.cons.injEq] at heq
  exact (hinside c List.mem_cons_self).2.2.1 heq.1

/-- What stands between quotation marks can be told from the rest. -/
theorem flatMap_shown_delimits :
    Text.Delimits (fun text : List Char => text.flatMap shown) (fun _ => True)
      (fun rest => rest.head? = some '"') := by
  have hshown : Text.Delimits shown (fun _ => True) (fun _ => True) :=
    .of_reader readShown fun c rest _ _ => readShown_shown c rest
  have hflatMap := hshown.flatMap (fun rest => rest.head? = some '"') (fun _ _ _ => trivial)
    (fun _ _ => trivial) fun c rest _ => head_shown_ne c rest
  exact fun text text' rest rest' _ _ => hflatMap (fun _ _ => trivial) (fun _ _ => trivial)

/-- It can be seen where a word ends and which text it stands for. -/
theorem wordOf_doubled_delimits :
    Text.Delimits (fun text => wordOf (doubled text)) (fun _ => True) EndsWord := by
  intro text text' rest rest' _ _ hrest hrest' h
  simp only [wordOf] at h
  split_ifs at h with hbare hbare' hbare'
  · -- both are written as they are, and end where a character cannot be part of them
    obtain ⟨heq, hrests⟩ := Text.append_inj_of_inside (inside_of_isBare hbare).2
      (inside_of_isBare hbare').2 hrest.not_inside hrest'.not_inside h
    exact ⟨by rw [← doubled_eq_self_of_isBare hbare, heq, doubled_eq_self_of_isBare hbare'], hrests⟩
  · exact absurd h (bare_append_ne_quoted hbare)
  · exact absurd h.symm (bare_append_ne_quoted hbare')
  · -- both are quoted, and end at a quotation mark that is not protected
    simp only [protect_doubled, List.cons_append, List.append_assoc, List.cons.injEq,
      List.nil_append, true_and] at h
    obtain ⟨htext, hrests⟩ := flatMap_shown_delimits trivial trivial rfl rfl h
    simp only [List.cons.injEq, true_and] at hrests
    exact ⟨htext, hrests⟩

theorem toList_word_escapeBackslashes (text : String) :
    (word (escapeBackslashes text)).toList = wordOf (doubled text.toList) := by
  rw [word, escapeBackslashes, String.toList_ofList, String.toList_ofList]

/-! ### Names of states -/

theorem toList_stateName (index : Nat) :
    (stateName index).toList = 'q' :: Nat.toDigits 10 index := by
  rw [stateName, String.toList_append, Nat.toList_repr]
  rfl

/-- The name of a state is written as it is. -/
theorem word_stateName (index : Nat) : word (stateName index) = stateName index := by
  have hdigit : ∀ c ∈ Nat.toDigits 10 index, c.isDigit = true := fun c hc =>
    Nat.isDigit_of_mem_toDigits (by decide) (by decide) hc
  have hline : dropLineEnd ('q' :: Nat.toDigits 10 index) = 'q' :: Nat.toDigits 10 index := by
    rw [dropLineEnd, if_neg]
    intro hlast
    rcases List.mem_cons.1 (List.mem_of_getLast? hlast) with h | h
    · cases h
    · exact absurd (hdigit _ h) (by decide)
  have hname : isName ('q' :: Nat.toDigits 10 index) = true := by
    have hall : (Nat.toDigits 10 index).all (fun d => isNameStart d || d.isDigit) = true :=
      List.all_eq_true.2 fun c hc => by rw [hdigit c hc, Bool.or_true]
    rw [isName, hall]
    rfl
  have hkeyword : keywords.contains
      (String.ofList (('q' :: Nat.toDigits 10 index).map Char.toLower)) = false := by
    -- no keyword begins like the name of a state
    have hhead : ∀ k ∈ keywords, k.toList.head? ≠ some 'q' := by decide +kernel
    rw [List.contains_eq_mem, decide_eq_false_iff_not]
    intro hmem
    refine hhead _ hmem ?_
    rw [String.toList_ofList, List.map_cons, List.head?_cons]
    rfl
  have hbare : isBare ('q' :: Nat.toDigits 10 index) = true := by
    rw [isBare, hline, hname, hkeyword]
    rfl
  rw [word, toList_stateName, wordOf, if_pos hbare, ← toList_stateName, String.ofList_toList]

/-- It can be seen where the name of a state ends if no digit is behind it. -/
theorem stateName_delimits :
    Text.Delimits (fun index => (stateName index).toList) (fun _ => True)
      (fun rest => ∀ c ∈ rest.head?, c.isDigit = false) := by
  have hdigit : ∀ index, ∀ c ∈ Nat.toDigits 10 index, c.isDigit = true := fun _ c hc =>
    Nat.isDigit_of_mem_toDigits (by decide) (by decide) hc
  intro index index' rest rest' _ _ hrest hrest' h
  simp only [toList_stateName, List.cons_append, List.cons.injEq, true_and] at h
  obtain ⟨hdigits, hrests⟩ := Text.append_inj_of_inside (hdigit index) (hdigit index')
    (fun c hc => by rw [hrest c hc]; exact Bool.false_ne_true)
    (fun c hc => by rw [hrest' c hc]; exact Bool.false_ne_true) h
  have hindex := congrArg (fun digits => Nat.ofDigitChars 10 digits 0) hdigits
  simp only [Nat.ofDigitChars_ten_toDigits] at hindex
  exact ⟨hindex, hrests⟩

end FiniteAutomata.Dot

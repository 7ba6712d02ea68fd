import FiniteAutomata.Proofs.Text.Delimiting
import FiniteAutomata.Text.Quoted
import Mathlib.Tactic.NormNum

namespace FiniteAutomata.Text

/-!
# Quoted literals can be read back

Every escape ends by itself: a letter tells how many digits follow, and what is no escape is one
character. None begins with the quote, so that a literal ends at the first quote that is not part of
an escape.

* `ofHexadecimal`: the number with the given digits in base sixteen.
* `unescape`: reads one character inside quotes.
* `Escaped`: the ways in which a character is written.
* `unescape_escape`: the reader reads what was written.
* `quotedWith_delimits`: a literal shows where it ends and which text it stands for.
-/

/-! ### Base sixteen -/

/-- The value of a digit in base sixteen. -/
def hexadecimalDigit (c : Char) : Nat := if c.isDigit then c.toNat - 48 else c.toNat - 87

/-- The number with the given digits in base sixteen. -/
def ofHexadecimal (digits : List Char) : Nat :=
  digits.foldl (fun n c => 16 * n + hexadecimalDigit c) 0

theorem hexadecimalDigit_digitChar : ∀ d < 16, hexadecimalDigit (Nat.digitChar d) = d := by decide

theorem ofHexadecimal_append_singleton (digits : List Char) (c : Char) :
    ofHexadecimal (digits ++ [c]) = 16 * ofHexadecimal digits + hexadecimalDigit c := by
  rw [ofHexadecimal, List.foldl_append]
  rfl

theorem ofHexadecimal_replicate_append (count : Nat) (digits : List Char) :
    ofHexadecimal (List.replicate count '0' ++ digits) = ofHexadecimal digits := by
  induction count with
  | zero => rfl
  | succ count ih =>
    rw [List.replicate_succ, List.cons_append, ofHexadecimal, List.foldl_cons]
    exact ih

theorem ofHexadecimal_toDigits (n : Nat) : ofHexadecimal (Nat.toDigits 16 n) = n := by
  induction n using Nat.strongRecOn with
  | ind n ih =>
    rw [Nat.toDigits_eq_if (by decide)]
    split
    · rename_i hn
      have hdigit := hexadecimalDigit_digitChar n hn
      rw [ofHexadecimal, List.foldl_cons, List.foldl_nil, hdigit]
      omega
    · rename_i hn
      rw [ofHexadecimal_append_singleton, ih (n / 16) (by omega),
        hexadecimalDigit_digitChar (n % 16) (Nat.mod_lt n (by decide))]
      omega

theorem ofHexadecimal_hexadecimal (width n : Nat) : ofHexadecimal (hexadecimal width n) = n := by
  rw [hexadecimal, ofHexadecimal_replicate_append, ofHexadecimal_toDigits]

theorem length_hexadecimal {width n : Nat} (hwidth : 0 < width) (hn : n < 16 ^ width) :
    (hexadecimal width n).length = width := by
  have hle := (Nat.length_toDigits_le_iff (b := 16) (by decide) hwidth).2 hn
  rw [hexadecimal, List.length_append, List.length_replicate]
  omega

/-! ### Reading one character -/

/-- How many digits follow a letter behind a backslash. -/
def codeWidth? (c : Char) : Option Nat :=
  if c = 'x' then some 2 else if c = 'u' then some 4 else if c = 'U' then some 8 else none

/-- The character that is meant by one behind a backslash. -/
def meantBy (c : Char) : Char :=
  if c = 't' then '\t' else if c = 'n' then '\n' else if c = 'r' then '\r' else c

/-- Reads one character inside quotes. -/
def unescape : List Char → Option (Char × List Char)
  | [] => none
  | c :: rest =>
    if c = '\\' then
      match rest with
      | [] => none
      | d :: rest =>
        match codeWidth? d with
        | some width => some (Char.ofNat (ofHexadecimal (rest.take width)), rest.drop width)
        | none => some (meantBy d, rest)
    else some (c, rest)

theorem unescape_backslash (d : Char) (rest : List Char) (hd : codeWidth? d = none) :
    unescape ('\\' :: d :: rest) = some (meantBy d, rest) := by
  simp [unescape, hd]

/-- A character that is written by its code is read back. -/
theorem unescape_code {d c : Char} {width : Nat} (hd : codeWidth? d = some width)
    (hwidth : 0 < width) (hc : c.toNat < 16 ^ width) (rest : List Char) :
    unescape ('\\' :: d :: hexadecimal width c.toNat ++ rest) = some (c, rest) := by
  have hlength := length_hexadecimal hwidth hc
  simp only [unescape, List.cons_append, if_pos, hd]
  rw [List.take_append_of_le_length (Nat.le_of_eq hlength.symm),
    List.take_of_length_le (Nat.le_of_eq hlength),
    List.drop_append_of_le_length (Nat.le_of_eq hlength.symm),
    List.drop_of_length_le (Nat.le_of_eq hlength),
    ofHexadecimal_hexadecimal, Char.ofNat_toNat, List.nil_append]

/-- A quote of either sort. -/
def IsQuote (c : Char) : Prop := c = '\x27' ∨ c = '"'

theorem isQuote_quote (text : List Char) : IsQuote (quote text) := by
  rw [quote]
  split
  · exact .inr rfl
  · exact .inl rfl

/-- The three ways to write a character inside the quotes `q`: a backslash with one more character,
    the character itself, and a backslash with a letter and digits. -/
inductive Escaped (q c : Char) : List Char → Prop
  | short {d : Char} (hd : codeWidth? d = none) (hc : meantBy d = c) : Escaped q c ['\\', d]
  | itself (hq : c ≠ q) (hbackslash : c ≠ '\\') : Escaped q c [c]
  | code {d : Char} {width : Nat} (hd : codeWidth? d = some width) (hwidth : 0 < width)
    (hc : c.toNat < 16 ^ width) : Escaped q c ('\\' :: d :: hexadecimal width c.toNat)

theorem escaped_escape (printable : Char → Bool) {q : Char} (hq : IsQuote q) (c : Char) :
    Escaped q c (escape printable q c) := by
  have hlt : c.toNat < 16 ^ 8 := c.val.toNat_lt
  rw [escape]
  split_ifs with hc htab hline hreturn hprintable hbyte hplane
  · rcases hc with rfl | rfl
    · rcases hq with rfl | rfl
      · exact .short rfl rfl
      · exact .short rfl rfl
    · exact .short rfl rfl
  · exact .short rfl htab.symm
  · exact .short rfl hline.symm
  · exact .short rfl hreturn.symm
  · exact .itself (fun h => hc (.inl h)) fun h => hc (.inr h)
  · exact .code rfl (by decide) hbyte
  · exact .code rfl (by decide) hplane
  · exact .code rfl (by decide) hlt

/-- The reader reads what was written, whatever is behind it. -/
theorem unescape_escape (printable : Char → Bool) {q : Char} (hq : IsQuote q) (c : Char)
    (rest : List Char) : unescape (escape printable q c ++ rest) = some (c, rest) := by
  have hescaped := escaped_escape printable hq c
  generalize escape printable q c = written at hescaped ⊢
  cases hescaped with
  | @short d hd hc =>
    rw [List.cons_append, List.cons_append, List.nil_append, unescape_backslash d rest hd, hc]
  | itself _ hbackslash => simp [unescape, hbackslash]
  | code hd hwidth hc => exact unescape_code hd hwidth hc rest

/-! ### Literals -/

/-- An escape never begins with the quote. -/
theorem head_escape_ne (printable : Char → Bool) {q : Char} (hq : IsQuote q) (c : Char)
    (rest : List Char) : (escape printable q c ++ rest).head? ≠ some q := by
  have hbackslash : '\\' ≠ q := by
    rcases hq with rfl | rfl <;> decide
  have hescaped := escaped_escape printable hq c
  generalize escape printable q c = written at hescaped ⊢
  cases hescaped with
  | short _ _ => simpa using hbackslash
  | itself hne _ => simpa using hne
  | code _ _ _ => simpa using hbackslash

/-- What stands inside quotes can be told from the rest behind the quote. -/
theorem flatMap_escape_delimits (printable : Char → Bool) {q : Char} (hq : IsQuote q) :
    Delimits (fun text : List Char => text.flatMap (escape printable q)) (fun _ => True)
      (fun rest => rest.head? = some q) := by
  have hescape : Delimits (escape printable q) (fun _ => True) (fun _ => True) :=
    .of_reader unescape fun c rest _ _ => unescape_escape printable hq c rest
  have hflatMap := hescape.flatMap (fun rest => rest.head? = some q)
    (fun _ _ _ => trivial) (fun _ _ => trivial) fun c rest _ => head_escape_ne printable hq c rest
  exact fun text text' rest rest' _ _ => hflatMap (fun _ _ => trivial) (fun _ _ => trivial)

/-- A literal shows where it ends and which text it stands for. -/
theorem quotedWith_delimits (printable : Char → Bool) :
    Delimits (quotedWith printable) (fun _ => True) (fun _ => True) := by
  intro text text' rest rest' _ _ _ _ h
  simp only [quotedWith, List.cons_append, List.append_assoc, List.cons.injEq,
    List.nil_append] at h
  obtain ⟨hquote, hbody⟩ := h
  -- the first character is the quote, and both texts are escaped for it
  rw [← hquote] at hbody
  obtain ⟨htext, hrest⟩ := flatMap_escape_delimits printable (isQuote_quote text) trivial trivial
    rfl rfl hbody
  simp only [List.cons.injEq, true_and] at hrest
  exact ⟨htext, hrest⟩

end FiniteAutomata.Text

import FiniteAutomata.Drawing
import FiniteAutomata.Proofs.Outcome
import FiniteAutomata.Proofs.Text.Quoted

namespace FiniteAutomata

/-!
# Labels can be told apart

A label is a quoted literal, or a text without commas and quotes. The first character tells which,
and so it can be seen where a label ends when labels stand one after another.

* `IsLabel`: the texts that are labels.
* `isLabel_textLabel`, `textLabel_injective`, `textLabel_ne_epsilonLabel`: every text has a label of
  its own, and it is not that of an epsilon transition.
* `labelOf_eq_ok_iff`, `labelOf_eq_iff`: the label of a symbol is that of its text.
* `LabelAmong`: the labels of several texts and of an epsilon transition.
* `labelAmong_iff`: they tell which texts there are, and whether there is an epsilon transition.
* `label_delimits`: a label ends before a comma or at the end.
* `intercalate_labels_injective`: labels with gaps between them are those labels and no others.
-/

/-- Stands in a label as it is. -/
def IsPlain (c : Char) : Prop := c ≠ ',' ∧ ¬ Text.IsQuote c

/-- What a label looks like. -/
inductive IsLabel : List Char → Prop
  | plain {text : List Char} (hne : text ≠ []) (h : ∀ c ∈ text, IsPlain c) : IsLabel text
  | quoted (text : List Char) : IsLabel (Text.quotedWith Text.isPrintable text)

theorem IsLabel.ne_nil {label : List Char} (h : IsLabel label) : label ≠ [] := by
  cases h with
  | plain hne _ => exact hne
  | quoted text => exact List.cons_ne_nil _ _

theorem isPlain_of_not_isMisleading {text : String} (h : isMisleading text = false) :
    ∀ c ∈ text.toList, IsPlain c := by
  intro c hc
  simp only [isMisleading, Bool.or_eq_false_iff, List.any_eq_false] at h
  have hany : (c ≠ ',' ∧ c ≠ '"') ∧ c ≠ '\x27' := by simpa [not_or] using h.2 c hc
  exact ⟨hany.1.1, fun hquote => hquote.elim hany.2 hany.1.2⟩

/-- The label of a text is a label. -/
theorem isLabel_textLabel (text : String) : IsLabel (textLabel text).toList := by
  rw [textLabel]
  split
  · rw [Text.quoted, String.toList_ofList]
    exact .quoted text.toList
  · rename_i h
    rw [Bool.not_eq_true] at h
    refine .plain ?_ (isPlain_of_not_isMisleading h)
    intro hnil
    simp [isMisleading, String.toList_eq_nil_iff.1 hnil] at h

theorem isLabel_epsilonLabel : IsLabel epsilonLabel.toList := by
  -- the bare letter looks like the label of a text, but no text keeps it bare
  refine .plain (by decide +kernel) fun c hc => ?_
  have hc : c = 'ε' := by simpa [epsilonLabel] using hc
  subst hc
  exact ⟨by decide, by rintro (h | h) <;> cases h⟩

/-- A literal begins with a quote. -/
theorem head_quoted (text : String) :
    ∃ q, Text.IsQuote q ∧ (Text.quoted text).toList.head? = some q := by
  refine ⟨Text.quote text.toList, Text.isQuote_quote _, ?_⟩
  rw [Text.quoted, String.toList_ofList]
  rfl

theorem quoted_ne_of_not_isMisleading {text text' : String} (h : isMisleading text' = false) :
    Text.quoted text ≠ text' := by
  rintro rfl
  obtain ⟨q, hq, hhead⟩ := head_quoted text
  exact (isPlain_of_not_isMisleading h q (List.mem_of_mem_head? hhead)).2 hq

theorem quoted_injective {text text' : String} (h : Text.quoted text = Text.quoted text') :
    text = text' := by
  rw [Text.quoted, Text.quoted, String.ofList_inj] at h
  exact String.toList_inj.1
    ((Text.quotedWith_delimits Text.isPrintable).injective trivial trivial trivial h)

/-- Every text has a label of its own. -/
theorem textLabel_injective {text text' : String} (h : textLabel text = textLabel text') :
    text = text' := by
  rw [textLabel, textLabel] at h
  split_ifs at h with hleft hright hright
  · exact quoted_injective h
  · exact absurd h (quoted_ne_of_not_isMisleading (Bool.not_eq_true _ ▸ hright))
  · exact absurd h.symm (quoted_ne_of_not_isMisleading (Bool.not_eq_true _ ▸ hleft))
  · exact h

/-- No text has the label of an epsilon transition. -/
theorem textLabel_ne_epsilonLabel (text : String) : textLabel text ≠ epsilonLabel := by
  rw [textLabel]
  split
  · intro h
    obtain ⟨q, hq, hhead⟩ := head_quoted text
    rw [h] at hhead
    have hq' : q = 'ε' := by simpa [epsilonLabel] using hhead.symm
    subst hq'
    rcases hq with h | h <;> cases h
  · rename_i hplain
    rintro rfl
    exact hplain rfl

/-! ### Labels of symbols -/

theorem labelOf_eq_ok_iff {v : Value} {label : String} :
    labelOf v = .ok label ↔ ∃ text, v.plain = .ok text ∧ label = textLabel text := by
  rw [labelOf, bind_eq_ok_iff]
  simp only [pure_eq_ok, Except.ok.injEq, eq_comm]

/-- Symbols have the same label exactly if they have the same text, or none for the same reason. -/
theorem labelOf_eq_iff {v v' : Value} : labelOf v = labelOf v' ↔ v.plain = v'.plain := by
  constructor
  · intro h
    cases hv : v.plain with
    | ok text =>
      have hlabel : labelOf v' = .ok (textLabel text) := by
        rw [← h, labelOf_eq_ok_iff]
        exact ⟨text, hv, rfl⟩
      obtain ⟨text', hv', heq⟩ := labelOf_eq_ok_iff.1 hlabel
      rw [hv', textLabel_injective heq]
    | error fault =>
      -- without a text there is no label either, for the same reason
      rw [labelOf, labelOf, hv, error_bind] at h
      cases hv' : v'.plain with
      | ok text' =>
        rw [hv'] at h
        cases h
      | error fault' =>
        rw [hv'] at h
        cases h
        rfl
  · intro h
    rw [labelOf, labelOf, h]

/-- No symbol has the label of an epsilon transition. -/
theorem labelOf_ne_epsilonLabel (v : Value) : labelOf v ≠ .ok epsilonLabel := by
  intro h
  obtain ⟨text, -, hlabel⟩ := labelOf_eq_ok_iff.1 h
  exact textLabel_ne_epsilonLabel text hlabel.symm

/-! ### Labels of several transitions -/

/-- The label of one of the texts, or that of an epsilon transition if there is one. -/
def LabelAmong (reads : String → Prop) (silent : Prop) (label : String) : Prop :=
  (∃ text, reads text ∧ label = textLabel text) ∨ (silent ∧ label = epsilonLabel)

section LabelAmong

variable {reads reads' : String → Prop} {silent silent' : Prop} {text label : String}

theorem LabelAmong.isLabel (h : LabelAmong reads silent label) : IsLabel label.toList := by
  rcases h with ⟨text, -, rfl⟩ | ⟨-, rfl⟩
  · exact isLabel_textLabel text
  · exact isLabel_epsilonLabel

/-- The label of a text stands for that text and for nothing else. -/
theorem labelAmong_textLabel_iff : LabelAmong reads silent (textLabel text) ↔ reads text := by
  constructor
  · rintro (⟨text', hreads, hlabel⟩ | ⟨-, hlabel⟩)
    · exact textLabel_injective hlabel ▸ hreads
    · exact absurd hlabel (textLabel_ne_epsilonLabel text)
  · exact fun hreads => .inl ⟨text, hreads, rfl⟩

/-- The label of an epsilon transition stands for no text. -/
theorem labelAmong_epsilonLabel_iff : LabelAmong reads silent epsilonLabel ↔ silent := by
  constructor
  · rintro (⟨text, -, hlabel⟩ | ⟨hsilent, -⟩)
    · exact absurd hlabel.symm (textLabel_ne_epsilonLabel text)
    · exact hsilent
  · exact fun hsilent => .inr ⟨hsilent, rfl⟩

/-- The labels tell which texts there are, and whether there is an epsilon transition. -/
theorem labelAmong_iff :
    (∀ label, LabelAmong reads silent label ↔ LabelAmong reads' silent' label) ↔
      (∀ text, reads text ↔ reads' text) ∧ (silent ↔ silent') := by
  constructor
  · intro h
    constructor
    · intro text
      calc reads text ↔ LabelAmong reads silent (textLabel text) := labelAmong_textLabel_iff.symm
        _ ↔ LabelAmong reads' silent' (textLabel text) := h (textLabel text)
        _ ↔ reads' text := labelAmong_textLabel_iff
    · calc silent ↔ LabelAmong reads silent epsilonLabel := labelAmong_epsilonLabel_iff.symm
        _ ↔ LabelAmong reads' silent' epsilonLabel := h epsilonLabel
        _ ↔ silent' := labelAmong_epsilonLabel_iff
  · rintro ⟨htexts, hsilent⟩ label
    simp only [LabelAmong, htexts, hsilent]

end LabelAmong

/-! ### Labels one after another -/

/-- May stand behind a label: a comma or nothing. -/
def EndsLabel (rest : List Char) : Prop := ∀ c ∈ rest.head?, c = ','

theorem EndsLabel.not_isPlain {rest : List Char} (h : EndsLabel rest) :
    ∀ c ∈ rest.head?, ¬ IsPlain c :=
  fun c hc hplain => hplain.1 (h c hc)

/-- A plain label and a literal are told apart by their first characters. -/
theorem plain_append_ne_quoted {label rest text rest' : List Char} (hne : label ≠ [])
    (hlabel : ∀ c ∈ label, IsPlain c) :
    label ++ rest ≠ Text.quotedWith Text.isPrintable text ++ rest' := by
  intro h
  obtain ⟨c, label', rfl⟩ := List.exists_cons_of_ne_nil hne
  rw [Text.quotedWith, List.cons_append, List.cons_append, List.cons_append, List.cons.injEq] at h
  exact (hlabel c List.mem_cons_self).2 (h.1 ▸ Text.isQuote_quote text)

/-- It can be seen where a label ends. -/
theorem label_delimits : Text.Delimits (fun label => label) IsLabel EndsLabel := by
  intro label label' rest rest' hlabel hlabel' hrest hrest' h
  cases hlabel with
  | plain hne hplain =>
    cases hlabel' with
    | plain hne' hplain' =>
      -- both end at the first comma, if there is one
      exact Text.append_inj_of_inside hplain hplain' hrest.not_isPlain hrest'.not_isPlain h
    | quoted text' => exact absurd h (plain_append_ne_quoted hne hplain)
  | quoted text =>
    cases hlabel' with
    | plain hne' hplain' => exact absurd h.symm (plain_append_ne_quoted hne' hplain')
    | quoted text' =>
      -- commas inside quotes do not matter: a literal ends by itself
      obtain ⟨htext, hrests⟩ :=
        Text.quotedWith_delimits Text.isPrintable trivial trivial trivial trivial h
      exact ⟨by rw [htext], hrests⟩

/-- A label behind a gap. -/
def behindGap (label : String) : List Char := labelGap.toList ++ label.toList

theorem toList_intercalate_labels (label : String) (labels : List String) :
    (labelGap.intercalate (label :: labels)).toList =
      label.toList ++ labels.flatMap behindGap := by
  induction labels generalizing label with
  | nil => simp
  | cons label' rest ih =>
    rw [String.intercalate_cons_cons, String.toList_append, String.toList_append, ih,
      List.flatMap_cons, behindGap]
    simp only [List.append_assoc]

theorem endsLabel_behindGap (label : String) (rest : List Char) :
    EndsLabel (behindGap label ++ rest) := by
  intro c hc
  simpa [behindGap, labelGap] using hc.symm

theorem endsLabel_flatMap_behindGap (labels : List String) :
    EndsLabel (labels.flatMap behindGap) := by
  cases labels with
  | nil => simp [EndsLabel]
  | cons label rest => exact endsLabel_behindGap label _

/-- It can be seen where a label behind a gap ends. -/
theorem behindGap_delimits :
    Text.Delimits behindGap (fun label => IsLabel label.toList) EndsLabel := by
  intro label label' rest rest' hlabel hlabel' hrest hrest' h
  simp only [behindGap, List.append_assoc, List.append_cancel_left_eq] at h
  obtain ⟨heq, hrests⟩ := label_delimits hlabel hlabel' hrest hrest' h
  exact ⟨String.toList_inj.1 heq, hrests⟩

/-- Labels behind gaps, one after another up to the end, are those labels and no others. -/
theorem flatMap_behindGap_injective {labels labels' : List String}
    (hlabels : ∀ label ∈ labels, IsLabel label.toList)
    (hlabels' : ∀ label ∈ labels', IsLabel label.toList)
    (h : labels.flatMap behindGap = labels'.flatMap behindGap) : labels = labels' := by
  have hgaps := behindGap_delimits.flatMap (fun rest => rest = [])
    (fun label rest _ => endsLabel_behindGap label rest)
    (fun rest hrest => by simp [EndsLabel, hrest])
    fun label rest _ hnil => by simp [behindGap, labelGap] at hnil
  exact hgaps.injective rfl hlabels hlabels' h

/-- Some label with gaps behind it is never the empty text. -/
theorem intercalate_labels_ne_empty {label : String} (hlabel : IsLabel label.toList)
    (labels : List String) : labelGap.intercalate (label :: labels) ≠ "" := by
  intro h
  have hlist := congrArg String.toList h
  rw [toList_intercalate_labels] at hlist
  exact hlabel.ne_nil (List.append_eq_nil_iff.1 hlist).1

/-- Labels with gaps between them are those labels and no others. -/
theorem intercalate_labels_injective {labels labels' : List String}
    (hlabels : ∀ label ∈ labels, IsLabel label.toList)
    (hlabels' : ∀ label ∈ labels', IsLabel label.toList)
    (h : labelGap.intercalate labels = labelGap.intercalate labels') : labels = labels' := by
  cases labels with
  | nil =>
    cases labels' with
    | nil => rfl
    | cons label' rest' =>
      rw [String.intercalate_nil] at h
      exact absurd h.symm (intercalate_labels_ne_empty (hlabels' label' List.mem_cons_self) rest')
  | cons label rest =>
    cases labels' with
    | nil =>
      rw [String.intercalate_nil] at h
      exact absurd h (intercalate_labels_ne_empty (hlabels label List.mem_cons_self) rest)
    | cons label' rest' =>
      -- the first label ends where the gap behind it begins
      have hlist := congrArg String.toList h
      rw [toList_intercalate_labels, toList_intercalate_labels] at hlist
      rw [List.forall_mem_cons] at hlabels hlabels'
      obtain ⟨hlabel, hrests⟩ := label_delimits hlabels.1 hlabels'.1
        (endsLabel_flatMap_behindGap rest) (endsLabel_flatMap_behindGap rest') hlist
      rw [String.toList_inj.1 hlabel, flatMap_behindGap_injective hlabels.2 hlabels'.2 hrests]

end FiniteAutomata

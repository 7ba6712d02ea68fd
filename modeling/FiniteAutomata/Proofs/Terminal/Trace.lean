import FiniteAutomata.Proofs.Concatenation
import FiniteAutomata.Proofs.Dfa.Simulation
import FiniteAutomata.Proofs.Naming
import FiniteAutomata.Proofs.Safety

namespace FiniteAutomata

/-!
# Traces tell the truth about runs

A trace comes from two runs: one that keeps all states, from which the symbol at which it is stuck is
told by counting, and one for the verdict. The two of them go together, so that the lines are what the
word does to the automaton.

* `Terminal.Tells`: a trace is made of lines for the beginnings of a word and of what a test shows.
* `Terminal.traceWord_eq`, `Terminal.testWord_eq`: traces and tests by the two runs.
* `Dfa.Traced`, `Nfa.Traced`: what the lines say of an automaton.
* `Dfa.Sound.traced`, `Nfa.Sound.traced`: it is true.
* `trace_tells`: traces of automata after any calls.
-/

/-! ### Lines -/

namespace Terminal

/-- The line about the beginning of a word of the given length: two spaces, its letters, a colon and the
    label. An epsilon stands for the empty beginning. -/
def beginningLine (word : List Char) (read : Nat) (label : String) : String :=
  "  " ++ (if read = 0 then "ε" else String.ofList (word.take read)) ++ ": " ++ label

/-- A trace that is not broken off shows a line for each label, then the line about the symbol at which
    it is stuck, if there is one, and at last what the test shows. -/
structure Tells (word : List Char) (labels : List String) (stuck : Option String)
    (trace test : Outcome) : Prop where
  fault : trace.fault = none
  output : trace.output =
    String.join ((labels.mapIdx (beginningLine word) ++ stuck.toList).map lineOf) ++ test.output
  /-- The test shows the verdict and nothing else. -/
  verdict : test.output = lineOf "ACCEPTED" ∨ test.output = lineOf "REJECTED"
  /-- Where the word is accepted, there is a line for all of it and none about being stuck. -/
  accepted : test.output = lineOf "ACCEPTED" → labels.length = word.length + 1 ∧ stuck = none

/-- The text about the symbol at which a path is stuck, if it is. -/
def stuckText? (word : List Char) (path : List Nat) : Option String :=
  if path.length ≤ word.length then
    word[path.length - 1]?.map fun c =>
      "  stuck at symbol " ++ path.length.repr ++ ": " ++ Text.quoted (String.singleton c)
  else none

theorem beginningLines_eq (word : List Char) (labels : List String) :
    beginningLines word labels = String.join ((labels.mapIdx (beginningLine word)).map lineOf) := by
  rw [beginningLines, List.mapIdx_eq_zipIdx_map, List.mapIdx_eq_zipIdx_map, List.map_map]
  rfl

theorem stuckLine_eq (word : List Char) (path : List Nat) :
    stuckLine word path = String.join ((stuckText? word path).toList.map lineOf) := by
  rw [stuckLine, stuckText?]
  split
  · cases word[path.length - 1]? <;> simp
  · rfl

theorem verdictLine_eq_accepted_iff {v : Verdict} :
    verdictLine v = lineOf "ACCEPTED" ↔ v.accepted = true := by
  rw [verdictLine]
  cases v.accepted <;> decide

section Outcomes

variable {a : Automaton} {arguments : List String} {v : Verdict}
  (hjudge : a.judge (.text (wordArgument arguments)) = .ok v)
include hjudge

theorem testWord_eq :
    testWord a arguments = { automaton := a, output := verdictLine v, report := v.report } := by
  simp only [testWord, judgeWord_def, hjudge, String.empty_append]

theorem traceWord_eq {run : Automaton.Run}
    (hsimulate : a.simulate (.text (wordArgument arguments)) = .ok run)
    (hrun : sawNothing run = false) :
    traceWord a arguments =
      { automaton := a
        output := traceLines (wordArgument arguments).toList run ++ verdictLine v
        report := v.report } := by
  simp only [traceWord_def, hsimulate, hrun, judgeWord_def, hjudge, Bool.false_eq_true, if_false]

/-- The two runs of a trace make it what it is. -/
theorem tells {run : Automaton.Run} {labels : List String} {stuck : Option String}
    (hsimulate : a.simulate (.text (wordArgument arguments)) = .ok run)
    (hrun : sawNothing run = false)
    (hlines : traceLines (wordArgument arguments).toList run =
      String.join ((labels.mapIdx (beginningLine (wordArgument arguments).toList) ++
        stuck.toList).map lineOf))
    (haccepted : v.accepted = true →
      labels.length = (wordArgument arguments).toList.length + 1 ∧ stuck = none) :
    Tells (wordArgument arguments).toList labels stuck (traceWord a arguments)
      (testWord a arguments) := by
  rw [traceWord_eq hjudge hsimulate hrun, testWord_eq hjudge]
  refine ⟨rfl, by rw [hlines], ?_, fun h => haccepted (verdictLine_eq_accepted_iff.1 h)⟩
  show verdictLine v = _ ∨ verdictLine v = _
  rw [verdictLine]
  cases v.accepted
  · exact .inr rfl
  · exact .inl rfl

end Outcomes

end Terminal

/-! ### Deterministic automata -/

namespace Dfa

/-- What the lines of a trace say: the states that the beginnings of the word reach, and where the word
    is stuck. -/
structure Traced (d : Dfa) (start : Nat) (word : List Char) (labels : List String)
    (stuck : Option String) : Prop where
  /-- There are as many lines as states are visited. -/
  length : ∃ path, d.simulate (.text (String.ofList word)) = .ok path ∧
    labels.length = path.length
  /-- Each label is the name of the state that is reached by the beginning of its line. -/
  label : ∀ i label, labels[i]? = some label →
    ∃ s, d.stateAfter start ((word.take i).map .ofChar) = some s ∧ (d.state s).plain = .ok label
  /-- The line about being stuck is there exactly if some beginning of the word reaches no state. -/
  stuck_iff : stuck.isSome = true ↔
    ∃ i ≤ word.length, d.stateAfter start ((word.take i).map .ofChar) = none
  /-- It names the position, counted from one, and the character of the first symbol that leads
      nowhere: behind the last state that is shown. -/
  stuck_at : ∀ line, stuck = some line → ∃ p s c, labels.length = p + 1 ∧
    d.stateAfter start ((word.take p).map .ofChar) = some s ∧ word[p]? = some c ∧
      d.next (d.state s) (.ofChar c) = .ok none ∧
        line = "  stuck at symbol " ++ (p + 1).repr ++ ": " ++ Text.quoted (String.singleton c)

variable {d : Dfa} {start : Nat}

/-- A word reaches no state exactly if one of its beginnings reaches none. -/
theorem stateAfter_eq_none_iff {word : List Symbol} :
    d.stateAfter start word = none ↔ ∃ i ≤ word.length, d.stateAfter start (word.take i) = none := by
  constructor
  · intro h
    exact ⟨word.length, Nat.le_refl _, by rwa [List.take_length]⟩
  · rintro ⟨i, -, h⟩
    rw [← List.take_append_drop i word, stateAfter_append, h, Option.bind_none]

/-- The path has no more states than the word has symbols exactly if the word reaches no state. -/
theorem length_visited_le_iff {word : List Symbol} :
    (d.visited start word).length ≤ word.length ↔ d.stateAfter start word = none := by
  have hle := length_visited_le d start word
  have heq : (d.visited start word).length = word.length + 1 ↔ d.stateAfter start word ≠ none :=
    length_visited_eq_iff.trans Option.ne_none_iff_exists'.symm
  constructor
  · intro h
    by_contra hsome
    have := heq.2 hsome
    omega
  · intro h
    have hne : (d.visited start word).length ≠ word.length + 1 := fun hlength => heq.1 hlength h
    omega

theorem isSome_stuckText?_iff {word : List Char} {path : List Nat} (hpath : 0 < path.length) :
    (Terminal.stuckText? word path).isSome = true ↔ path.length ≤ word.length := by
  rw [Terminal.stuckText?]
  split
  · rename_i hle
    have hlt : path.length - 1 < word.length := by omega
    rw [List.getElem?_eq_getElem hlt]
    exact iff_of_true rfl hle
  · rename_i hle
    exact iff_of_false Bool.false_ne_true hle

/-- The lines of a trace are true. -/
theorem Sound.traced (h : d.Sound) (hstart : d.initial? = some start)
    (hsize : d.size < 10 ^ Text.maxDigits) (word : List Char) :
    d.Traced start word ((d.visited start (word.map .ofChar)).map stateName)
      (Terminal.stuckText? word (d.visited start (word.map .ofChar))) where
  length := ⟨_, simulate_eq hstart (Value.items?_ofList word), List.length_map _⟩
  label i label hlabel := by
    rw [List.getElem?_map, Option.map_eq_some_iff] at hlabel
    obtain ⟨s, hs, rfl⟩ := hlabel
    obtain ⟨-, hs⟩ := getElem?_visited_eq_some_iff.1 hs
    have hlt := h.stateAfter_lt (h.initial.initial_lt hstart) hs
    rw [← List.map_take] at hs
    exact ⟨s, hs, plain_state (hlt.trans hsize) _⟩
  stuck_iff := by
    have hlength : word.length = (word.map Symbol.ofChar).length := (List.length_map _).symm
    rw [isSome_stuckText?_iff (length_visited_pos d start _), hlength, length_visited_le_iff,
      stateAfter_eq_none_iff]
    simp only [List.map_take]
  stuck_at line hline := by
    rw [Terminal.stuckText?] at hline
    split at hline
    · rename_i hle
      obtain ⟨c, hc, rfl⟩ := Option.map_eq_some_iff.1 hline
      have hpos := length_visited_pos d start (word.map .ofChar)
      have hne : (d.visited start (word.map .ofChar)).length ≠ (word.map Symbol.ofChar).length + 1 := by
        rw [List.length_map]
        omega
      obtain ⟨s, a, hlast, ha, hnext⟩ := h.stuck_visited (h.initial.initial_lt hstart) hne
      obtain ⟨s', hlast', hafter⟩ := getLast?_visited d start (word.map .ofChar)
      -- the last state of the path is the one that has no successor
      obtain rfl : s' = s := Option.some.inj (hlast'.symm.trans hlast)
      obtain rfl : Symbol.ofChar c = a := by
        rw [List.getElem?_map, hc] at ha
        exact Option.some.inj ha
      rw [← List.map_take] at hafter
      refine ⟨_, s', c, ?_, hafter, hc, hnext, ?_⟩
      · rw [List.length_map]
        omega
      · rw [Nat.sub_add_cancel hpos]
    · cases hline

/-- The trace of a word is made of true lines and of what a test of the word shows. -/
def TracesTruly (d : Dfa) (renderer : Renderer) (name : String) (arguments : List String) : Prop :=
  ∃ start labels stuck, d.initial? = some start ∧
    d.Traced start (Terminal.wordArgument arguments).toList labels stuck ∧
      Terminal.Tells (Terminal.wordArgument arguments).toList labels stuck
        (Terminal.Action.trace.perform renderer name arguments (.dfa d))
        (Terminal.Action.test.perform renderer name arguments (.dfa d))

theorem Sound.tracesTruly (h : d.Sound) (hpos : 0 < d.size) (hsize : d.size < 10 ^ Text.maxDigits)
    (renderer : Renderer) (name : String) (arguments : List String) :
    d.TracesTruly renderer name arguments := by
  obtain ⟨start, hstart⟩ := h.initial.exists_initial hpos
  have hitems := Value.items?_text (Terminal.wordArgument arguments)
  refine ⟨start, _, _, hstart, h.traced hstart hsize _, ?_⟩
  have hjudge : (Automaton.dfa d).judge (.text (Terminal.wordArgument arguments)) = .ok _ :=
    (Automaton.judge_dfa d _).trans (judge_eq hstart hitems)
  have hsimulate := Automaton.simulate_eq_path (simulate_eq hstart hitems)
  refine Terminal.tells hjudge hsimulate ?_ ?_ ?_
  · exact List.isEmpty_eq_false_iff.2 (List.ne_nil_of_length_pos (length_visited_pos d start _))
  · rw [Terminal.traceLines, Terminal.beginningLines_eq, Terminal.stuckLine_eq,
      ← String.join_append, ← List.map_append]
  · -- an accepted word reaches a state, so that the path comes to its end
    intro haccepted
    obtain ⟨last, hlast, -⟩ := accepted_verdict_iff.1 haccepted
    have hlength := length_visited_eq_iff.2 ⟨last, hlast⟩
    rw [List.length_map] at hlength
    refine ⟨by rw [List.length_map, hlength], if_neg ?_⟩
    omega

end Dfa

/-! ### Nondeterministic automata -/

namespace Nfa

/-- What the lines of a trace say: the sets of states to which paths along the beginnings of the word
    lead. -/
structure Traced (n : Nfa) (start : Nat) (word : List Char) (labels : List String) : Prop where
  /-- There are as many lines as sets are seen. -/
  length : ∃ sets, n.simulate (.text (String.ofList word)) = .ok sets ∧
    labels.length = sets.length
  /-- Each label lists, in ascending order, the names of the states that are reached by the beginning of
      its line. -/
  label : ∀ i label, labels[i]? = some label → ∃ (set : StateSet) (names : List String),
    set.Ascends ∧ (∀ t, t ∈ set ↔ n.Path start ((word.take i).map .ofChar) t) ∧
      List.Forall₂ (fun t name => (n.state t).plain = .ok name) set names ∧
        label = "\x7b" ++ ",".intercalate names ++ "\x7d"

variable {n : Nfa} {start : Nat}

theorem forall₂_plain_stateName {set : StateSet} (hset : ∀ s ∈ set, s < 10 ^ Text.maxDigits)
    (r : Registry) :
    List.Forall₂ (fun t name => (r.state t).plain = .ok name) set (set.map stateName) := by
  rw [List.forall₂_map_right_iff, List.forall₂_same]
  exact fun s hs => plain_state (hset s hs) r

/-- The lines of a trace are true. -/
theorem Sound.traced (h : n.Sound) (hstart : n.initial? = some start)
    (hsize : n.size < 10 ^ Text.maxDigits) (word : List Char) :
    n.Traced start word ((n.seen (n.closureOf [start]) (word.map .ofChar)).map stateSet) where
  length := ⟨_, simulate_eq hstart (Value.items?_ofList word), List.length_map _⟩
  label i label hlabel := by
    rw [List.getElem?_map, Option.map_eq_some_iff] at hlabel
    obtain ⟨set, hset, rfl⟩ := hlabel
    obtain ⟨-, rfl⟩ := getElem?_seen_eq_some_iff.1 hset
    have hwithin := h.within_activeAfter
      (h.within_closureOf (List.forall_mem_singleton.2 (h.initial.initial_lt hstart)))
      ((word.map .ofChar).take i)
    refine ⟨_, _, hwithin.ascends, fun t => ?_,
      forall₂_plain_stateName (fun s hs => (hwithin.lt s hs).trans hsize) _,
      stateSet_of_ascends hwithin.ascends⟩
    rw [mem_activeAfter_closureOf_iff h, List.map_take]
    simp only [List.mem_singleton, exists_eq_left]

/-- The trace of a word is made of true lines, of which none is about being stuck, and of what a test
    of the word shows. -/
def TracesTruly (n : Nfa) (renderer : Renderer) (name : String) (arguments : List String) : Prop :=
  ∃ start labels, n.initial? = some start ∧
    n.Traced start (Terminal.wordArgument arguments).toList labels ∧
      Terminal.Tells (Terminal.wordArgument arguments).toList labels none
        (Terminal.Action.trace.perform renderer name arguments (.nfa n))
        (Terminal.Action.test.perform renderer name arguments (.nfa n))

theorem Sound.tracesTruly (h : n.Sound) (hpos : 0 < n.size) (hsize : n.size < 10 ^ Text.maxDigits)
    (renderer : Renderer) (name : String) (arguments : List String) :
    n.TracesTruly renderer name arguments := by
  obtain ⟨start, hstart⟩ := h.initial.exists_initial hpos
  have hitems := Value.items?_text (Terminal.wordArgument arguments)
  refine ⟨start, _, hstart, h.traced hstart hsize _, ?_⟩
  have hjudge : (Automaton.nfa n).judge (.text (Terminal.wordArgument arguments)) = .ok _ :=
    (Automaton.judge_nfa n _).trans (judge_eq hstart hitems)
  have hsimulate := Automaton.simulate_eq_trail (simulate_eq hstart hitems)
  refine Terminal.tells hjudge hsimulate ?_ ?_ ?_
  · refine List.isEmpty_eq_false_iff.2 (List.ne_nil_of_length_pos ?_)
    rw [length_seen]
    exact Nat.succ_pos _
  · rw [Terminal.traceLines, Terminal.beginningLines_eq, Option.toList_none, List.append_nil]
  · -- some state is active behind an accepted word, so that all of it was taken
    intro haccepted
    obtain ⟨last, hlast, -⟩ := accepted_verdict_iff.1 haccepted
    obtain ⟨hlength, -⟩ := activeAfter_ne_nil_iff.1 (List.ne_nil_of_mem hlast)
    rw [List.length_map] at hlength
    exact ⟨by rw [List.length_map, hlength], rfl⟩

end Nfa

/-! ### Automata that were built -/

/-- **A trace tells the truth about the run.** After any calls, the trace of a word by an automaton with
    a state shows which states each beginning of the word reaches, for as long as there are any, and
    in a deterministic automaton the first symbol that leads nowhere, if there is one. It ends with
    what a test of the word shows. -/
theorem trace_tells (owner : Nat) (calls : List Construction) (renderer : Renderer) (name : String)
    (arguments : List String) :
    (0 < ((Dfa.new owner).buildAll calls).size →
      ((Dfa.new owner).buildAll calls).size < 10 ^ Text.maxDigits →
        ((Dfa.new owner).buildAll calls).TracesTruly renderer name arguments) ∧
    (0 < ((Nfa.new owner).buildAll calls).size →
      ((Nfa.new owner).buildAll calls).size < 10 ^ Text.maxDigits →
        ((Nfa.new owner).buildAll calls).TracesTruly renderer name arguments) :=
  ⟨fun hpos hsize => (Dfa.sound_buildAll_new owner calls).tracesTruly hpos hsize renderer name
      arguments,
    fun hpos hsize => (Nfa.sound_buildAll_new owner calls).tracesTruly hpos hsize renderer name
      arguments⟩

/-- The deterministic automaton is stuck at the second letter of `aa`; the other one has gone back
    without reading before it. -/
theorem stuck_trace_tells :
    0 < ((Dfa.new 0).buildAll returnCalls).size ∧ 0 < ((Nfa.new 0).buildAll returnCalls).size ∧
      ((Dfa.new 0).buildAll returnCalls).size < 10 ^ Text.maxDigits ∧
      ((Nfa.new 0).buildAll returnCalls).size < 10 ^ Text.maxDigits ∧
      ((Dfa.new 0).buildAll returnCalls).TracesTruly .missing "m" ["aa"] ∧
      ((Nfa.new 0).buildAll returnCalls).TracesTruly .missing "m" ["aa"] ∧
      (Terminal.Action.trace.perform .missing "m" ["aa"]
        (.dfa ((Dfa.new 0).buildAll returnCalls))).output =
          "  ε: q0\n  a: q1\n  stuck at symbol 2: 'a'\nREJECTED\n" ∧
      (Terminal.Action.trace.perform .missing "m" ["aa"]
        (.nfa ((Nfa.new 0).buildAll returnCalls))).output =
          "  ε: \x7bq0\x7d\n  a: \x7bq0,q1\x7d\n  aa: \x7bq0,q1\x7d\nACCEPTED\n" := by
  have hdfa : ((Dfa.new 0).buildAll returnCalls).size = 2 := by decide +kernel
  have hnfa : ((Nfa.new 0).buildAll returnCalls).size = 2 := by decide +kernel
  have hsize : 2 < 10 ^ Text.maxDigits := by
    have hlt : Text.maxDigits < 10 ^ Text.maxDigits := Nat.lt_pow_self (by decide)
    have hle := le_maxDigits
    omega
  obtain ⟨htraceDfa, htraceNfa⟩ := trace_tells 0 returnCalls .missing "m" ["aa"]
  have hdfaPos : 0 < ((Dfa.new 0).buildAll returnCalls).size := by omega
  have hnfaPos : 0 < ((Nfa.new 0).buildAll returnCalls).size := by omega
  have hdfaSize : ((Dfa.new 0).buildAll returnCalls).size < 10 ^ Text.maxDigits := by omega
  have hnfaSize : ((Nfa.new 0).buildAll returnCalls).size < 10 ^ Text.maxDigits := by omega
  exact ⟨hdfaPos, hnfaPos, hdfaSize, hnfaSize, htraceDfa hdfaPos hdfaSize,
    htraceNfa hnfaPos hnfaSize, by decide +kernel, by decide +kernel⟩

end FiniteAutomata

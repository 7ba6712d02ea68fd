import FiniteAutomata.Proofs.Nfa.Run

namespace FiniteAutomata.Nfa

/-!
# Acceptance is path acceptance

A nondeterministic automaton accepts a word exactly if a path leads from the initial state to an
accepting one: it follows epsilon transitions anywhere and any number of times, and transitions on
the symbols of the word in order. The path is made of the listed transitions, so neither the search
for epsilon closures nor the order of the tables nor the early end of a run has a part in it.

* `Path`: the paths along which a word is read.
* `Recognizes`: some path from the initial state ends in an accepting state.
* `mem_activeAfter_closureOf_iff`: the active states are the ends of the paths.
* `judge_accepted_iff_recognizes`: acceptance is path acceptance.
-/

/-- A path along which a word is read. The symbol of a transition may be spelled in any way. -/
inductive Path (n : Nfa) : Nat → List Symbol → Nat → Prop
  | stay (s : Nat) : Path n s [] s
  | silent {s t u : Nat} {word : List Symbol} (h : (s, t) ∈ n.epsilonTransitions)
      (path : Path n t word u) : Path n s word u
  | read {s t u : Nat} {a b : Symbol} {word : List Symbol} (h : ⟨s, b, t⟩ ∈ n.transitions)
      (hb : (b == a) = true) (path : Path n t word u) : Path n s (a :: word) u

/-- There is a state, and some path from the initial state ends in an accepting one. -/
def Recognizes (n : Nfa) (word : List Symbol) : Prop :=
  0 < n.size ∧ ∃ start stop, n.initial? = some start ∧ n.Path start word stop ∧
    n.accepts stop = true

variable {n : Nfa}

/-! ### Paths and active states -/

/-- A path goes on from what is reached by epsilon transitions. -/
theorem Path.of_reached {states : List Nat} {s t : Nat} {word : List Symbol}
    (hreached : Reached n.epsilonTargets states s) (hpath : n.Path s word t) :
    ∃ r ∈ states, n.Path r word t := by
  induction hreached with
  | seed hs => exact ⟨_, hs, hpath⟩
  | follow _ ht ih => exact ih (.silent (mem_epsilonTransitions_of_mem_epsilonTargets ht) hpath)

/-- A path that reads nothing only follows epsilon transitions. -/
theorem Path.reached_of_nil (h : n.Sound) {states : List Nat} {s t : Nat} {word : List Symbol}
    (hpath : n.Path s word t) (hword : word = []) (hs : Reached n.epsilonTargets states s) :
    Reached n.epsilonTargets states t := by
  induction hpath with
  | stay => exact hs
  | silent hedge _ ih => exact ih hword (hs.follow (h.mem_epsilonTargets_iff.2 hedge))
  | read => cases hword

/-- A path that reads a symbol follows epsilon transitions up to a transition on that symbol. -/
theorem Path.exists_of_cons (h : n.Sound) {states : List Nat} {s t : Nat} {a : Symbol}
    {word rest : List Symbol} (hpath : n.Path s word t) (hword : word = a :: rest)
    (hs : Reached n.epsilonTargets states s) :
    ∃ u v, Reached n.epsilonTargets states u ∧ v ∈ n.targets u a ∧ n.Path v rest t := by
  induction hpath with
  | stay => cases hword
  | silent hedge _ ih => exact ih hword (hs.follow (h.mem_epsilonTargets_iff.2 hedge))
  | read hedge hb hpath =>
    cases hword
    exact ⟨_, _, hs, h.mem_targets_iff.2 ⟨_, hedge, hb⟩, hpath⟩

/-- The states active after a word are the ends of the paths along which it is read. -/
theorem mem_activeAfter_closureOf_iff (h : n.Sound) {states : List Nat} {word : List Symbol}
    {t : Nat} :
    t ∈ n.activeAfter (n.closureOf states) word ↔ ∃ s ∈ states, n.Path s word t := by
  induction word generalizing states with
  | nil =>
    show t ∈ n.closureOf states ↔ _
    rw [mem_closureOf]
    constructor
    · intro ht
      exact Path.of_reached ht (.stay t)
    · rintro ⟨s, hs, hpath⟩
      exact hpath.reached_of_nil h rfl (.seed hs)
  | cons a rest ih =>
    -- after the first symbol the active states are again a closure: that of the targets
    rw [activeAfter_cons, advance, ih]
    simp only [StateSet.mem_ofList, List.mem_flatMap, mem_closureOf]
    constructor
    · rintro ⟨v, ⟨u, hu, hv⟩, hpath⟩
      obtain ⟨b, hedge, hb⟩ := h.mem_targets_iff.1 hv
      exact Path.of_reached hu (.read hedge hb hpath)
    · rintro ⟨s, hs, hpath⟩
      -- a path on a first symbol takes a transition on it somewhere, from a state of the closure
      obtain ⟨u, v, hu, hv, hpath'⟩ := hpath.exists_of_cons h rfl (.seed hs)
      exact ⟨v, ⟨u, hu, hv⟩, hpath'⟩

/-- The verdict on a word of symbols, by paths. -/
theorem Sound.judge_accepted_iff (h : n.Sound) {word : Value} {symbols : List Symbol}
    (hword : word.items? = some (symbols.map (·.value))) :
    ∃ v, n.judge word = .ok v ∧ (v.accepted = true ↔ n.Recognizes symbols) := by
  cases hstart : n.initial? with
  | none =>
    refine ⟨.unread, judge_of_initial_eq_none hstart word, ?_⟩
    -- a path needs a state to begin at
    have hnone : ¬ n.Recognizes symbols := by
      rintro ⟨-, start, stop, hstart', -⟩
      rw [hstart] at hstart'
      cases hstart'
    simp [Verdict.unread, hnone]
  | some start =>
    refine ⟨_, judge_eq hstart hword, ?_⟩
    rw [accepted_verdict_iff]
    have hpos : 0 < n.size := Nat.zero_lt_of_lt (h.initial.initial_lt hstart)
    constructor
    · rintro ⟨stop, hstop, haccepts⟩
      obtain ⟨s, hs, hpath⟩ := (mem_activeAfter_closureOf_iff h).1 hstop
      rw [List.mem_singleton] at hs
      subst hs
      exact ⟨hpos, s, stop, hstart, hpath, haccepts⟩
    · rintro ⟨-, start', stop, hstart', hpath, haccepts⟩
      rw [hstart] at hstart'
      cases hstart'
      exact ⟨stop, (mem_activeAfter_closureOf_iff h).2 ⟨start, List.mem_singleton_self _, hpath⟩,
        haccepts⟩

/-! ### Acceptance -/

/-- **Acceptance is path acceptance.** After any calls, refused ones included, every word of symbols
    is judged, and it is accepted exactly if the automaton recognizes it along some path. -/
theorem judge_accepted_iff_recognizes (owner : Nat) (calls : List Construction) (word : Value)
    (symbols : List Symbol) (hword : word.items? = some (symbols.map (·.value))) :
    ∃ v, ((new owner).buildAll calls).judge word = .ok v ∧
      (v.accepted = true ↔ ((new owner).buildAll calls).Recognizes symbols) :=
  (sound_buildAll_new owner calls).judge_accepted_iff hword

/-- The calls that build two states on an epsilon cycle, the second of them accepting and with a
    transition on `1` to the first. A transition to a state of another automaton is refused. -/
def cycleCalls : List Construction :=
  [.addState (.truth false), .addState (.truth true),
   .addEpsilon (.state ⟨0, 0⟩) (.state ⟨1, 0⟩), .addEpsilon (.state ⟨1, 0⟩) (.state ⟨0, 0⟩),
   .addTransition (.state ⟨1, 0⟩) (.float (.ofBits 0x3FF0000000000000 0)) (.state ⟨0, 7⟩),
   .addTransition (.state ⟨1, 0⟩) (.int 1) (.state ⟨0, 0⟩)]

/-- On the cycle, the word of two symbols that are the same as `1` is recognized. -/
theorem cycle_recognizes :
    (Value.tuple [.int 1, .truth true]).items? =
        some ([⟨.int 1, rfl⟩, ⟨.truth true, rfl⟩].map Symbol.value) ∧
      ((new 0).buildAll cycleCalls).Recognizes [⟨.int 1, rfl⟩, ⟨.truth true, rfl⟩] := by
  have hword : (Value.tuple [.int 1, .truth true]).items? =
      some ([⟨.int 1, rfl⟩, ⟨.truth true, rfl⟩].map Symbol.value) := rfl
  obtain ⟨v, hv, hiff⟩ := judge_accepted_iff_recognizes 0 cycleCalls _ _ hword
  have hjudge : ((new 0).buildAll cycleCalls).judge (.tuple [.int 1, .truth true]) =
      .ok ⟨true, 2, [.active true 2]⟩ := by decide +kernel
  rw [hjudge] at hv
  cases hv
  exact ⟨hword, hiff.1 rfl⟩

end FiniteAutomata.Nfa

import FiniteAutomata.Proofs.Renumbering

namespace FiniteAutomata

/-!
# Automata on other symbols

An automaton only asks of symbols whether they are the same. So other symbols may be put in the place
of those in the calls that build it, and yet others in the place of those in the words it reads, as
long as these are the same where those were. Which symbols these are makes no difference.

* `Value.isDefinite`: a value in which nothing occurs that is no number.
* `Coincide`: two maps of symbols between which sameness is kept.
* `Construction.relabel`: the call on another symbol.
* `Dfa.relabel`, `Nfa.relabel`: the automaton with other symbols in its table.
* `Dfa.buildAll_relabel`, `Nfa.buildAll_relabel`: it is what the calls on the other symbols build.
* `Automaton.Relabelled`: what is the same on other symbols.
* `Automaton.relabelled_alike`: it is the same.
-/

/-! ### Symbols -/

namespace Value

mutual

/-- Nothing in the value is a floating-point number that is no number. -/
def isDefinite : Value → Bool
  | .float x =>
    match x.number with
    | .nan _ => false
    | _ => true
  | .tuple items => areDefinite items
  | .list items => areDefinite items
  | _ => true

/-- Nothing in any of the items is. -/
def areDefinite : List Value → Bool
  | [] => true
  | a :: rest => isDefinite a && areDefinite rest

end

/-- The value with another symbol in its place, if it is a symbol. -/
def relabel (f : Symbol → Symbol) (v : Value) : Value :=
  match v.symbol with
  | .ok x => (f x).value
  | .error _ => v

theorem symbol_relabel (f : Symbol → Symbol) (v : Value) :
    (v.relabel f).symbol = v.symbol.map f := by
  unfold relabel
  cases h : v.symbol with
  | ok x => exact (f x).symbol_value
  | error fault => exact h

end Value

/-- Nothing in the symbol is a floating-point number that is no number. -/
def Symbol.IsDefinite (x : Symbol) : Prop := x.value.isDefinite = true

/-- The first map takes a symbol to the same symbol as the second one takes another to exactly if
    these two are the same. -/
def Coincide (f g : Symbol → Symbol) : Prop :=
  ∀ x y : Symbol, x.IsDefinite → y.IsDefinite → (f x == g y) = (x == y)

/-- Each of the maps keeps symbols the same and apart. -/
theorem Coincide.left {f g : Symbol → Symbol} (h : Coincide f g) : Coincide f f := by
  intro x y hx hy
  have hself : (f y == g y) = true := by rw [h y y hy hy, BEq.rfl]
  rw [← h x y hx hy, BEq.congr_right hself]

/-! ### Tables -/

namespace Ledger

variable {κ α : Type} [BEq κ] {l : Ledger κ α} {f : κ → κ} {key key' : κ}

/-- The ledger with other keys for its entries. -/
def mapKeys (f : κ → κ) (l : Ledger κ α) : Ledger κ α := l.map fun e => (f e.1, e.2)

/-- What is kept under a key is kept under the other one, if no keys are confused. -/
theorem get?_mapKeys (h : ∀ k a, (k, a) ∈ l → (f k == key') = (k == key)) :
    (l.mapKeys f).get? key' = l.get? key := by
  induction l with
  | nil => rfl
  | cons e rest ih =>
    obtain ⟨k, a⟩ := e
    have hrest := ih fun k' a' hmem => h k' a' (List.mem_cons_of_mem _ hmem)
    unfold mapKeys at hrest ⊢
    rw [List.map_cons, get?, get?, h k a List.mem_cons_self, hrest]

theorem mapKeys_update {change : Option α → α}
    (h : ∀ k a, (k, a) ∈ l → (f k == f key) = (k == key)) :
    (l.update key change).mapKeys f = (l.mapKeys f).update (f key) change := by
  induction l with
  | nil => rfl
  | cons e rest ih =>
    obtain ⟨k, a⟩ := e
    have hrest := ih fun k' a' hmem => h k' a' (List.mem_cons_of_mem _ hmem)
    unfold mapKeys at hrest ⊢
    rw [List.map_cons, update, update, h k a List.mem_cons_self, ← hrest]
    split <;> rfl

end Ledger

namespace Departure

variable {f g : Symbol → Symbol} {k : Departure}

/-- The departure on another symbol. -/
def relabel (f : Symbol → Symbol) (k : Departure) : Departure := ⟨k.source, f k.symbol⟩

theorem relabel_beq (h : Coincide f g) (hk : k.symbol.IsDefinite) {s : Nat} {x : Symbol}
    (hx : x.IsDefinite) : (k.relabel f == ⟨s, g x⟩) = (k == ⟨s, x⟩) := by
  show (k.source == s && f k.symbol == g x) = (k.source == s && k.symbol == x)
  rw [h k.symbol x hk hx]

end Departure

/-! ### Calls -/

/-- The value that a call gives as a symbol. -/
def Construction.symbol? : Construction → Option Value
  | .addTransition _ symbol _ => some symbol
  | _ => none

/-- The call on another symbol. -/
def Construction.relabel (f : Symbol → Symbol) : Construction → Construction
  | .addTransition source symbol target => .addTransition source (symbol.relabel f) target
  | call => call

/-- If the call is on a symbol, nothing in it is no number. -/
def Construction.IsDefinite (call : Construction) : Prop :=
  ∀ x : Symbol, call.symbol? = some x.value → x.IsDefinite

/-! ### Deterministic automata -/

namespace Dfa

variable {f g : Symbol → Symbol} {d : Dfa}

/-- The automaton with other symbols in its table. -/
def relabel (f : Symbol → Symbol) (d : Dfa) : Dfa :=
  { d with edges := d.edges.mapKeys (Departure.relabel f) }

/-- Nothing in the symbols of the table is no number. -/
def OnDefinite (d : Dfa) : Prop := ∀ k t, (k, t) ∈ d.edges → k.symbol.IsDefinite

theorem onDefinite_new (owner : Nat) : (new owner).OnDefinite :=
  fun _ _ hmem => absurd hmem List.not_mem_nil

theorem target?_relabel (h : Coincide f g) (hd : d.OnDefinite) (s : Nat) {x : Symbol}
    (hx : x.IsDefinite) : (d.relabel f).target? s (g x) = d.target? s x :=
  Ledger.get?_mapKeys fun k t hmem => Departure.relabel_beq h (hd k t hmem) hx

theorem transitionCount_relabel (f : Symbol → Symbol) (d : Dfa) :
    (d.relabel f).transitionCount = d.transitionCount :=
  List.length_map _

theorem relabel_connect (h : Coincide f f) (hd : d.OnDefinite) (s t : Nat) {x : Symbol}
    (hx : x.IsDefinite) : (d.connect s x t).relabel f = (d.relabel f).connect s (f x) t := by
  unfold relabel connect
  rw [Ledger.mapKeys_update fun k t hmem => Departure.relabel_beq h (hd k t hmem) hx]
  rfl

/-- One call on other symbols does what the call does, on other symbols. -/
theorem build_relabel (h : Coincide f f) (hd : d.OnDefinite) {call : Construction}
    (hcall : call.IsDefinite) :
    ((d.relabel f).build (call.relabel f)).automaton = (d.build call).automaton.relabel f ∧
      (d.build call).automaton.OnDefinite := by
  cases call with
  | addState accepting => exact ⟨rfl, hd⟩
  | addEpsilon source target => exact ⟨rfl, hd⟩
  | setInitial state =>
    simp only [build, Construction.relabel, StateSpace.buildInitial]
    have hspace : (d.relabel f).toStateSpace = d.toStateSpace := rfl
    rw [hspace]
    cases d.setInitial state <;> exact ⟨rfl, hd⟩
  | addTransition source symbol target =>
    have hvalidate : (d.relabel f).validate = d.validate := rfl
    simp only [build, Construction.relabel, addTransition, hvalidate, Value.symbol_relabel]
    cases d.validate source with
    | error fault => exact ⟨rfl, hd⟩
    | ok s =>
      cases d.validate target with
      | error fault => exact ⟨rfl, hd⟩
      | ok t =>
        cases hx : symbol.symbol with
        | error fault => exact ⟨rfl, hd⟩
        | ok x =>
          have hdefinite : x.IsDefinite := hcall x (congrArg some (Value.eq_value_of_symbol hx))
          exact ⟨(relabel_connect h hd s t hdefinite).symm,
            Ledger.forall_key_update hd hdefinite⟩

/-- So do any number of calls. -/
theorem buildAll_relabel (h : Coincide f f) (hd : d.OnDefinite) {calls : List Construction}
    (hcalls : ∀ call ∈ calls, call.IsDefinite) :
    (d.relabel f).buildAll (calls.map (Construction.relabel f)) = (d.buildAll calls).relabel f ∧
      (d.buildAll calls).OnDefinite := by
  unfold buildAll
  rw [List.foldl_map]
  induction calls generalizing d with
  | nil => exact ⟨rfl, hd⟩
  | cons call rest ih =>
    obtain ⟨hcall, hrest⟩ := List.forall_mem_cons.1 hcalls
    obtain ⟨hbuild, hd'⟩ := build_relabel h hd hcall
    rw [List.foldl_cons, List.foldl_cons, hbuild]
    exact ih hd' hrest

end Dfa

/-! ### Nondeterministic automata -/

namespace Nfa

variable {f g : Symbol → Symbol} {n : Nfa}

/-- The automaton with other symbols in its table. -/
def relabel (f : Symbol → Symbol) (n : Nfa) : Nfa :=
  { n with edges := n.edges.mapKeys (Departure.relabel f) }

/-- Nothing in the symbols of the table is no number. -/
def OnDefinite (n : Nfa) : Prop := ∀ k set, (k, set) ∈ n.edges → k.symbol.IsDefinite

theorem onDefinite_new (owner : Nat) : (new owner).OnDefinite :=
  fun _ _ hmem => absurd hmem List.not_mem_nil

theorem targets_relabel (h : Coincide f g) (hn : n.OnDefinite) (s : Nat) {x : Symbol}
    (hx : x.IsDefinite) : (n.relabel f).targets s (g x) = n.targets s x := by
  unfold targets
  rw [show (n.relabel f).edges.get? ⟨s, g x⟩ = n.edges.get? ⟨s, x⟩ from
    Ledger.get?_mapKeys fun k set hmem => Departure.relabel_beq h (hn k set hmem) hx]

theorem transitionCount_relabel (f : Symbol → Symbol) (n : Nfa) :
    (n.relabel f).transitionCount = n.transitionCount := by
  unfold transitionCount countOf relabel Ledger.mapKeys
  rw [List.map_map]
  rfl

theorem relabel_connect (h : Coincide f f) (hn : n.OnDefinite) (s t : Nat) {x : Symbol}
    (hx : x.IsDefinite) : (n.connect s x t).relabel f = (n.relabel f).connect s (f x) t := by
  unfold relabel connect
  rw [Ledger.mapKeys_update fun k set hmem => Departure.relabel_beq h (hn k set hmem) hx]
  rfl

theorem relabel_reserve (h : Coincide f f) (hn : n.OnDefinite) (s : Nat) {x : Symbol}
    (hx : x.IsDefinite) : (n.reserve s x).relabel f = (n.relabel f).reserve s (f x) := by
  rw [reserve_eq, reserve_eq]
  unfold relabel
  rw [Ledger.mapKeys_update fun k set hmem => Departure.relabel_beq h (hn k set hmem) hx]
  rfl

/-- One call on other symbols does what the call does, on other symbols. -/
theorem build_relabel (h : Coincide f f) (hn : n.OnDefinite) {call : Construction}
    (hcall : call.IsDefinite) :
    ((n.relabel f).build (call.relabel f)).automaton = (n.build call).automaton.relabel f ∧
      (n.build call).automaton.OnDefinite := by
  have hvalidate : (n.relabel f).validate = n.validate := rfl
  cases call with
  | addState accepting => exact ⟨rfl, hn⟩
  | addEpsilon source target =>
    simp only [build, Construction.relabel, addEpsilon, hvalidate]
    cases n.validate source with
    | error fault => exact ⟨rfl, hn⟩
    | ok s => cases n.validate target <;> exact ⟨rfl, hn⟩
  | setInitial state =>
    simp only [build, Construction.relabel, StateSpace.buildInitial]
    have hspace : (n.relabel f).toStateSpace = n.toStateSpace := rfl
    rw [hspace]
    cases n.setInitial state <;> exact ⟨rfl, hn⟩
  | addTransition source symbol target =>
    simp only [build, Construction.relabel, addTransition, hvalidate, Value.symbol_relabel]
    cases n.validate source with
    | error fault => exact ⟨rfl, hn⟩
    | ok s =>
      cases hx : symbol.symbol with
      | error fault => exact ⟨rfl, hn⟩
      | ok x =>
        have hdefinite : x.IsDefinite := hcall x (congrArg some (Value.eq_value_of_symbol hx))
        -- the entry is made before the target is checked, so both ways of ending count
        simp only [Except.map, ok_bind, pure_eq_ok]
        cases n.validate target with
        | error fault =>
          exact ⟨(relabel_reserve h hn s hdefinite).symm, Ledger.forall_key_update hn hdefinite⟩
        | ok t =>
          exact ⟨(relabel_connect h hn s t hdefinite).symm, Ledger.forall_key_update hn hdefinite⟩

/-- So do any number of calls. -/
theorem buildAll_relabel (h : Coincide f f) (hn : n.OnDefinite) {calls : List Construction}
    (hcalls : ∀ call ∈ calls, call.IsDefinite) :
    (n.relabel f).buildAll (calls.map (Construction.relabel f)) = (n.buildAll calls).relabel f ∧
      (n.buildAll calls).OnDefinite := by
  unfold buildAll
  rw [List.foldl_map]
  induction calls generalizing n with
  | nil => exact ⟨rfl, hn⟩
  | cons call rest ih =>
    obtain ⟨hcall, hrest⟩ := List.forall_mem_cons.1 hcalls
    obtain ⟨hbuild, hn'⟩ := build_relabel h hn hcall
    rw [List.foldl_cons, List.foldl_cons, hbuild]
    exact ih hn' hrest

/-- The sets that are seen while a word is read are in order. -/
theorem Sound.ascends_of_simulate (h : n.Sound) {word : Value} {symbols : List Symbol}
    (hword : word.items? = some (symbols.map (·.value))) {sets : List StateSet}
    (hsets : n.simulate word = .ok sets) : ∀ set ∈ sets, set.Ascends := by
  cases hstart : n.initial? with
  | none =>
    rw [simulate_of_initial_eq_none hstart] at hsets
    cases hsets
    exact nofun
  | some start =>
    rw [simulate_eq hstart hword] at hsets
    cases hsets
    intro set hset
    obtain ⟨i, -, rfl⟩ := List.mem_map.1 hset
    have hwithin : Within n.size (n.closureOf [start]) :=
      h.within_closureOf (by simpa using h.initial.initial_lt hstart)
    exact (h.within_activeAfter hwithin _).ascends

end Nfa

/-! ### Automata of either kind -/

/-- What can be asked about epsilon transitions alone. -/
def Query.isSilent : Query → Bool
  | .nextEpsilon _ | .epsilonTransitions | .epsilonCount | .closure _ => true
  | _ => false

namespace Automaton

/-- Each of the two automata reads its word. What they see, the verdict and the number of symbols
    that are taken are the same. -/
def ReadSame (a b : Automaton) (word word' : Value) : Prop :=
  ∃ run v v', a.simulate word = .ok run ∧ b.simulate word' = .ok run ∧ a.judge word = .ok v ∧
    b.judge word' = .ok v' ∧ v'.accepted = v.accepted ∧ v'.read = v.read

/-- Words that are read alike, every state keeping its number, are read the same. -/
theorem ReadAlike.readSame {a b : Automaton} {word word' : Value} (ha : a.Sound)
    {symbols : List Symbol} (hword : word.items? = some (symbols.map (·.value)))
    (h : ReadAlike (Equiv.refl Nat) a b word word') : ReadSame a b word word' := by
  obtain ⟨run, v, v', hrun, hrun', hv, hv', hsame⟩ := h
  have himage : run.image (Equiv.refl Nat) = run := by
    cases a with
    | dfa d =>
      rw [simulate_dfa] at hrun
      obtain ⟨path, -, heq⟩ := bind_eq_ok_iff.1 hrun
      cases heq
      simp [Run.image]
    | nfa n =>
      rw [simulate_nfa] at hrun
      obtain ⟨sets, hsets, heq⟩ := bind_eq_ok_iff.1 hrun
      cases heq
      have hascends := Nfa.Sound.ascends_of_simulate ha hword hsets
      rw [Run.image, List.map_congr_left fun set hset => StateSet.image_refl (hascends set hset),
        List.map_id']
  rw [himage] at hrun'
  exact ⟨run, v, v', hrun, hrun', hv, hv', hsame⟩

/-- What the second automaton answers on other symbols is what the first one answers, if nothing in
    these is no number. -/
structure Relabelled (g : Symbol → Symbol) (a b : Automaton) : Prop where
  reads : ∀ (word word' : Value) (symbols : List Symbol), (∀ x ∈ symbols, x.IsDefinite) →
    word.items? = some (symbols.map (·.value)) →
      word'.items? = some ((symbols.map g).map (·.value)) → ReadSame a b word word'
  next : ∀ (state : Value) (x : Symbol), x.IsDefinite →
    b.answer (.next state (g x).value) = a.answer (.next state x.value)
  step : ∀ (active : Value) (x : Symbol), x.IsDefinite →
    b.answer (.step active (g x).value) = a.answer (.step active x.value)
  transitionCount : b.transitionCount = a.transitionCount

variable {f g : Symbol → Symbol}

theorem relabelled_dfa (h : Coincide f g) {d : Dfa} (hd : d.Sound) (hdefinite : d.OnDefinite) :
    Relabelled g (.dfa d) (.dfa (d.relabel f)) where
  reads word word' symbols hsymbols hword hword' := by
    refine ReadAlike.readSame hd hword ?_
    refine readAlike_dfa hword hword' ⟨?_, fun s => rfl⟩ ?_
    · exact (congrFun Option.map_id _).symm
    · rw [List.forall₂_map_right_iff, List.forall₂_same]
      intro x hx s
      exact (Dfa.target?_relabel h hdefinite s (hsymbols x hx)).trans (congrFun Option.map_id _).symm
  next state x hx := by
    have hvalidate : (d.relabel f).validate = d.validate := rfl
    simp only [answer_next, next_of_dfa, Dfa.next_def, hvalidate, Symbol.symbol_value,
      Dfa.target?_relabel h hdefinite _ hx, ok_bind]
  step _ _ _ := rfl
  transitionCount := Dfa.transitionCount_relabel f d

theorem relabelled_nfa (h : Coincide f g) {n : Nfa} (hn : n.Sound) (hdefinite : n.OnDefinite) :
    Relabelled g (.nfa n) (.nfa (n.relabel f)) where
  reads word word' symbols hsymbols hword hword' := by
    refine ReadAlike.readSame hn hword ?_
    refine readAlike_nfa hword hword' ⟨?_, fun s => rfl, fun s t => Iff.rfl⟩ ?_
    · exact (congrFun Option.map_id _).symm
    · rw [List.forall₂_map_right_iff, List.forall₂_same]
      intro x hx s t
      rw [Equiv.refl_apply, Equiv.refl_apply, Nfa.targets_relabel h hdefinite s (hsymbols x hx)]
  next state x hx := by
    have hvalidate : (n.relabel f).validate = n.validate := rfl
    simp only [answer_next, next_of_nfa, Nfa.next_def, hvalidate, Symbol.symbol_value,
      Nfa.targets_relabel h hdefinite _ hx, ok_bind]
  step active x hx := by
    have hvalidate : (n.relabel f).validateAll = n.validateAll := rfl
    have hadvance : ∀ states, (n.relabel f).advance states (g x) = n.advance states x := by
      intro states
      unfold Nfa.advance
      simp only [Nfa.targets_relabel h hdefinite _ hx]
      rfl
    simp only [answer_step, Nfa.step_def, hvalidate, Symbol.symbol_value, hadvance, ok_bind]
  transitionCount := Nfa.transitionCount_relabel f n

/-- What calls on other symbols build answers on other symbols what the calls build answers. -/
theorem relabelled_buildAll_new (kind : AutomatonKind) (owner : Nat) {calls : List Construction}
    (h : Coincide f g) (hcalls : ∀ call ∈ calls, call.IsDefinite) :
    Relabelled g ((new kind owner).buildAll calls).1
      ((new kind owner).buildAll (calls.map (Construction.relabel f))).1 := by
  cases kind with
  | dfa =>
    obtain ⟨hbuild, hdefinite⟩ := Dfa.buildAll_relabel h.left (Dfa.onDefinite_new owner) hcalls
    have hnew : (Dfa.new owner).relabel f = .new owner := rfl
    rw [hnew] at hbuild
    rw [new, buildAll_dfa, buildAll_dfa, hbuild]
    exact relabelled_dfa h (Dfa.sound_buildAll_new owner calls) hdefinite
  | nfa =>
    obtain ⟨hbuild, hdefinite⟩ := Nfa.buildAll_relabel h.left (Nfa.onDefinite_new owner) hcalls
    have hnew : (Nfa.new owner).relabel f = .new owner := rfl
    rw [hnew] at hbuild
    rw [new, buildAll_nfa, buildAll_nfa, hbuild]
    exact relabelled_nfa h (Nfa.sound_buildAll_new owner calls) hdefinite

/-! ### Words in another spelling -/

/-- An automaton reads a word in whatever way its symbols are spelled. -/
theorem Sound.readSame {a : Automaton} (ha : a.Sound) {word word' : Value}
    {symbols symbols' : List Symbol} (hword : word.items? = some (symbols.map (·.value)))
    (hword' : word'.items? = some (symbols'.map (·.value)))
    (hsame : List.Forall₂ (fun x y => (x == y) = true) symbols symbols') :
    ReadSame a a word word' := by
  refine ReadAlike.readSame ha hword ?_
  cases a with
  | dfa d =>
    refine readAlike_dfa hword hword' ⟨(congrFun Option.map_id _).symm, fun s => rfl⟩ ?_
    refine hsame.imp fun x y hxy s => ?_
    have hkey : ((⟨s, y⟩ : Departure) == ⟨s, x⟩) = true :=
      Departure.beq_iff.2 ⟨rfl, BEq.symm hxy⟩
    exact (Ledger.get?_congr hkey).trans (congrFun Option.map_id _).symm
  | nfa n =>
    refine readAlike_nfa hword hword'
      ⟨(congrFun Option.map_id _).symm, fun s => rfl, fun s t => Iff.rfl⟩ ?_
    refine hsame.imp fun x y hxy s t => ?_
    have hkey : ((⟨s, y⟩ : Departure) == ⟨s, x⟩) = true :=
      Departure.beq_iff.2 ⟨rfl, BEq.symm hxy⟩
    rw [Equiv.refl_apply, Equiv.refl_apply, Nfa.targets, Ledger.get?_congr hkey, Nfa.targets]

/-! ### Transitions that read nothing -/

/-- To add a transition, on whatever symbol, leaves the epsilon transitions alone. -/
theorem answer_addTransition (a : Automaton) (source symbol target : Value) {query : Query}
    (hquery : query.isSilent = true) :
    (a.build (.addTransition source symbol target)).automaton.answer query = a.answer query := by
  cases a with
  | dfa d =>
    cases query with
    | nextEpsilon _ | epsilonTransitions | epsilonCount | closure _ => rfl
    | _ => cases hquery
  | nfa n =>
    obtain ⟨edges, hedges⟩ : ∃ edges, (n.build (.addTransition source symbol target)).automaton =
        { n with edges } := by
      simp only [Nfa.build, Nfa.addTransition]
      split
      · exact ⟨_, rfl⟩
      · split <;> exact ⟨_, rfl⟩
    simp only [build, Built.map, hedges]
    cases query with
    | epsilonTransitions | epsilonCount => rfl
    | nextEpsilon state =>
      rw [answer_nextEpsilon, answer_nextEpsilon, Nfa.nextEpsilon_def, Nfa.nextEpsilon_def]
      rfl
    | closure states =>
      rw [answer_closure, answer_closure, Nfa.epsilonClosure_def, Nfa.epsilonClosure_def]
      rfl
    | _ => cases hquery

/-! ### Automata that were built -/

/-- **No symbol is special and only sameness matters.** After any calls, an automaton and the one
    that the calls on other symbols build answer alike on symbols that are the same where those of
    the calls were. A word may be spelled in any way. A transition is no epsilon transition, whatever
    its symbol is. -/
theorem relabelled_alike (kind : AutomatonKind) (owner : Nat) (calls : List Construction) :
    (∀ f g : Symbol → Symbol, Coincide f g → (∀ call ∈ calls, call.IsDefinite) →
      Relabelled g ((new kind owner).buildAll calls).1
        ((new kind owner).buildAll (calls.map (Construction.relabel f))).1) ∧
    (∀ (word word' : Value) (symbols symbols' : List Symbol),
      word.items? = some (symbols.map (·.value)) → word'.items? = some (symbols'.map (·.value)) →
        List.Forall₂ (fun x y => (x == y) = true) symbols symbols' →
          ReadSame ((new kind owner).buildAll calls).1 ((new kind owner).buildAll calls).1
            word word') ∧
    ∀ (source symbol target : Value) (query : Query), query.isSilent = true →
      (((new kind owner).buildAll calls).1.build
        (.addTransition source symbol target)).automaton.answer query =
          ((new kind owner).buildAll calls).1.answer query := by
  refine ⟨?_, ?_, ?_⟩
  · intro f g h hcalls
    exact relabelled_buildAll_new kind owner h hcalls
  · intro word word' symbols symbols' hword hword' hsame
    exact (sound_buildAll_new kind owner calls).readSame hword hword' hsame
  · intro source symbol target query hquery
    exact answer_addTransition _ source symbol target hquery

/-- The symbol in a pair, together with the number one. -/
def pairWithOne (x : Symbol) : Symbol :=
  ⟨.tuple [x.value, .int 1], by simp [Value.isHashable, Value.areHashable, x.isHashable]⟩

/-- The symbol in a pair, together with what counts as one. -/
def pairWithTrue (x : Symbol) : Symbol :=
  ⟨.tuple [x.value, .truth true], by simp [Value.isHashable, Value.areHashable, x.isHashable]⟩

theorem coincide_pairs : Coincide pairWithOne pairWithTrue := by
  intro x y _ _
  rw [Bool.eq_iff_iff, Symbol.beq_iff, Symbol.beq_iff]
  simp [pairWithOne, pairWithTrue, Value.canonical, Value.canonicalAll]

/-- The loop on `a`, with pairs in the place of symbols, on words of two symbols, and with a
    transition on nothing at all added to it. -/
theorem loop_relabelled :
    Coincide pairWithOne pairWithTrue ∧ (∀ call ∈ Nfa.loopCalls, call.IsDefinite) ∧
      Relabelled pairWithTrue ((new .nfa 0).buildAll Nfa.loopCalls).1
        ((new .nfa 0).buildAll (Nfa.loopCalls.map (Construction.relabel pairWithOne))).1 ∧
      ReadSame ((new .nfa 0).buildAll Nfa.loopCalls).1 ((new .nfa 0).buildAll Nfa.loopCalls).1
        (.tuple [.int 1]) (.tuple [.truth true]) ∧
      (((new .nfa 0).buildAll Nfa.loopCalls).1.build
        (.addTransition (.state ⟨0, 0⟩) .absent (.state ⟨0, 0⟩))).automaton.answer .epsilonCount =
          ((new .nfa 0).buildAll Nfa.loopCalls).1.answer .epsilonCount := by
  have hcalls : ∀ call ∈ Nfa.loopCalls, call.IsDefinite := by
    intro call hcall x hx
    simp only [Nfa.loopCalls, List.mem_cons, List.not_mem_nil, or_false] at hcall
    obtain rfl | rfl := hcall
    · cases hx
    · have hvalue : Value.text "a" = x.value := Option.some.inj hx
      unfold Symbol.IsDefinite
      rw [← hvalue]
      rfl
  obtain ⟨hrelabel, hspell, hsilent⟩ := relabelled_alike .nfa 0 Nfa.loopCalls
  exact ⟨coincide_pairs, hcalls, hrelabel _ _ coincide_pairs hcalls,
    hspell _ _ [⟨.int 1, rfl⟩] [⟨.truth true, rfl⟩] rfl rfl (.cons rfl .nil),
    hsilent _ _ _ .epsilonCount rfl⟩

end Automaton

end FiniteAutomata

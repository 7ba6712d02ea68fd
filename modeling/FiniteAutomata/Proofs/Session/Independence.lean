import FiniteAutomata.Proofs.Session.Ownership

namespace FiniteAutomata

/-!
# Things that do not meet

What a request about one thing shows depends on that thing alone. So the requests about it show the
same when all others are left out.

* `Turn.shown`, `own`: what a request shows, and the requests about one thing.
* `Session.Shares`: the second session keeps a thing where the first one keeps it.
* `Session.Shares.others`: requests about other things leave that alone.
* `Session.Shares.perform`: a request about the thing shows the same in both sessions.
* `Session.Shares.turns`: several requests about it do, whatever other requests come between them.
* `Session.things_on_their_own`: tokens, states and independence in every session.
-/

/-- What a request shows: its effect or why it was refused, what was reported, and the pictures that
    were asked for. -/
def Performed.shown (p : Performed) : Except Fault Effect × List Event × List Picture :=
  (p.result, p.report, p.pictures)

/-- What a request shows in its turn. -/
def Turn.shown (t : Turn) : Except Fault Effect × List Event × List Picture := t.performed.shown

/-- The requests about the thing with the token. -/
def own (turns : List Turn) (owner : Nat) : List Turn :=
  turns.filter fun t => t.concerned? == some owner

namespace Session

/-- An empty session that gives out the given token next, so that a thing that is created in it has the
    same names for its states as one that got the token in another session. -/
def startingWith (owner : Nat) : Session := { workspace := { created := owner } }

/-! ### Sessions that share a thing -/

/-- The second session keeps the thing with the token where the first one keeps it, with no automaton
    under the name of a registry, or it is about to give out that token. -/
structure Shares (owner : Nat) (s s' : Session) : Prop where
  things : ∀ place x, s.thing? place = some x → x.states.owner = owner → s'.thing? place = some x
  found : ∀ name x, s.thing? (.registry name) = some x → x.states.owner = owner →
    s'.workspace.find? name = none
  next : s.workspace.created ≤ owner → s'.workspace.created = owner

variable {owner : Nat} {s s' t t' : Session} {states : Nat → List Nat}

theorem shares_startingWith (owner : Nat) : Shares owner {} (startingWith owner) where
  things place := by cases place <;> exact nofun
  found _ := nofun
  next _ := rfl

/-- Requests about other things leave the thing where it is. -/
theorem Shares.others (h : Shares owner s s') {report : List Event} {concerned : Option Nat}
    (ht : Touched s t report concerned) (hother : concerned ≠ some owner) : Shares owner t s' := by
  have hkept : ∀ place x, t.thing? place = some x → x.states.owner = owner →
      s.thing? place = some x := by
    intro place x hx howner
    exact ht.thing?_of_ne hx (howner ▸ hother)
  refine ⟨?_, ?_, fun hle => h.next (ht.created_le.trans hle)⟩
  · intro place x hx howner
    exact h.things place x (hkept place x hx howner) howner
  · intro name x hx howner
    exact h.found name x (hkept _ x hx howner) howner

/-- Two sessions share a thing that was put at the same place in both of them, if nothing else has
    its token. -/
theorem shares_of_puts {place : Place} {x : Thing} (hputs : s.Puts t place x)
    (hother : ∀ place' y, place' ≠ place → s.thing? place' = some y → y.states.owner ≠ owner)
    (hhere : t'.thing? place = some x)
    (hfound : ∀ name, place = .registry name → t'.workspace.find? name = none)
    (hcreated : owner < t.workspace.created) : Shares owner t t' := by
  refine ⟨?_, ?_, fun hle => absurd hle (Nat.not_le_of_lt hcreated)⟩
  · intro place' y hy howner
    obtain ⟨rfl, rfl⟩ | ⟨hne, hy⟩ := hputs.here_or_elsewhere hy
    · exact hhere
    · exact absurd howner (hother place' y hne hy)
  · intro name y hy howner
    obtain ⟨hplace, -⟩ | ⟨hne, hy⟩ := hputs.here_or_elsewhere hy
    · exact hfound name hplace.symm
    · exact absurd howner (hother _ y hne hy)

/-- The automaton under a name is shared. -/
theorem Shares.find? (h : Shares owner s s') {name : String} {a : Automaton}
    (ha : s.workspace.find? name = some a) (howner : a.space.owner = owner) :
    s'.workspace.find? name = some a := by
  have hthing := h.things _ _ (thing?_automaton ha) howner
  obtain ⟨b, hb, heq⟩ := Option.map_eq_some_iff.1 hthing
  cases heq
  exact hb

/-- The registry under a name is shared, and it is found there. -/
theorem Shares.get? (h : Shares owner s s') {name : String} {r : Registry}
    (hr : s.registries.get? name = some r) (howner : r.owner = owner) :
    s'.registries.get? name = some r ∧ s'.workspace.find? name = none := by
  have hthing := h.things _ _ (thing?_registry hr) howner
  obtain ⟨r', hr', heq⟩ := Option.map_eq_some_iff.1 hthing
  cases heq
  exact ⟨hr', h.found name _ (thing?_registry hr) howner⟩

/-- What is put in the place of the automaton with the token, in both sessions, is shared. -/
theorem Sound.shares_store (hs : s.Sound states) {name : String} {a : Automaton}
    (ha : s.workspace.find? name = some a) (howner : a.space.owner = owner) (s' : Session)
    (b : Automaton) :
    Shares owner (s.withWorkspace (s.workspace.store name b))
      (s'.withWorkspace (s'.workspace.store name b)) := by
  have hx := thing?_automaton ha
  refine shares_of_puts (puts_store rfl name b) (hs.no_other hx howner) (puts_store rfl name b).here
    nofun ?_
  rw [← howner]
  exact hs.given _ _ hx

/-! ### One request -/

variable (renderer : Renderer)

theorem Shares.call (h : Shares owner s s') (hs : s.Sound states) {name : String} (call : Call)
    (howner : s.owner? name = some owner) :
    (s.call name call).shown = (s'.call name call).shown ∧
      Shares owner (s.call name call).session (s'.call name call).session := by
  cases ha : s.workspace.find? name with
  | some a =>
    rw [owner?_automaton ha, Option.some.injEq] at howner
    have ha' := h.find? ha howner
    simp only [Session.call, ha, ha']
    exact ⟨rfl, hs.shares_store ha howner s' _⟩
  | none =>
    rw [owner?_registry ha] at howner
    obtain ⟨r, hr, howner⟩ := Option.map_eq_some_iff.1 howner
    obtain ⟨hr', ha'⟩ := h.get? hr howner
    simp only [Session.call, ha, ha', hr, hr', Option.bind_some]
    cases r.perform? call with
    | none => exact ⟨rfl, h⟩
    | some called =>
      -- no automaton hides the registry in the second session either
      have hx := thing?_registry hr
      refine ⟨rfl, shares_of_puts (puts_withRegistry s name _) (hs.no_other hx howner)
        (puts_withRegistry s' name _).here ?_ ?_⟩
      · intro name' heq
        cases heq
        exact ha'
      · rw [← howner]
        exact hs.given _ _ hx

theorem Shares.draw (h : Shares owner s s') {name : String} (picture : Option Picture)
    (howner : s.owner? name = some owner) :
    (s.draw renderer name picture).shown = (s'.draw renderer name picture).shown ∧
      Shares owner (s.draw renderer name picture).session (s'.draw renderer name picture).session := by
  cases ha : s.workspace.find? name with
  | some a =>
    rw [owner?_automaton ha, Option.some.injEq] at howner
    have ha' := h.find? ha howner
    simp only [draw_def, ha, ha']
    cases a.dot with
    | error fault => exact ⟨rfl, h⟩
    | ok text => cases picture <;> exact ⟨rfl, h⟩
  | none =>
    rw [owner?_registry ha] at howner
    obtain ⟨r, hr, howner⟩ := Option.map_eq_some_iff.1 howner
    obtain ⟨-, ha'⟩ := h.get? hr howner
    simp only [draw_def, ha, ha']
    exact ⟨rfl, h⟩

/-- What is created with the token, in both sessions, is shared. -/
theorem Sound.shares_created (hs : s.Sound states) (hcreated : s.workspace.created = owner)
    {place : Place} {x : Thing} (hputs : s.Puts t place x) (hhere : t'.thing? place = some x)
    (hfound : ∀ name, place = .registry name → t'.workspace.find? name = none)
    (hnext : t.workspace.created = s.workspace.created + 1) : Shares owner t t' := by
  rw [← hcreated]
  exact shares_of_puts hputs (fun place' y _ hy => hs.owner_ne_created hy) hhere hfound (by omega)

/-- An automaton that is created with the token under a name, in both sessions, is shared. -/
theorem Sound.shares_new (hs : s.Sound states) (hcreated : s.workspace.created = owner)
    (ht : t.Within s) (hw : s.workspace.automata = t.workspace.automata) (s' t' : Session)
    (name : String) (a : Automaton) :
    Shares owner (t.withWorkspace (s.workspace.take.store name a))
      (t'.withWorkspace (s'.workspace.take.store name a)) :=
  hs.shares_created hcreated ((puts_store (w := s.workspace.take) hw name a).of_within ht)
    (puts_store (s := t'.withWorkspace s'.workspace.take) rfl name a).here nofun rfl

theorem Shares.command (h : Shares owner s s') (hs : s.Sound states) (line : String)
    (howner : Terminal.concerned? s.workspace (.ofLine line) = some owner) :
    (s.command renderer line).shown = (s'.command renderer line).shown ∧
      Shares owner (s.command renderer line).session (s'.command renderer line).session := by
  unfold Session.command Terminal.run
  generalize Terminal.Command.ofLine line = command at howner ⊢
  cases command with
  | create kind name =>
    cases name with
    | none => cases howner
    | some name =>
      -- both sessions are about to give the same token
      have hcreated : s.workspace.created = owner := Option.some.inj howner
      have hcreated' := h.next (Nat.le_of_eq hcreated)
      simp only [Terminal.execute, Workspace.create, hcreated, hcreated']
      exact ⟨rfl, hs.shares_new hcreated (.refl s) rfl s' s' name _⟩
  | load word name =>
    cases word with
    | none => cases howner
    | some word =>
      obtain ⟨sample, hsample, hcreated⟩ := Option.map_eq_some_iff.1 howner
      have hcreated' := h.next (Nat.le_of_eq hcreated)
      simp only [Terminal.execute, hsample, Workspace.load, hcreated, hcreated']
      exact ⟨rfl, hs.shares_new hcreated (.refl s) rfl s' s' _ _⟩
  | act action arguments =>
    cases arguments with
    | nil => cases howner
    | cons name arguments =>
      obtain ⟨a, ha, howner⟩ := Option.map_eq_some_iff.1 howner
      have ha' := h.find? ha howner
      simp only [Terminal.execute, ha, ha']
      exact ⟨rfl, hs.shares_store ha howner s' _⟩
  | _ => cases howner

/-- A request about a thing shows the same in a session that shares the thing. -/
theorem Shares.perform (h : Shares owner s s') (hs : s.Sound states) (request : Request)
    (howner : s.concerned? request = some owner) :
    (s.perform renderer request).shown = (s'.perform renderer request).shown ∧
      Shares owner (s.perform renderer request).session (s'.perform renderer request).session := by
  cases request with
  | create kind name =>
    have hcreated : s.workspace.created = owner := Option.some.inj howner
    have hcreated' := h.next (Nat.le_of_eq hcreated)
    simp only [Session.perform, Workspace.create, hcreated, hcreated']
    exact ⟨rfl, hs.shares_new hcreated (within_withoutRegistry s name) rfl s' _ name _⟩
  | createRegistry name =>
    have hcreated : s.workspace.created = owner := Option.some.inj howner
    have hcreated' := h.next (Nat.le_of_eq hcreated)
    have hputs := puts_withRegistry (s.withWorkspace (s.workspace.take.delete name)) name { owner }
    have hputs' := puts_withRegistry (s'.withWorkspace (s'.workspace.take.delete name)) name
      { owner }
    simp only [Session.perform, hcreated, hcreated']
    refine ⟨rfl, hs.shares_created hcreated (hputs.of_within (within_delete rfl name)) hputs'.here
      ?_ rfl⟩
    -- an automaton that had the name is gone, so that the registry is found
    intro name' heq
    cases heq
    show (s'.workspace.take.delete name).find? name = none
    rw [Workspace.find?_delete, if_pos rfl]
  | load sample name =>
    have hcreated : s.workspace.created = owner := Option.some.inj howner
    have hcreated' := h.next (Nat.le_of_eq hcreated)
    simp only [Session.perform, Workspace.load, hcreated, hcreated']
    exact ⟨rfl, hs.shares_new hcreated (within_withoutRegistry s name) rfl s' _ name _⟩
  | call name call => exact h.call hs call howner
  | draw name picture => exact h.draw renderer picture howner
  | command line => exact h.command renderer hs line howner

/-! ### Several requests -/

/-- The requests about a thing show the same in a session that shares the thing, when no others are
    made there. -/
theorem Shares.turns (h : Shares owner s s') (hs : s.Sound states) (requests : List Request) :
    (own (s.turns renderer requests) owner).map Turn.shown =
      (s'.turns renderer ((own (s.turns renderer requests) owner).map Turn.request)).map
        Turn.shown := by
  induction requests generalizing s s' states with
  | nil => rfl
  | cons request rest ih =>
    have hs' := hs.perform renderer request
    by_cases hconcerned : s.concerned? request = some owner
    · -- both sessions meet the request
      obtain ⟨hshown, hshares⟩ := h.perform renderer hs request hconcerned
      have hown : own (s.turns renderer (request :: rest)) owner =
          ⟨s, request, s.perform renderer request⟩ ::
            own ((s.perform renderer request).session.turns renderer rest) owner :=
        List.filter_cons_of_pos (by simpa [Turn.concerned?] using hconcerned)
      rw [hown]
      exact congrArg₂ List.cons hshown (ih hshares hs')
    · -- the second session stays as it is
      have hshares := h.others (s.perform_touched renderer request) hconcerned
      have hown : own (s.turns renderer (request :: rest)) owner =
          own ((s.perform renderer request).session.turns renderer rest) owner :=
        List.filter_cons_of_neg (by simpa [Turn.concerned?] using hconcerned)
      rw [hown]
      exact ih hshares hs'

/-- In a session, what is created gets the tokens in order, different things have different ones, and
    each thing answers for the states that it allocated and for no others. Of what the requests show,
    those about one thing show what they show when they are made on their own. -/
theorem things_on_their_own (requests : List Request) :
    let turns := turns renderer {} requests
    let after := after renderer {} requests
    turns.filterMap Turn.created? = List.range after.workspace.created ∧
      (∀ place place' x x', after.thing? place = some x → after.thing? place' = some x' →
        x.states.owner = x'.states.owner → place = place') ∧
      (∀ name owner, after.owner? name = some owner → after.Owns name owner (allocated turns owner)) ∧
      ∀ owner, (own turns owner).map Turn.shown =
        ((startingWith owner).turns renderer ((own turns owner).map Turn.request)).map Turn.shown := by
  have hafter := sound_empty.after renderer requests
  exact ⟨(sound_empty.tokens renderer requests).symm, hafter.apart,
    fun name owner howner => hafter.owns howner,
    fun owner => (shares_startingWith owner).turns renderer sound_empty requests⟩

/-- A registry and an automaton add their first states. The registry refuses the one of the automaton,
    as it does when nothing else is created. -/
theorem registry_and_dfa_on_their_own :
    let requests : List Request :=
      [.createRegistry "n", .create .dfa "m", .call "n" (.build (.addState (.truth true))),
        .call "m" (.build (.addState (.truth false))),
        .call "n" (.ask (.states (.validate (.state ⟨0, 1⟩))))]
    let after := after .works {} requests
    (after.owner? "n" = some 0 ∧ after.Owns "n" 0 [0]) ∧
      (after.owner? "m" = some 1 ∧ after.Owns "m" 1 [0]) ∧
      (own (turns .works {} requests) 0).map Turn.shown =
        ((startingWith 0).turns .works
          [.createRegistry "n", .call "n" (.build (.addState (.truth true))),
            .call "n" (.ask (.states (.validate (.state ⟨0, 1⟩))))]).map Turn.shown := by
  intro requests after
  have hn : after.owner? "n" = some 0 := rfl
  have hm : after.owner? "m" = some 1 := rfl
  obtain ⟨-, -, howns, hshown⟩ := things_on_their_own .works requests
  exact ⟨⟨hn, howns "n" 0 hn⟩, ⟨hm, howns "m" 1 hm⟩, hshown 0⟩

/-- A registry without states says of three values that they are not contained. But it does not refuse
    them as names of no state: each of them holds a number that is too long to be shown. -/
theorem too_long_to_be_shown :
    let requests : List Request := [.createRegistry "n"]
    let after := after .works {} requests
    after.owner? "n" = some 0 ∧ allocated (turns .works {} requests) 0 = [] ∧
      ∀ v ∈ [Value.int (10 ^ 4300), .state ⟨10 ^ 4300, 0⟩, .tuple [.int (10 ^ 4300)]],
        (after.call "n" (.ask (.states (.validate v)))).result = .error .numberTooLong ∧
          ∀ shown reason, (after.call "n" (.ask (.states (.validate v)))).result ≠
            .error (.invalidState v shown reason) := by
  intro requests after
  have hn : after.owner? "n" = some 0 := rfl
  have howns : after.Owns "n" 0 [] := (sound_empty.after .works requests).owns hn
  refine ⟨hn, rfl, fun v hv => ?_⟩
  have hshowable : ¬ v.Showable := by
    simp only [List.mem_cons, List.not_mem_nil, or_false] at hv
    obtain rfl | rfl | rfl := hv
    · exact Value.not_showable_int
    · exact Value.not_showable_state 0
    · exact Value.not_showable_tuple
  have hnone : ¬ ∃ i ∈ ([] : List Nat), v = .state ⟨i, 0⟩ := by simp
  have hrefused := howns.unshown v _ .validate trivial hnone hshowable
  refine ⟨hrefused, fun shown reason heq => ?_⟩
  rw [hrefused] at heq
  cases heq

end Session

end FiniteAutomata

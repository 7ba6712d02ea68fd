import FiniteAutomata.Proofs.Session.Things
import FiniteAutomata.Proofs.Showable

namespace FiniteAutomata

/-!
# Whose states they are

Each thing that is created in a session gets a token that nothing else gets, and its states are those
that were reported as added while requests were about it. So every check of a value that ought to
name a state succeeds on the names of these states and on nothing else.

* `Session.turns`, `Session.after`: several requests, one after the other.
* `allocated`: the states that a thing allocated.
* `Session.Sound`: tokens tell things apart, and things have the states that they allocated.
* `Session.Sound.puts`: it stays so when a thing is put somewhere with its states.
* `Session.Sound.touched`, `Session.Sound.after`: one request and any number of requests keep it so.
* `Session.Sound.tokens`: what is created gets the tokens in order.
* `Session.Owns`: what is kept under a name answers for some states and for no others.
* `Session.Sound.owns`: it answers for those that it allocated.
-/

/-! ### Several requests -/

/-- A request, with the session before it and what it did. -/
structure Turn where
  before : Session
  request : Request
  performed : Performed

namespace Turn

/-- The token of the thing that the request is about. -/
def concerned? (t : Turn) : Option Nat := t.before.concerned? t.request

/-- The token of the thing that the request creates, if it creates one: the next one. -/
def created? (t : Turn) : Option Nat :=
  t.concerned?.filter fun owner => owner == t.before.workspace.created

/-- The states that the thing with the token allocates. -/
def allocates (t : Turn) (owner : Nat) : List Nat :=
  if t.concerned? = some owner then additions t.performed.report else []

end Turn

/-- The states that the thing with the token allocated, in order. -/
def allocated (turns : List Turn) (owner : Nat) : List Nat := turns.flatMap (·.allocates owner)

namespace Session

/-- What several requests do, one after the other. -/
def turns (renderer : Renderer) (s : Session) : List Request → List Turn
  | [] => []
  | request :: rest =>
    ⟨s, request, s.perform renderer request⟩ ::
      (s.perform renderer request).session.turns renderer rest

/-- The session after several requests. -/
def after (renderer : Renderer) (s : Session) (requests : List Request) : Session :=
  requests.foldl (fun s request => (s.perform renderer request).session) s

/-! ### Tokens and states -/

/-- Tokens are given once: those of the things that are kept were given, and tell these apart. The
    things have the states that were allocated, and nothing was allocated under a token that was not
    given. -/
structure Sound (s : Session) (states : Nat → List Nat) : Prop where
  given : ∀ place x, s.thing? place = some x → x.states.owner < s.workspace.created
  apart : ∀ place place' x x', s.thing? place = some x → s.thing? place' = some x' →
    x.states.owner = x'.states.owner → place = place'
  indexes : ∀ place x, s.thing? place = some x → x.states.indexes = states x.states.owner
  unborn : ∀ owner, s.workspace.created ≤ owner → states owner = []

variable {s s' : Session} {states : Nat → List Nat} {report : List Event}

theorem sound_empty : Sound {} fun _ => [] where
  given place := by cases place <;> exact nofun
  apart place := by cases place <;> exact nofun
  indexes place := by cases place <;> exact nofun
  unborn _ _ := rfl

/-- What is kept somewhere is the only thing that has its token. -/
theorem Sound.no_other (h : s.Sound states) {owner : Nat} {place : Place} {x : Thing}
    (hx : s.thing? place = some x) (howner : x.states.owner = owner) (place' : Place) (y : Thing)
    (hne : place' ≠ place) (hy : s.thing? place' = some y) : y.states.owner ≠ owner :=
  fun heq => hne (h.apart place' place y x hy hx (heq.trans howner.symm))

/-- What will be created next has a token that nothing has. -/
theorem Sound.owner_ne_created (h : s.Sound states) {place : Place} {x : Thing}
    (hx : s.thing? place = some x) : x.states.owner ≠ s.workspace.created :=
  Nat.ne_of_lt (h.given place x hx)

/-- A session stays sound when a thing is put somewhere, if nothing elsewhere has its token and its
    states are those that were allocated. -/
theorem Sound.puts (h : s.Sound states) {place : Place} {x : Thing} (hputs : s.Puts s' place x)
    (hother : ∀ place' y, place' ≠ place → s.thing? place' = some y →
      y.states.owner ≠ x.states.owner)
    (hindexes : x.states.indexes = states x.states.owner ++ additions report)
    (hcreated : s.workspace.created ≤ s'.workspace.created)
    (hgiven : x.states.owner < s'.workspace.created) :
    s'.Sound fun owner =>
      states owner ++ if some x.states.owner = some owner then additions report else [] := by
  refine ⟨?_, ?_, ?_, ?_⟩
  · intro place' y hy
    obtain ⟨rfl, rfl⟩ | ⟨-, hy⟩ := hputs.here_or_elsewhere hy
    · exact hgiven
    · exact Nat.lt_of_lt_of_le (h.given place' y hy) hcreated
  · intro place₁ place₂ y z hy hz heq
    obtain ⟨rfl, rfl⟩ | ⟨hne, hy⟩ := hputs.here_or_elsewhere hy <;>
      obtain ⟨rfl, rfl⟩ | ⟨hne', hz⟩ := hputs.here_or_elsewhere hz
    -- two things with one token are both here, or none of them is
    · rfl
    · exact absurd heq.symm (hother place₂ z hne' hz)
    · exact absurd heq (hother place₁ y hne hy)
    · exact h.apart place₁ place₂ y z hy hz heq
  · intro place' y hy
    obtain ⟨rfl, rfl⟩ | ⟨hne, hy⟩ := hputs.here_or_elsewhere hy
    · rw [if_pos rfl, hindexes]
    · have hne' : some x.states.owner ≠ some y.states.owner :=
        fun heq => hother place' y hne hy (Option.some.inj heq).symm
      rw [if_neg hne', List.append_nil, h.indexes place' y hy]
  · intro owner hle
    have hne : some x.states.owner ≠ some owner := by
      rw [Ne, Option.some.injEq]
      omega
    rw [if_neg hne, List.append_nil, h.unborn owner (hcreated.trans hle)]

/-- One request keeps a session sound. -/
theorem Sound.touched (h : s.Sound states) {concerned : Option Nat}
    (ht : Touched s s' report concerned) :
    s'.Sound fun owner =>
      states owner ++ if concerned = some owner then additions report else [] := by
  cases ht with
  | nobody hwithin hcreated hreport =>
    -- nothing came into being and nothing was changed
    simp only [hreport, ite_self, List.append_nil]
    refine ⟨?_, ?_, ?_, ?_⟩
    · intro place x hx
      rw [hcreated]
      exact h.given place x (hwithin place x hx)
    · intro place place' x x' hx hx'
      exact h.apart place place' x x' (hwithin place x hx) (hwithin place' x' hx')
    · intro place x hx
      exact h.indexes place x (hwithin place x hx)
    · intro owner howner
      rw [hcreated] at howner
      exact h.unborn owner howner
  | @created place x hputs hgrows hcreated =>
    -- what is new has a token that nothing had before
    have howner : x.states.owner = s.workspace.created := hgrows.owner
    rw [← howner]
    refine h.puts hputs (fun place' y _ hy => ?_) ?_ (by omega) (by omega)
    · rw [howner]
      exact h.owner_ne_created hy
    · rw [howner, h.unborn _ (Nat.le_refl _), hgrows.indexes]
      rfl
  | @changed place x x' hx hputs hgrows hcreated =>
    -- the states that were added are those of the thing that was changed
    have hgiven := h.given place x hx
    have howner := hgrows.owner
    rw [← howner]
    refine h.puts hputs (h.no_other hx howner.symm) ?_ (by omega) (by omega)
    rw [howner, hgrows.indexes, h.indexes place x hx]

variable (renderer : Renderer)

theorem Sound.perform (h : s.Sound states) (request : Request) :
    (s.perform renderer request).session.Sound fun owner =>
      states owner ++ Turn.allocates ⟨s, request, s.perform renderer request⟩ owner :=
  h.touched (s.perform_touched renderer request)

/-- Any number of requests keep a session sound. -/
theorem Sound.after (h : s.Sound states) (requests : List Request) :
    (s.after renderer requests).Sound fun owner =>
      states owner ++ allocated (s.turns renderer requests) owner := by
  induction requests generalizing s states with
  | nil => simpa [allocated, turns, Session.after] using h
  | cons request rest ih =>
    have hrest := ih (h.perform renderer request)
    simpa only [turns, allocated, Session.after, List.foldl_cons, List.flatMap_cons,
      ← List.append_assoc] using hrest

/-- What is created gets the tokens in order, each of them once. -/
theorem Sound.tokens (h : s.Sound states) (requests : List Request) :
    List.range (s.after renderer requests).workspace.created =
      List.range s.workspace.created ++ (s.turns renderer requests).filterMap Turn.created? := by
  induction requests generalizing s states with
  | nil => exact (List.append_nil _).symm
  | cons request rest ih =>
    have hrest := ih (h.perform renderer request)
    rw [turns, List.filterMap_cons]
    refine hrest.trans ?_
    have htouched := s.perform_touched renderer request
    generalize hconcerned : s.concerned? request = concerned at htouched
    have hcreated : (⟨s, request, s.perform renderer request⟩ : Turn).created? =
        concerned.filter fun owner => owner == s.workspace.created := by
      rw [← hconcerned]
      rfl
    rw [hcreated]
    cases htouched with
    | nobody _ heq _ => rw [heq]; rfl
    | created _ _ heq =>
      rw [heq, List.range_succ, List.append_assoc, Option.filter_some,
        if_pos (beq_self_eq_true _)]
      rfl
    | @changed place x x' hx _ _ heq =>
      -- what is kept has a token that was given before
      rw [heq, Option.filter_some, if_neg (by simpa using h.owner_ne_created hx)]

end Session

/-! ### Checks -/

/-- The call checks a value that ought to name a state, and is refused for no other reason. -/
inductive Call.Checks (v : Value) : Call → Prop
  | validate : Checks v (.ask (.states (.validate v)))
  | accepting : Checks v (.ask (.states (.accepting v)))
  | record : Checks v (.ask (.states (.record v)))
  | setInitial : Checks v (.build (.setInitial v))

namespace Session

/-- What is kept under the name knows the call: a registry has no initial state. -/
def Knows (s : Session) (name : String) : Call → Prop
  | .build (.setInitial _) => (s.workspace.find? name).isSome = true
  | _ => True

/-- What is kept under the name answers for the states with the given numbers and token, and for no
    others. -/
structure Owns (s : Session) (name : String) (owner : Nat) (indexes : List Nat) : Prop where
  validated : ∀ (v : Value) (i : Nat),
    (s.call name (.ask (.states (.validate v)))).result = .ok (.answered (.state (some i))) ↔
      i ∈ indexes ∧ v = .state ⟨i, owner⟩
  contained : ∀ v : Value, ∃ b,
    (s.call name (.ask (.states (.contains v)))).result = .ok (.answered (.flag b)) ∧
      (b = true ↔ ∃ i ∈ indexes, v = .state ⟨i, owner⟩)
  /-- Every check succeeds on the names of these states. -/
  checked : ∀ (v : Value) (call : Call), call.Checks v → s.Knows name call →
    (∃ i ∈ indexes, v = .state ⟨i, owner⟩) → ∃ answer, (s.call name call).result = .ok (.answered answer)
  /-- On every other value that can be shown it is refused, because that names no state. -/
  refused : ∀ (v : Value) (call : Call), call.Checks v → s.Knows name call →
    (¬ ∃ i ∈ indexes, v = .state ⟨i, owner⟩) → v.Showable → ∃ shown reason,
      v.literal = .ok shown ∧ (s.call name call).result = .error (.invalidState v shown reason)
  /-- A value that cannot be shown is refused as too long. -/
  unshown : ∀ (v : Value) (call : Call), call.Checks v → s.Knows name call →
    (¬ ∃ i ∈ indexes, v = .state ⟨i, owner⟩) → ¬ v.Showable →
      (s.call name call).result = .error .numberTooLong
  lookedUp : ∀ (index : Int) (i : Nat),
    (s.call name (.ask (.states (.lookup index)))).result = .ok (.answered (.state (some i))) ↔
      i ∈ indexes ∧ index = i
  listed : (s.call name (.ask (.states .indexes))).result = .ok (.answered (.set indexes))
  /-- A state that is added is a new one. -/
  added : ∀ accepting : Value, ∃ i, i ∉ indexes ∧
    (s.call name (.build (.addState accepting))).result = .ok (.answered (.state (some i))) ∧
      (s.call name (.build (.addState accepting))).report = [.added i accepting]

/-- What calls under a name answer is told by the states of a thing. -/
structure Answers (s : Session) (name : String) (r : Registry) : Prop where
  asked : ∀ query, (s.call name (.ask (.states query))).result = (r.answer query).map .answered
  setInitial : ∀ v, (s.workspace.find? name).isSome = true →
    (s.call name (.build (.setInitial v))).result =
      (r.validate v).map fun i => .answered (.state (some i))
  added : ∀ accepting,
    (s.call name (.build (.addState accepting))).result = .ok (.answered (.state (some r.size))) ∧
      (s.call name (.build (.addState accepting))).report = [.added r.size accepting]

variable {s : Session} {name : String}

theorem answers_automaton {a : Automaton} (h : s.workspace.find? name = some a) :
    s.Answers name a.space.toRegistry where
  asked query := by
    simp only [Session.call, h]
    rfl
  setInitial v _ := by
    simp only [Session.call, h]
    simp only [performed, Automaton.perform, Built.called, a.result_setInitial_eq]
    cases a.space.validate v <;> rfl
  added accepting := by
    simp only [Session.call, h]
    cases a <;> exact ⟨rfl, rfl⟩

theorem answers_registry {r : Registry} (h : s.workspace.find? name = none)
    (hr : s.registries.get? name = some r) : s.Answers name r where
  asked query := by
    simp only [Session.call, h, hr]
    rfl
  setInitial v hsome := by
    rw [h] at hsome
    cases hsome
  added accepting := by
    simp only [Session.call, h, hr]
    exact ⟨rfl, rfl⟩

/-- Under a name that has a token there is something with that token, and it answers. -/
theorem exists_answers {owner : Nat} (h : s.owner? name = some owner) :
    ∃ place x, s.thing? place = some x ∧ x.states.owner = owner ∧ s.Answers name x.states := by
  cases ha : s.workspace.find? name with
  | some a =>
    rw [owner?_automaton ha, Option.some.injEq] at h
    exact ⟨_, .automaton a, thing?_automaton ha, h, answers_automaton ha⟩
  | none =>
    rw [owner?_registry ha] at h
    obtain ⟨r, hr, howner⟩ := Option.map_eq_some_iff.1 h
    exact ⟨_, .registry r, thing?_registry hr, howner, answers_registry ha hr⟩

/-- A check results in what the check of the value results in. -/
theorem Answers.checks {r : Registry} (h : s.Answers name r) {v : Value} {call : Call}
    (hcall : call.Checks v) (hknows : s.Knows name call) :
    ∃ f : Nat → Effect, (s.call name call).result = (r.validate v).map f ∧
      ∀ i, ∃ answer, f i = .answered answer := by
  cases hcall with
  | validate =>
    refine ⟨fun i => .answered (.state (some i)), ?_, fun i => ⟨_, rfl⟩⟩
    rw [h.asked, Registry.answer]
    cases r.validate v <;> rfl
  | accepting =>
    refine ⟨fun i => .answered (.flag (r.accepts i)), ?_, fun i => ⟨_, rfl⟩⟩
    rw [h.asked, Registry.answer]
    cases r.validate v <;> rfl
  | record =>
    refine ⟨fun i => .answered (.record (r.recordAt i)), ?_, fun i => ⟨_, rfl⟩⟩
    rw [h.asked, Registry.answer]
    cases r.validate v <;> rfl
  | setInitial => exact ⟨_, h.setInitial v hknows, fun i => ⟨_, rfl⟩⟩

/-- A check of a value that is not the name of one of the states is refused. -/
theorem Answers.refused {r : Registry} (h : s.Answers name r) {v : Value} {call : Call}
    (hcall : call.Checks v) (hknows : s.Knows name call)
    (hnone : ¬ ∃ i ∈ r.indexes, v = .state ⟨i, r.owner⟩) :
    ∃ reason, (s.call name call).result = .error (v.invalid reason) := by
  obtain ⟨f, hf, -⟩ := h.checks hcall hknows
  cases hvalid : r.validate v with
  | ok i => exact absurd ⟨i, Registry.validate_eq_ok_iff_mem.1 hvalid⟩ hnone
  | error fault =>
    obtain ⟨reason, rfl⟩ := Registry.validate_eq_error hvalid
    rw [hvalid] at hf
    exact ⟨reason, hf⟩

/-- What answers owns its states. -/
theorem Answers.owns {r : Registry} (h : s.Answers name r) : s.Owns name r.owner r.indexes where
  validated v i := by
    rw [h.asked, ← Registry.validate_eq_ok_iff_mem, Registry.answer]
    cases r.validate v <;> simp [Except.map]
  contained v := ⟨r.contains v, h.asked _, Registry.contains_iff⟩
  checked v call hcall hknows hnamed := by
    obtain ⟨f, hf, hanswers⟩ := h.checks hcall hknows
    obtain ⟨i, hi⟩ := hnamed
    obtain ⟨answer, hanswer⟩ := hanswers i
    rw [Registry.validate_eq_ok_iff_mem.2 hi] at hf
    exact ⟨answer, hf.trans (congrArg Except.ok hanswer)⟩
  refused v call hcall hknows hnone hshowable := by
    obtain ⟨reason, hreason⟩ := h.refused hcall hknows hnone
    obtain ⟨shown, hshown, hinvalid⟩ := Value.invalid_of_showable hshowable
    exact ⟨shown, reason, hshown, hreason.trans (congrArg Except.error (hinvalid reason))⟩
  unshown v call hcall hknows hnone hshowable := by
    obtain ⟨reason, hreason⟩ := h.refused hcall hknows hnone
    exact hreason.trans (congrArg Except.error (Value.invalid_of_not_showable hshowable reason))
  lookedUp index i := by
    rw [h.asked, Registry.mem_indexes, ← Registry.lookup_eq_ok_iff, Registry.answer]
    cases r.lookup index <;> simp [Except.map]
  listed := h.asked _
  added accepting := ⟨r.size, by simp [Registry.mem_indexes], h.added accepting⟩

/-- In a sound session, what is kept under a name answers for the states that it allocated. -/
theorem Sound.owns {states : Nat → List Nat} (h : s.Sound states) {owner : Nat}
    (howner : s.owner? name = some owner) : s.Owns name owner (states owner) := by
  obtain ⟨place, x, hx, rfl, hanswers⟩ := exists_answers howner
  rw [← h.indexes place x hx]
  exact hanswers.owns

end Session

end FiniteAutomata

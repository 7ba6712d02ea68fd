import FiniteAutomata.Proofs.Allocation
import FiniteAutomata.Proofs.Workspace
import FiniteAutomata.Session

namespace FiniteAutomata

/-!
# Things in a session

A session keeps automata and registries, each at a place of its own. A request is about at most one
of them, which is told by its token. It leaves all others as they are, or takes them away.

* `Place`, `Thing`, `Session.thing?`: what is kept where.
* `Session.concerned?`: the token of the thing that a request is about.
* `Session.Puts`: one thing is put somewhere, and nothing new is anywhere else.
* `Session.Touched`: what a request can do, told by the thing that it is about.
* `Session.perform_touched`: no request does anything else.
-/

/-- Where something is kept: automata and registries have names of their own. -/
inductive Place
  | automaton (name : String)
  | registry (name : String)
deriving DecidableEq

/-- What is kept in a session. -/
inductive Thing
  | automaton (a : Automaton)
  | registry (r : Registry)

/-- The states of a thing. -/
def Thing.states : Thing → Registry
  | .automaton a => a.space.toRegistry
  | .registry r => r

/-- The token of the automaton that a command is about. -/
def Terminal.concerned? (w : Workspace) : Terminal.Command → Option Nat
  | .create _ (some _) => some w.created
  | .load (some word) _ => (Sample.ofName? word).map fun _ => w.created
  | .act _ (name :: _) => (w.find? name).map (·.space.owner)
  | _ => none

namespace Session

/-- What is kept at a place. -/
def thing? (s : Session) : Place → Option Thing
  | .automaton name => (s.workspace.find? name).map .automaton
  | .registry name => (s.registries.get? name).map .registry

/-- The token of the thing that a request is about. What is created has the next token. -/
def concerned? (s : Session) : Request → Option Nat
  | .create .. | .createRegistry _ | .load .. => some s.workspace.created
  | .call name _ | .draw name _ => s.owner? name
  | .command line => Terminal.concerned? s.workspace (.ofLine line)

/-! ### Putting things somewhere -/

/-- The second session keeps nothing but what the first one keeps. -/
def Within (s' s : Session) : Prop := ∀ place x, s'.thing? place = some x → s.thing? place = some x

/-- The second session keeps a thing somewhere, and nothing elsewhere but what the first one keeps. -/
structure Puts (s s' : Session) (place : Place) (x : Thing) : Prop where
  here : s'.thing? place = some x
  elsewhere : ∀ place' y, place' ≠ place → s'.thing? place' = some y → s.thing? place' = some y

variable {s s' : Session} {name : String}

theorem Within.refl (s : Session) : s.Within s := fun _ _ => id

theorem Puts.of_within {t : Session} {place : Place} {x : Thing} (hputs : s'.Puts t place x)
    (h : s'.Within s) : s.Puts t place x :=
  ⟨hputs.here, fun place' y hne hy => h place' y (hputs.elsewhere place' y hne hy)⟩

/-- Whatever is kept after something was put somewhere is this, or it is somewhere else and was kept
    before. -/
theorem Puts.here_or_elsewhere {place place' : Place} {x y : Thing} (h : s.Puts s' place x)
    (hy : s'.thing? place' = some y) :
    (place' = place ∧ y = x) ∨ (place' ≠ place ∧ s.thing? place' = some y) := by
  by_cases hplace : place' = place
  · subst hplace
    rw [h.here] at hy
    cases hy
    exact .inl ⟨rfl, rfl⟩
  · exact .inr ⟨hplace, h.elsewhere place' y hplace hy⟩

theorem puts_store {w : Workspace} (hw : w.automata = s.workspace.automata) (name : String)
    (a : Automaton) :
    s.Puts (s.withWorkspace (w.store name a)) (.automaton name) (.automaton a) := by
  have hfind : ∀ name', (w.store name a).find? name' =
      if name = name' then some a else s.workspace.find? name' := by
    intro name'
    rw [Workspace.find?_store, Workspace.find?, hw]
    rfl
  refine ⟨?_, ?_⟩
  · show ((w.store name a).find? name).map _ = _
    rw [hfind, if_pos rfl, Option.map_some]
  · intro place y hne hy
    cases place with
    | registry name' => exact hy
    | automaton name' =>
      have hname : name ≠ name' := fun heq => hne (heq ▸ rfl)
      change ((w.store name a).find? name').map _ = _ at hy
      rwa [hfind, if_neg hname] at hy

theorem puts_withRegistry (s : Session) (name : String) (r : Registry) :
    s.Puts (s.withRegistry name r) (.registry name) (.registry r) := by
  have hget : ∀ name', (s.withRegistry name r).registries.get? name' =
      if name = name' then some r else s.registries.get? name' := by
    intro name'
    unfold withRegistry
    rw [Ledger.get?_update]
    simp only [beq_iff_eq]
  refine ⟨?_, ?_⟩
  · show ((s.withRegistry name r).registries.get? name).map _ = _
    rw [hget, if_pos rfl, Option.map_some]
  · intro place y hne hy
    cases place with
    | automaton name' => exact hy
    | registry name' =>
      have hname : name ≠ name' := fun heq => hne (heq ▸ rfl)
      change ((s.withRegistry name r).registries.get? name').map _ = _ at hy
      rwa [hget, if_neg hname] at hy

theorem within_withoutRegistry (s : Session) (name : String) : (s.withoutRegistry name).Within s := by
  intro place x hx
  cases place with
  | automaton name' => exact hx
  | registry name' =>
    change (Ledger.get? (s.registries.filter fun e => e.1 != name) name').map _ = _ at hx
    rw [Ledger.get?_filter_ne] at hx
    split at hx
    · cases hx
    · exact hx

theorem within_delete {w : Workspace} (hw : w.automata = s.workspace.automata) (name : String) :
    (s.withWorkspace (w.delete name)).Within s := by
  intro place x hx
  cases place with
  | registry name' => exact hx
  | automaton name' =>
    change ((w.delete name).find? name').map _ = _ at hx
    rw [Workspace.find?_delete, Workspace.find?, hw] at hx
    split at hx
    · cases hx
    · exact hx

/-! ### What a request does -/

/-- What a request can do to a session, told by the token of the thing that it is about. -/
inductive Touched (s s' : Session) (report : List Event) : Option Nat → Prop
  /-- It is about nothing, and changes nothing that is still kept. -/
  | nobody (hwithin : s'.Within s) (hcreated : s'.workspace.created = s.workspace.created)
    (hreport : additions report = []) : Touched s s' report none
  /-- It puts a new thing somewhere, whose states are reported. -/
  | created {place : Place} {x : Thing} (hputs : s.Puts s' place x)
    (hgrows : Registry.Grows { owner := s.workspace.created } x.states report)
    (hcreated : s'.workspace.created = s.workspace.created + 1) :
    Touched s s' report (some s.workspace.created)
  /-- It puts a thing back where it was, with the states that are reported behind those it had. -/
  | changed {place : Place} {x x' : Thing} (hx : s.thing? place = some x)
    (hputs : s.Puts s' place x') (hgrows : x.states.Grows x'.states report)
    (hcreated : s'.workspace.created = s.workspace.created) :
    Touched s s' report (some x.states.owner)

/-- A new automaton has no states. -/
theorem grows_new (kind : AutomatonKind) (owner : Nat) :
    Registry.Grows { owner } (Automaton.new kind owner).space.toRegistry [] := by
  cases kind <;> exact .same _ rfl

/-- A request that is about nothing and changes nothing. -/
theorem Touched.nothing (s : Session) : Touched s s [] none :=
  .nobody (.refl s) rfl rfl

/-- A request that is about a thing and leaves it as it is. -/
theorem Touched.unchanged {place : Place} {x : Thing} (hx : s.thing? place = some x) :
    Touched s s [] (some x.states.owner) :=
  .changed hx ⟨hx, fun _ _ _ => id⟩ (.same _ rfl) rfl

/-- A thing with another token than the one that a request is about was there before. -/
theorem Touched.thing?_of_ne {report : List Event} {concerned : Option Nat}
    (h : Touched s s' report concerned) {place : Place} {x : Thing}
    (hx : s'.thing? place = some x) (hother : concerned ≠ some x.states.owner) :
    s.thing? place = some x := by
  cases h with
  | nobody hwithin _ _ => exact hwithin place x hx
  | created hputs hgrows _ =>
    obtain ⟨rfl, rfl⟩ | ⟨-, hx⟩ := hputs.here_or_elsewhere hx
    · exact absurd (congrArg some hgrows.owner.symm) hother
    · exact hx
  | changed _ hputs hgrows _ =>
    obtain ⟨rfl, rfl⟩ | ⟨-, hx⟩ := hputs.here_or_elsewhere hx
    · exact absurd (congrArg some hgrows.owner.symm) hother
    · exact hx

/-- No request takes a token back. -/
theorem Touched.created_le {report : List Event} {concerned : Option Nat}
    (h : Touched s s' report concerned) : s.workspace.created ≤ s'.workspace.created := by
  cases h <;> omega

/-- The automaton under a name is the one that is found there. -/
theorem thing?_automaton {a : Automaton} (h : s.workspace.find? name = some a) :
    s.thing? (.automaton name) = some (.automaton a) := by
  show (s.workspace.find? name).map _ = _
  rw [h, Option.map_some]

theorem thing?_registry {r : Registry} (h : s.registries.get? name = some r) :
    s.thing? (.registry name) = some (.registry r) := by
  show (s.registries.get? name).map _ = _
  rw [h, Option.map_some]

/-- An automaton is found first. -/
theorem owner?_automaton {a : Automaton} (h : s.workspace.find? name = some a) :
    s.owner? name = some a.space.owner := by
  unfold owner?
  rw [h]

theorem owner?_registry (h : s.workspace.find? name = none) :
    s.owner? name = (s.registries.get? name).map (·.owner) := by
  unfold owner?
  rw [h]

theorem call_touched (s : Session) (name : String) (call : Call) :
    Touched s (s.call name call).session (s.call name call).report (s.owner? name) := by
  cases ha : s.workspace.find? name with
  | some a =>
    simp only [Session.call, ha, performed]
    rw [owner?_automaton ha]
    exact .changed (thing?_automaton ha) (puts_store rfl name _) (a.grows_perform call) rfl
  | none =>
    rw [owner?_registry ha]
    simp only [Session.call, ha]
    cases hr : s.registries.get? name with
    | none => exact .nothing s
    | some r =>
      rw [Option.bind_some]
      cases hcalled : r.perform? call with
      | none => exact .unchanged (thing?_registry hr)
      | some called =>
        exact .changed (thing?_registry hr) (puts_withRegistry s name _)
          (Registry.grows_perform hcalled) rfl

/-- What is drawn is put back as it was. -/
theorem draw_def (s : Session) (renderer : Renderer) (name : String) (picture : Option Picture) :
    s.draw renderer name picture = match s.workspace.find? name with
      | none => s.idle
      | some a => match a.dot, picture with
        | .error fault, _ => { session := s, result := .error fault }
        | .ok text, none => { session := s, result := .ok (.drew text) }
        | .ok text, some picture =>
          { session := s
            result := renderer.outcome.map fun _ => .drew text
            pictures := [picture] } := by
  rw [draw]
  cases ha : s.workspace.find? name with
  | none => rfl
  | some a =>
    have hstore : s.withWorkspace (s.workspace.store name a) = s := by
      rw [Workspace.store_of_find? ha]
      rfl
    cases hdot : Automaton.Ask.dot.answer a <;> cases picture <;>
      simp only [Automaton.Ask.traceless_dot.ask_eq, hstore, Automaton.dot, hdot]

theorem draw_touched (s : Session) (renderer : Renderer) (name : String)
    (picture : Option Picture) :
    Touched s (s.draw renderer name picture).session (s.draw renderer name picture).report
      (s.owner? name) := by
  cases ha : s.workspace.find? name with
  | some a =>
    simp only [draw_def, ha]
    rw [owner?_automaton ha]
    cases a.dot with
    | error fault => exact .unchanged (thing?_automaton ha)
    | ok text => cases picture <;> exact .unchanged (thing?_automaton ha)
  | none =>
    rw [owner?_registry ha]
    simp only [draw_def, ha]
    cases hr : s.registries.get? name with
    | none => exact .nothing s
    | some r => exact .unchanged (thing?_registry hr)

theorem execute_touched (s : Session) (renderer : Renderer) (command : Terminal.Command) :
    Touched s (s.withWorkspace (Terminal.execute renderer s.workspace command).workspace)
      (Terminal.execute renderer s.workspace command).report
      (Terminal.concerned? s.workspace command) := by
  cases command with
  | create kind name =>
    cases name with
    | none => exact .nothing s
    | some name =>
      exact .created (puts_store (w := s.workspace.take) rfl name (.new kind s.workspace.created))
        (grows_new kind _) rfl
  | load word name =>
    cases word with
    | none => exact .nothing s
    | some word =>
      simp only [Terminal.execute, Terminal.concerned?]
      cases hsample : Sample.ofName? word with
      | none => exact .nothing s
      | some sample =>
        exact .created (puts_store (w := s.workspace.take) rfl _ (sample.automaton _))
          (sample.grows_automaton s.workspace.created) rfl
  | delete name =>
    cases name with
    | none => exact .nothing s
    | some name =>
      simp only [Terminal.execute, Terminal.concerned?]
      cases s.workspace.find? name with
      | none => exact .nothing s
      | some a => exact .nobody (within_delete rfl name) rfl rfl
  | clear =>
    -- only the registries are left
    refine .nobody ?_ rfl rfl
    intro place x hx
    cases place with
    | automaton name => cases hx
    | registry name => exact hx
  | act action arguments =>
    cases arguments with
    | nil => exact .nothing s
    | cons name arguments =>
      simp only [Terminal.execute, Terminal.concerned?]
      cases ha : s.workspace.find? name with
      | none => exact .nothing s
      | some a =>
        exact .changed (thing?_automaton ha) (puts_store rfl name _)
          (Terminal.grows_perform renderer name arguments a action) rfl
  | list =>
    obtain ⟨output, hlist⟩ := Terminal.execute_list renderer s.workspace
    rw [hlist]
    exact .nothing s
  | _ => exact .nothing s

/-- A request does nothing but what `Touched` lists. -/
theorem perform_touched (s : Session) (renderer : Renderer) (request : Request) :
    Touched s (s.perform renderer request).session (s.perform renderer request).report
      (s.concerned? request) := by
  cases request with
  | create kind name =>
    -- a registry under the name is taken away before
    have hputs := puts_store (s := s.withoutRegistry name) (w := s.workspace.take) rfl name
      (.new kind s.workspace.created)
    exact .created (hputs.of_within (within_withoutRegistry s name)) (grows_new kind _) rfl
  | createRegistry name =>
    have hputs := puts_withRegistry (s.withWorkspace (s.workspace.take.delete name)) name
      { owner := s.workspace.created }
    exact .created (hputs.of_within (within_delete rfl name)) (.same _ rfl) rfl
  | load sample name =>
    have hputs := puts_store (s := s.withoutRegistry name) (w := s.workspace.take) rfl name
      (sample.automaton s.workspace.created)
    exact .created (hputs.of_within (within_withoutRegistry s name))
      (sample.grows_automaton s.workspace.created) rfl
  | call name call => exact call_touched s name call
  | draw name picture => exact draw_touched s renderer name picture
  | command line => exact execute_touched s renderer (.ofLine line)

end Session

end FiniteAutomata

import FiniteAutomata.Proofs.Collection.Ledger
import FiniteAutomata.Proofs.Textual
import FiniteAutomata.Workspace

namespace FiniteAutomata.Workspace

/-!
# Workspaces by name

* `find?_store`, `find?_create`, `find?_delete`: what is found under which name after a change.
* `store_of_find?`: to keep what is kept already changes nothing.
* `Textual`: every automaton that is kept has texts as symbols, and so it stays.
-/

variable {w : Workspace} {name : String} {a : Automaton}

theorem find?_store (w : Workspace) (name : String) (a : Automaton) (name' : String) :
    (w.store name a).find? name' = if name = name' then some a else w.find? name' := by
  rw [find?, store, Ledger.get?_update]
  simp only [beq_iff_eq]
  rfl

theorem find?_create (w : Workspace) (kind : AutomatonKind) (name name' : String) :
    (w.create kind name).find? name' =
      if name = name' then some (.new kind w.created) else w.find? name' :=
  find?_store w.take name _ name'

theorem find?_delete (w : Workspace) (name name' : String) :
    (w.delete name).find? name' = if name = name' then none else w.find? name' := by
  rw [find?, delete, Ledger.get?_filter_ne]
  simp only [beq_iff_eq]
  rfl

/-- To keep what is kept already changes nothing. -/
theorem store_of_find? (h : w.find? name = some a) : w.store name a = w := by
  rw [store, Ledger.update_of_get?_eq_some h rfl]

/-! ### Texts as symbols -/

/-- Every automaton that is kept has texts as symbols. -/
def Textual (w : Workspace) : Prop := ∀ name a, w.find? name = some a → a.Textual

theorem textual_empty : Textual {} := fun _ _ h => nomatch h

theorem Textual.store (h : w.Textual) (name : String) (ha : a.Textual) :
    (w.store name a).Textual := by
  intro name' b hb
  rw [find?_store] at hb
  split at hb
  · cases hb
    exact ha
  · exact h name' b hb

theorem Textual.delete (h : w.Textual) (name : String) : (w.delete name).Textual := by
  intro name' b hb
  rw [find?_delete] at hb
  split at hb
  · cases hb
  · exact h name' b hb

theorem Textual.clear (w : Workspace) : w.clear.Textual := fun _ _ h => nomatch h

end FiniteAutomata.Workspace

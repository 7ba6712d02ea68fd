import FiniteAutomata.Sample

namespace FiniteAutomata

/-!
# Workspaces

Automata are kept under names. Whatever is created gets a token of its own, so that its states are
never mistaken for those of anything created earlier, even under the same name.

* `Workspace`: the automata by name, and how many things were created so far.
* `Workspace.create`, `Workspace.load`: put a new automaton or a sample under a name.
* `Workspace.store`, `Workspace.delete`, `Workspace.clear`: change what is kept.
-/

/-- Automata by name. -/
structure Workspace where
  automata : Ledger String Automaton := []
  /-- How many things were created so far; the token of the next one. -/
  created : Nat := 0

namespace Workspace

/-- The automaton under a name. -/
def find? (w : Workspace) (name : String) : Option Automaton := w.automata.get? name

/-- Keeps an automaton under a name. -/
def store (w : Workspace) (name : String) (a : Automaton) : Workspace :=
  { w with automata := w.automata.update name fun _ => a }

/-- Uses up one token. -/
def take (w : Workspace) : Workspace := { w with created := w.created + 1 }

/-- Keeps a new automaton without states under a name. -/
def create (w : Workspace) (kind : AutomatonKind) (name : String) : Workspace :=
  w.take.store name (.new kind w.created)

/-- Keeps a sample under a name. -/
def load (w : Workspace) (sample : Sample) (name : String) : Workspace :=
  w.take.store name (sample.automaton w.created)

/-- Keeps nothing under a name any more. -/
def delete (w : Workspace) (name : String) : Workspace :=
  { w with automata := w.automata.filter fun e => e.1 != name }

/-- Keeps nothing any more. -/
def clear (w : Workspace) : Workspace := { w with automata := [] }

end Workspace

end FiniteAutomata

import FiniteAutomata.Drawing

namespace FiniteAutomata

/-!
# Pictures

A picture of an automaton is drawn by a separate program, which may be missing or fail.

* `Picture`: a request to that program.
* `Renderer`, `Renderer.outcome`: how the program fares, and what becomes of a request.
-/

/-- A request for a picture: the name of the file, and whether it is to be shown. -/
structure Picture where
  file : String
  view : Bool := false
deriving DecidableEq, Repr

/-- How the program that draws pictures fares. -/
inductive Renderer
  | works
  | missing
  | fails (status : Nat) (errors : String)
deriving DecidableEq, Repr

/-- What becomes of a request. -/
def Renderer.outcome : Renderer → Except Fault Unit
  | .works => .ok ()
  | .missing => .error .rendererMissing
  | .fails status errors => .error (.rendererFailed status errors)

end FiniteAutomata

import FiniteAutomata.Collection.Ledger
import FiniteAutomata.Fault

namespace FiniteAutomata

/-!
# Questions

A question is put to a thing, looks things up in it and is answered or refused. It passes the thing on
in whatever state it leaves it, answered or refused, so that nothing but a proof tells whether it was
changed. A table is looked into in one of two ways, and one of them makes an entry where there was none.

* `Asking`: a question in progress.
* `Asking.ask`: puts a question.
* `Asking.answer`: what it results in.
* `Asking.within`: a question to a part of a thing.
* `Ledger.look`, `Ledger.entries`: look into a table.
* `Ledger.demand`: looks into a table and makes the entry that was missing.
-/

/-- A question to a thing that results in something, unless it is refused. -/
abbrev Asking (σ α : Type) := ExceptT Fault (StateM σ) α

namespace Asking

variable {σ τ α : Type}

/-- Puts a question: what it results in, and the thing as the question leaves it. -/
def ask (q : Asking σ α) (s : σ) : Except Fault α × σ := (ExceptT.run q).run s

/-- What a question results in. -/
def answer (q : Asking σ α) (s : σ) : Except Fault α := (q.ask s).1

/-- Puts a question to a part of a thing, and puts the part back as the question leaves it. -/
def within (part : σ → τ) (put : σ → τ → σ) (q : Asking τ α) : Asking σ α := do
  let s ← get
  let (result, t) := q.ask (part s)
  set (put s t)
  result

end Asking

namespace Ledger

variable {κ α : Type} [BEq κ]

/-- Looks up what is kept under a key. -/
def look (key : κ) : Asking (Ledger κ α) (Option α) := return (← get).get? key

/-- Looks through all entries. -/
def entries : Asking (Ledger κ α) (Ledger κ α) := get

/-- Looks up what is kept under a key; where there is no entry one is made. -/
def demand (key : κ) (missing : α) : Asking (Ledger κ α) α := do
  modify (update key (·.getD missing))
  return ((← look key).getD missing)

end Ledger

end FiniteAutomata

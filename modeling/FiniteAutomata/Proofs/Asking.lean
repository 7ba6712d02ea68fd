import FiniteAutomata.Asking
import FiniteAutomata.Proofs.Outcome

namespace FiniteAutomata

/-!
# Questions that leave no trace

A question that only looks things up passes on what it was put to as it was, whether it is answered or
refused. Then the answer to several questions in a row is told by their answers alone.

* `Asking.Traceless`: the question leaves no trace.
* `Asking.Traceless.bind`, `Asking.Traceless.within`, `Asking.Traceless.mapM`: questions that are put
  together leave none.
* `Asking.Traceless.answer_bind` and the lemmas before it: their answers.
* `Ledger.traceless_look`, `Ledger.traceless_entries`: looking into a table leaves no trace.
* `Ledger.ask_demand`, `Ledger.keys_ask_demand`: asking for an entry that is missing leaves one.
-/

namespace Asking

variable {σ τ α β : Type}

/-- Whatever the question is put to is passed on as it was. -/
def Traceless (q : Asking σ α) : Prop := ∀ s, (q.ask s).2 = s

theorem Traceless.ask_eq {q : Asking σ α} (h : q.Traceless) (s : σ) : q.ask s = (q.answer s, s) :=
  Prod.ext rfl (h s)

/-! ### Single questions -/

theorem traceless_pure (a : α) : (pure a : Asking σ α).Traceless := fun _ => rfl

theorem traceless_throw (fault : Fault) : (throw fault : Asking σ α).Traceless := fun _ => rfl

theorem traceless_get : (get : Asking σ σ).Traceless := fun _ => rfl

theorem traceless_lift (x : Except Fault α) : (liftM x : Asking σ α).Traceless := fun _ => rfl

@[simp] theorem answer_pure (a : α) (s : σ) : (pure a : Asking σ α).answer s = .ok a := rfl

@[simp] theorem answer_throw (fault : Fault) (s : σ) :
    (throw fault : Asking σ α).answer s = .error fault := rfl

@[simp] theorem answer_get (s : σ) : (get : Asking σ σ).answer s = .ok s := rfl

@[simp] theorem answer_lift (x : Except Fault α) (s : σ) : (liftM x : Asking σ α).answer s = x := rfl

/-! ### Questions in a row -/

variable {q : Asking σ α} {k : α → Asking σ β}

/-- A question after another one is put to what that one left. -/
theorem ask_bind (q : Asking σ α) (k : α → Asking σ β) (s : σ) :
    (q >>= k).ask s = match q.ask s with
      | (.ok a, t) => (k a).ask t
      | (.error fault, t) => (.error fault, t) := by
  show (ExceptT.bindCont k (q.ask s).1).run (q.ask s).2 = _
  obtain ⟨result, t⟩ := q.ask s
  cases result <;> rfl

/-- A question after one that leaves no trace is put to the same thing. -/
theorem Traceless.ask_bind (h : q.Traceless) (k : α → Asking σ β) (s : σ) :
    (q >>= k).ask s = match q.answer s with
      | .ok a => (k a).ask s
      | .error fault => (.error fault, s) := by
  rw [Asking.ask_bind, h.ask_eq]
  cases q.answer s <;> rfl

theorem Traceless.bind (h : q.Traceless) (hk : ∀ a, (k a).Traceless) : (q >>= k).Traceless := by
  intro s
  rw [h.ask_bind]
  cases q.answer s with
  | ok a => exact hk a s
  | error fault => rfl

theorem Traceless.answer_bind (h : q.Traceless) (k : α → Asking σ β) (s : σ) :
    (q >>= k).answer s = q.answer s >>= fun a => (k a).answer s := by
  rw [answer, h.ask_bind]
  cases q.answer s <;> rfl

/-- What is made of the answer to one question, whether that leaves a trace or not. -/
theorem answer_bind_pure (q : Asking σ α) (f : α → β) (s : σ) :
    (q >>= fun a => pure (f a)).answer s = q.answer s >>= fun a => .ok (f a) := by
  rw [answer, answer, ask_bind]
  obtain ⟨_ | a, t⟩ := q.ask s <;> rfl

@[simp] theorem answer_get_bind (k : σ → Asking σ β) (s : σ) :
    (get >>= k).answer s = (k s).answer s := rfl

@[simp] theorem answer_lift_bind (x : Except Fault α) (k : α → Asking σ β) (s : σ) :
    ((liftM x : Asking σ α) >>= k).answer s = x >>= fun a => (k a).answer s :=
  (traceless_lift x).answer_bind k s

/-- The same question about every item of a list. -/
theorem Traceless.mapM {f : β → Asking σ α} (h : ∀ b, (f b).Traceless) (items : List β) :
    (items.mapM f).Traceless := by
  induction items with
  | nil => exact traceless_pure []
  | cons b rest ih =>
    rw [List.mapM_cons]
    exact (h b).bind fun a => ih.bind fun as => traceless_pure (a :: as)

theorem answer_mapM {f : β → Asking σ α} (h : ∀ b, (f b).Traceless) (items : List β) (s : σ) :
    (items.mapM f).answer s = items.mapM fun b => (f b).answer s := by
  induction items with
  | nil => rfl
  | cons b rest ih =>
    rw [List.mapM_cons, List.mapM_cons, (h b).answer_bind]
    simp only [(Traceless.mapM h rest).answer_bind, ih, answer_pure, pure_eq_ok]

/-! ### Questions to a part -/

variable {part : σ → τ} {put : σ → τ → σ} {p : Asking τ α}

theorem ask_within (part : σ → τ) (put : σ → τ → σ) (p : Asking τ α) (s : σ) :
    (within part put p).ask s = ((p.ask (part s)).1, put s (p.ask (part s)).2) := by
  show ((liftM (p.ask (part s)).1 : Asking σ α).ask (put s (p.ask (part s)).2)) = _
  cases (p.ask (part s)).1 <;> rfl

theorem Traceless.within (h : p.Traceless) (hput : ∀ s, put s (part s) = s) :
    (Asking.within part put p).Traceless := by
  intro s
  rw [ask_within, h, hput]

@[simp] theorem answer_within (s : σ) : (Asking.within part put p).answer s = p.answer (part s) := by
  rw [answer, ask_within]
  rfl

end Asking

/-! ### Tables -/

namespace Ledger

variable {κ α : Type}

theorem traceless_entries : (entries : Asking (Ledger κ α) (Ledger κ α)).Traceless := fun _ => rfl

@[simp] theorem answer_entries (l : Ledger κ α) : entries.answer l = .ok l := rfl

variable [BEq κ]

theorem traceless_look (key : κ) : (look key : Asking (Ledger κ α) (Option α)).Traceless :=
  fun _ => rfl

@[simp] theorem answer_look (key : κ) (l : Ledger κ α) : (look key).answer l = .ok (l.get? key) := rfl

theorem ask_demand [ReflBEq κ] (key : κ) (missing : α) (l : Ledger κ α) :
    (demand key missing).ask l = (.ok ((l.get? key).getD missing), l.update key (·.getD missing)) := by
  show (Except.ok (((l.update key (·.getD missing)).get? key).getD missing), _) = _
  rw [get?_update_self]
  rfl

/-- Asking for a missing entry leaves a trace: the key is listed behind all others from then on. -/
theorem keys_ask_demand [ReflBEq κ] {key : κ} {l : Ledger κ α} (h : l.get? key = none) (missing : α) :
    ((demand key missing).ask l).2.keys = l.keys ++ [key] := by
  rw [ask_demand, keys_update, h]
  rfl

end Ledger

end FiniteAutomata

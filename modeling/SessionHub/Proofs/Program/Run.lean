import SessionHub.Program

/-!
# Programs that are answered at once

Where whoever answers a program's questions does so without delay, nothing else happens between a
question and its answer, and a program comes to its end in one go. `Program.run` is that end: the
result, the state, and the state of the one who answered, for a server that has a state of its own.
-/

namespace SessionHub.Program

variable {σ τ Q α β : Type} {A : Q → Type}

/-- What a program comes to over a server that answers at once. -/
def run (serve : (q : Q) → τ → A q × τ) : Program σ Q A α → σ → τ → α × σ × τ
  | .done a, s, t => (a, s, t)
  | .look next, s, t => run serve (next s) s t
  | .put s' next, _, t => run serve next s' t
  | .call q resume, s, t => run serve (resume (serve q t).1) s (serve q t).2

variable {serve : (q : Q) → τ → A q × τ}

/-- One program, then another that starts where the first one ends. -/
theorem run_bind (p : Program σ Q A α) (f : α → Program σ Q A β) (s : σ) (t : τ) :
    (p >>= f).run serve s t
      = (f (p.run serve s t).1).run serve (p.run serve s t).2.1 (p.run serve s t).2.2 := by
  induction p generalizing s t with
  | done a => rfl
  | look next ih => exact ih s s t
  | put s' next ih => exact ih s' t
  | call q resume ih => exact ih (serve q t).1 s (serve q t).2

theorem run_bind_of_eq {p : Program σ Q A α} {s s' : σ} {t t' : τ} {a : α}
    (first : p.run serve s t = (a, s', t')) (f : α → Program σ Q A β) :
    (p >>= f).run serve s t = (f a).run serve s' t' := by
  rw [run_bind, first]

theorem run_discard (p : Program σ Q A α) (s : σ) (t : τ) :
    (Functor.discard p : Program σ Q A Unit).run serve s t
      = ((), (p.run serve s t).2.1, (p.run serve s t).2.2) :=
  run_bind p _ s t

@[simp] theorem run_pure (a : α) (s : σ) (t : τ) :
    (pure a : Program σ Q A α).run serve s t = (a, s, t) := rfl

@[simp] theorem run_get_bind (f : σ → Program σ Q A β) (s : σ) (t : τ) :
    (Program.get >>= f).run serve s t = (f s).run serve s t := rfl

@[simp] theorem run_view_bind (view : σ → α) (f : α → Program σ Q A β) (s : σ) (t : τ) :
    (Program.view view >>= f).run serve s t = (f (view s)).run serve s t := rfl

@[simp] theorem run_modify (change : σ → σ) (s : σ) (t : τ) :
    (Program.modify change : Program σ Q A Unit).run serve s t = ((), change s, t) := rfl

@[simp] theorem run_modify_bind (change : σ → σ) (f : Unit → Program σ Q A β) (s : σ) (t : τ) :
    (Program.modify change >>= f).run serve s t = (f ()).run serve (change s) t := rfl

@[simp] theorem run_update_bind (change : σ → α × σ) (f : α → Program σ Q A β) (s : σ) (t : τ) :
    (Program.update change >>= f).run serve s t
      = (f (change s).1).run serve (change s).2 t := rfl

end SessionHub.Program

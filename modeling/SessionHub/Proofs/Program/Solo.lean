import SessionHub.Proofs.Program.Conduct

/-!
# A program by itself

Where nothing else runs, what becomes of a program depends on two things only: what happens by itself
while it waits, and what it is answered. `Program.Ends` says with which result and in which state it may
end then. It is computed along the program, and `Program.ends_bind` takes it apart where programs are put
together. A program that is answered whatever it asks comes to an end (`Program.exists_ends`), so what
holds of all its ends holds of something.
-/

namespace SessionHub

/-- What surrounds a program that runs by itself. -/
structure Surroundings (σ Q : Type) (A : Q → Type) where
  /-- How the state may change by itself while a question waits. -/
  passes : σ → σ → Prop
  /-- What a question may be answered with, and the state in which it is. -/
  serves : (q : Q) → σ → A q → σ → Prop

namespace Program

variable {σ Q α β : Type} {A : Q → Type}

/-- **How a program may end** that starts from a state. -/
def Ends (X : Surroundings σ Q A) : Program σ Q A α → σ → α → σ → Prop
  | .done b, s, a, s' => a = b ∧ s' = s
  | .look next, s, a, s' => (next s).Ends X s a s'
  | .put t next, _, a, s' => next.Ends X t a s'
  | .call q resume, s, a, s' => ∃ t x u, X.passes s t ∧ X.serves q t x u ∧ (resume x).Ends X u a s'

variable {X : Surroundings σ Q A} {s s' : σ}

/-- One program, then another that starts where the first one ends. -/
theorem ends_bind {p : Program σ Q A α} {f : α → Program σ Q A β} {b : β} :
    (p >>= f).Ends X s b s' ↔ ∃ a t, p.Ends X s a t ∧ (f a).Ends X t b s' := by
  induction p generalizing s with
  | done a =>
    constructor
    · exact fun h => ⟨a, s, ⟨rfl, rfl⟩, h⟩
    · intro ended
      obtain ⟨_, _, ⟨rfl, rfl⟩, h⟩ := ended
      exact h
  | look next ih => exact ih s
  | put t next ih => exact ih
  | call q resume ih =>
    constructor
    · intro ended
      obtain ⟨t, x, u, passes, served, h⟩ := ended
      obtain ⟨a, v, first, rest⟩ := (ih x).mp h
      exact ⟨a, v, ⟨t, x, u, passes, served, first⟩, rest⟩
    · intro ended
      obtain ⟨a, v, ⟨t, x, u, passes, served, first⟩, rest⟩ := ended
      exact ⟨t, x, u, passes, served, (ih x).mpr ⟨a, v, first, rest⟩⟩

/-- A program all whose changes are of one kind has made such a change in the end, if whatever happens
while it waits is of that kind too. -/
theorem ChangesBy.of_ends {R : σ → σ → Prop} (refl : ∀ s, R s s)
    (trans : ∀ {s t u}, R s t → R t u → R s u)
    (waits : ∀ {q s t x u}, X.passes s t → X.serves q t x u → R s u) {p : Program σ Q A α} {a : α}
    (h : p.ChangesBy R s) (ended : p.Ends X s a s') : R s s' := by
  induction p generalizing s with
  | done a =>
    obtain ⟨_, rfl⟩ := ended
    exact refl s'
  | look next ih => exact ih s h ended
  | put t next ih =>
    obtain ⟨_, put, rest⟩ := h
    exact trans put (ih rest ended)
  | call q resume ih =>
    obtain ⟨_, _, rest⟩ := h
    obtain ⟨t, x, u, passes, served, later⟩ := ended
    exact trans (waits passes served) (ih x (rest x u trivial) later)

/-- **A program that is always answered comes to an end.** -/
theorem exists_ends (answered : ∀ q s, ∃ t x u, X.passes s t ∧ X.serves q t x u)
    (p : Program σ Q A α) (s : σ) : ∃ a s', p.Ends X s a s' := by
  induction p generalizing s with
  | done a => exact ⟨a, s, rfl, rfl⟩
  | look next ih => exact ih s s
  | put t next ih => exact ih t
  | call q resume ih =>
    obtain ⟨t, x, u, passes, served⟩ := answered q s
    obtain ⟨a, s', rest⟩ := ih x u
    exact ⟨a, s', t, x, u, passes, served, rest⟩

end Program

end SessionHub

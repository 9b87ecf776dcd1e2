import SessionHub.Proofs.Program.Pool

/-!
# One program at a time

Where programs never run side by side, nothing stands between the questions of one and their answers but
what surrounds it. Then there is a shorter way to what every run keeps than a discipline: an
**assertion** for each point where the program waits. Whatever happens meanwhile keeps it, the
invariant of the runs follows from it, and with any answer the program goes on from it to the next.

`Program.Assures` says so, along the tree of a program. The assertion at a point may be chosen in
knowledge of all answers so far, which is what a discipline cannot do. `System.holds_alone` draws the
invariant of the runs from it.
-/

namespace SessionHub

variable {σ Q α β δ ι : Type} {A : Q → Type}

/-- Whether an assertion is kept by everything that happens by itself. -/
def System.Keeps (X : System σ Q A α ι) (J : σ → Prop) : Prop := ∀ s s', J s → X.turns s s' → J s'

namespace Program

/-- **Whether a program keeps an invariant** wherever it waits, and ends well. -/
def Assures (X : System σ Q A α ι) (I : σ → Prop) (ending : β → σ → Prop) :
    Program σ Q A β → σ → Prop
  | .done a, s => ending a s
  | .look next, s => (next s).Assures X I ending s
  | .put s' next, _ => next.Assures X I ending s'
  | .call q resume, s =>
    ∃ J : σ → Prop, J s ∧ X.Keeps J ∧ (∀ s, J s → I s) ∧
      ∀ s a s', J s → X.serves q s a s' → (resume a).Assures X I ending s'

variable {X : System σ Q A α ι} {I : σ → Prop}

theorem assures_bind {ending : δ → σ → Prop} {f : β → Program σ Q A δ} (p : Program σ Q A β) (s : σ) :
    (p >>= f).Assures X I ending s ↔ p.Assures X I (fun a s => (f a).Assures X I ending s) s := by
  induction p generalizing s with
  | done a => exact Iff.rfl
  | look next ih => exact ih s s
  | put s' next ih => exact ih s'
  | call q resume ih =>
    refine exists_congr fun J => and_congr_right fun _ => and_congr_right fun _ =>
      and_congr_right fun _ => forall_congr' fun s => forall_congr' fun a => forall_congr' fun s' =>
        imp_congr_right fun _ => imp_congr_right fun _ => ih a s'

theorem Assures.mono {ending ending' : β → σ → Prop} {p : Program σ Q A β} {s : σ}
    (h : p.Assures X I ending s) (weaker : ∀ a s, ending a s → ending' a s) :
    p.Assures X I ending' s := by
  induction p generalizing s with
  | done a => exact weaker a s h
  | look next ih => exact ih s h
  | put s' next ih => exact ih h
  | call q resume ih =>
    obtain ⟨J, here, kept, invariant, rest⟩ := h
    exact ⟨J, here, kept, invariant, fun s a s' hJ served => ih a (rest s a s' hJ served)⟩

end Program

namespace System

variable {X : System σ Q A α ι} {I : σ → Prop}

/-- What holds of a pool in which at most one program is under way. -/
def HoldsAlone (X : System σ Q A α ι) (I : σ → Prop) (p : Pool σ Q A α ι) : Prop :=
  I p.state ∧ (p.strands = [] ∨ ∃ f, p.strands = [f] ∧ ∃ J : σ → Prop, J p.state ∧ X.Keeps J ∧
    (∀ s, J s → I s) ∧ ∀ s a s', J s → X.serves f.question s a s' →
      (f.resume a).Assures X I (fun _ s => I s) s')

theorem holdsAlone_go {c : ι} (prog : Program σ Q A α) {p : Pool σ Q A α ι} (none : p.strands = [])
    (assures : prog.Assures X I (fun _ s => I s) p.state) : X.HoldsAlone I (p.go c prog) := by
  induction prog generalizing p with
  | done a => exact ⟨assures, .inl none⟩
  | look next ih => exact ih p.state none assures
  | put s' next ih => exact ih (p := p.turn s') none assures
  | call q resume ih =>
    obtain ⟨J, here, kept, invariant, rest⟩ := assures
    refine ⟨invariant _ here, .inr ⟨⟨c, q, resume⟩, ?_, J, here, kept, invariant, rest⟩⟩
    show p.strands ++ [_] = [_]
    rw [none]
    rfl

/-- Of one strand only that one can go on. -/
theorem only_of_split {f g : Strand σ Q A α ι} {l₁ l₂ : List (Strand σ Q A α ι)}
    (split : [g] = l₁ ++ f :: l₂) : l₁ = [] ∧ f = g ∧ l₂ = [] := by
  cases l₁ with
  | nil =>
    obtain ⟨rfl, rfl⟩ := List.cons.inj split
    exact ⟨rfl, rfl, rfl⟩
  | cons first rest => simp at split

/-- **What every program keeps, run by run, holds of every pool**, if one is called only when none
is under way. -/
theorem holds_alone (alone : ∀ {c s h under}, X.admits c s h under → under = [])
    (kept : X.Keeps I)
    (each : ∀ {c s h under}, I s → X.admits c s h under →
      (X.program c).Assures X I (fun _ s => I s) s)
    {start : σ} (first : I start) {p : Pool σ Q A α ι} (run : X.Reaches start p) :
    I p.state := by
  suffices holds : X.HoldsAlone I p from holds.1
  induction run with
  | init => exact ⟨first, .inl rfl⟩
  | @step p p' _ next ih =>
    obtain ⟨invariant, strands⟩ := ih
    cases next with
    | call admitted =>
      have none : p.strands = [] := List.map_eq_nil_iff.mp (alone admitted)
      exact holdsAlone_go (p := p.note _) _ none (each invariant admitted)
    | @answer l₁ l₂ f a s split served =>
      obtain none | ⟨g, one, J, here, _, _, rest⟩ := strands
      · rw [none] at split
        exact absurd split (by simp)
      · obtain ⟨rfl, rfl, rfl⟩ := only_of_split (one ▸ split)
        exact holdsAlone_go (p := (⟨s, [], p.gone, p.notes⟩ : Pool σ Q A α ι).note _) _ rfl
          (rest p.state a s here served)
    | @drop l₁ l₂ f split _ =>
      obtain none | ⟨g, one, _⟩ := strands
      · rw [none] at split
        exact absurd split (by simp)
      · obtain ⟨rfl, _, rfl⟩ := only_of_split (one ▸ split)
        exact ⟨invariant, .inl rfl⟩
    | @turn s turned =>
      refine ⟨kept _ _ invariant turned, strands.imp id fun waiting => ?_⟩
      obtain ⟨f, one, J, here, keptJ, rest⟩ := waiting
      exact ⟨f, one, J, keptJ _ _ here turned, keptJ, rest⟩

end System

end SessionHub

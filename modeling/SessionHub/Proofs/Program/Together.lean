import SessionHub.Proofs.Program.Pool

/-!
# Programs that run to their ends

Several programs are called side by side, each of them brings something about, and in the end none is
under way. What has come of it is told in two parts. All that happens is **of one kind**, whoever does
it; and what a program has brought about *stays* under changes of that kind. A `Pact` are the two. Under
a pact each program may be looked at by itself, with changes of the kind going on wherever it waits: that
is `Pact.Attains`. By `Pact.attained` whatever the programs bring about has then been brought about
together.

A pool is **finished** when everything has been called and nothing waits. Where each program is called
once and every question is answered, some run comes to that (`System.exists_finished`).
-/

namespace SessionHub

variable {σ Q α β ι : Type} {A : Q → Type}

/-- **A pact**: the kind of all changes, and what each program brings about. -/
structure Pact (X : System σ Q A α ι) where
  changes : σ → σ → Prop
  brought : ι → σ → Prop
  refl (s : σ) : changes s s
  trans {s t u : σ} : changes s t → changes t u → changes s u
  stays {c : ι} {s t : σ} : brought c s → changes s t → brought c t
  turns {s t : σ} : X.turns s t → changes s t
  /-- No program is dropped before it has brought about what it is to. -/
  kept (c : ι) : ¬ X.mayDrop c

namespace Pact

variable {X : System σ Q A α ι} (P : Pact X)

/-- **A program keeps to the pact and brings about** what it is to, whatever changes are made while it
waits. -/
def Attains (c : ι) : Program σ Q A β → σ → Prop
  | .done _, s => P.brought c s
  | .look next, s => Attains c (next s) s
  | .put s' next, s => P.changes s s' ∧ Attains c next s'
  | .call q resume, s =>
    ∀ t a u, P.changes s t → X.serves q t a u → P.changes t u ∧ Attains c (resume a) u

/-- Wherever a strand waits, it keeps to the pact from there. -/
def Awaits (f : Strand σ Q A α ι) (s : σ) : Prop :=
  ∀ t a u, P.changes s t → X.serves f.question t a u →
    P.changes t u ∧ P.Attains f.call (f.resume a) u

/-- What holds of the pools of a run: whoever was called is excepted, has brought about what it was to,
or waits. -/
structure Holds (start : σ) (but : ι → Prop) (p : Pool σ Q A α ι) : Prop where
  since : P.changes start p.state
  waits : ∀ f ∈ p.strands, P.Awaits f p.state
  called : ∀ c, .called c ∈ p.notes → but c ∨ P.brought c p.state ∨ ∃ f ∈ p.strands, f.call = c

variable {P} {start : σ} {but : ι → Prop} {p : Pool σ Q A α ι}

/-- A change of the kind breaks nothing. -/
theorem Holds.turn {s : σ} (h : P.Holds start but p) (change : P.changes p.state s) :
    P.Holds start but (p.turn s) where
  since := P.trans h.since change
  waits f hf t a u later := h.waits f hf t a u (P.trans change later)
  called c noted := by
    have before : (.called c : Note σ Q α ι) ∈ p.notes := by
      simpa [Pool.turn] using noted
    exact (h.called c before).imp_right (Or.imp_left fun brought => P.stays brought change)

/-- A program that goes on to its next question, or to its end, is not excepted any more. -/
theorem Holds.go {c : ι} (prog : Program σ Q A α) {p : Pool σ Q A α ι} (h : P.Holds start (· = c) p)
    (attains : P.Attains c prog p.state) : P.Holds start (fun _ => False) (p.go c prog) := by
  induction prog generalizing p with
  | done a =>
    refine ⟨h.since, h.waits, fun c' noted => .inr ?_⟩
    have before : (.called c' : Note σ Q α ι) ∈ p.notes := by
      simpa [Pool.go, Pool.note] using noted
    rcases h.called c' before with rfl | rest
    · exact .inl attains
    · exact rest
  | look next ih => exact ih p.state h attains
  | put s next ih => exact ih (h.turn attains.1) attains.2
  | call q resume ih =>
    refine ⟨h.since, fun f hf => ?_, fun c' noted => .inr ?_⟩
    · rcases List.mem_append.mp hf with hf | hf
      · exact h.waits f hf
      · obtain rfl := List.mem_singleton.mp hf
        exact attains
    · have before : (.called c' : Note σ Q α ι) ∈ p.notes := by
        simpa [Pool.go, Pool.note] using noted
      rcases h.called c' before with rfl | brought | ⟨f, hf, same⟩
      · exact .inr ⟨_, List.mem_append_right _ (List.mem_singleton_self _), rfl⟩
      · exact .inl brought
      · exact .inr ⟨f, List.mem_append_left _ hf, same⟩

/-- Something is called. -/
theorem Holds.call {c : ι} (h : P.Holds start (fun _ => False) p)
    (attains : P.Attains c (X.program c) p.state) :
    P.Holds start (fun _ => False) (p.call X c) := by
  refine Holds.go (p := p.note (.called c)) _ ⟨h.since, h.waits, fun c' noted => ?_⟩ attains
  rcases List.mem_append.mp noted with noted | noted
  · exact (h.called c' noted).imp_left False.elim
  · exact .inl (by simpa using noted)

/-- A strand is answered. -/
theorem Holds.answer {l₁ l₂ : List (Strand σ Q A α ι)} {f : Strand σ Q A α ι} {a : A f.question}
    {s : σ} (h : P.Holds start (fun _ => False) p) (split : p.strands = l₁ ++ f :: l₂)
    (served : X.serves f.question p.state a s) :
    P.Holds start (fun _ => False)
      ((({ p with state := s, strands := l₁ ++ l₂ } : Pool σ Q A α ι).note
        (.answered f.call f.question)).go f.call (f.resume a)) := by
  obtain ⟨change, attains⟩ := h.waits f (by simp [split]) p.state a s (P.refl _) served
  have others : ∀ g ∈ l₁ ++ l₂, g ∈ p.strands := by
    intro g hg
    rw [split]
    rcases List.mem_append.mp hg with hg | hg
    · exact List.mem_append_left _ hg
    · exact List.mem_append_right _ (List.mem_cons_of_mem _ hg)
  refine Holds.go _ ⟨P.trans h.since change, ?_, fun c noted => ?_⟩ attains
  · intro g hg t b u later
    exact h.waits g (others g hg) t b u (P.trans change later)
  · have before : (.called c : Note σ Q α ι) ∈ p.notes := by
      simpa [Pool.note] using noted
    rcases h.called c before with excepted | brought | ⟨g, hg, rfl⟩
    · exact excepted.elim
    · exact .inr (.inl (P.stays brought change))
    · rw [split] at hg
      rcases List.mem_append.mp hg with hg | hg
      · exact .inr (.inr ⟨g, List.mem_append_left _ hg, rfl⟩)
      · rcases List.mem_cons.mp hg with rfl | hg
        · exact .inl rfl
        · exact .inr (.inr ⟨g, List.mem_append_right _ hg, rfl⟩)

/-- **What programs bring about side by side**: if each keeps to the pact, then in every run whoever was
called has brought about what it was to, or waits. -/
theorem attained (each : ∀ c s, P.changes start s → P.Attains c (X.program c) s)
    (run : X.Reaches start p) : P.Holds start (fun _ => False) p := by
  induction run with
  | init => exact ⟨P.refl start, by simp, by simp⟩
  | step before next ih =>
    cases next with
    | call admitted => exact ih.call (each _ _ ih.since)
    | answer split served => exact ih.answer split served
    | drop split droppable => exact absurd droppable (P.kept _)
    | turn turned => exact ih.turn (P.turns turned)

end Pact

/-- Everything has been called, and nothing waits. -/
structure Pool.Finished (p : Pool σ Q A α ι) : Prop where
  idle : p.strands = []
  called : ∀ c, .called c ∈ p.notes

namespace System

variable {X : System σ Q A α ι} {start : σ}

/-- A program that is answered whatever it asks can go on to its end, with nothing else called. -/
theorem Reaches.finish (answered : ∀ q s, ∃ a s', X.serves q s a s') {c : ι} (prog : Program σ Q A α)
    {p : Pool σ Q A α ι} (idle : p.strands = []) (run : X.Reaches start (p.go c prog)) :
    ∃ p', X.Reaches start p' ∧ p'.strands = [] ∧
      ∀ c', .called c' ∈ p'.notes ↔ .called c' ∈ p.notes := by
  induction prog generalizing p with
  | done a => exact ⟨_, run, idle, by simp [Pool.go, Pool.note]⟩
  | look next ih => exact ih p.state idle run
  | put s next ih =>
    obtain ⟨p', run', idle', called⟩ := ih (p := p.turn s) idle run
    refine ⟨p', run', idle', fun c' => (called c').trans ?_⟩
    simp [Pool.turn]
  | call q resume ih =>
    obtain ⟨a, s, served⟩ := answered q p.state
    have only : (p.go c (.call q resume)).strands = [] ++ ⟨c, q, resume⟩ :: [] := by
      rw [Pool.go, idle]
    obtain ⟨p', run', idle', called⟩ := ih a rfl (run.step (.answer only served))
    refine ⟨p', run', idle', fun c' => (called c').trans ?_⟩
    simp [Pool.note, Pool.go]

/-- **Some run finishes**, if everything may be called once and is answered whatever it asks. -/
theorem exists_finished (answered : ∀ q s, ∃ a s', X.serves q s a s')
    (once : ∀ {c s h under}, .called c ∉ h → X.admits c s h under) (all : List ι)
    (every : ∀ c, c ∈ all) (start : σ) : ∃ p, X.Reaches start p ∧ p.Finished := by
  have some' : ∀ calls : List ι, ∃ p, X.Reaches start p ∧ p.strands = [] ∧
      ∀ c ∈ calls, .called c ∈ p.notes := by
    intro calls
    induction calls with
    | nil => exact ⟨_, .init, rfl, by simp⟩
    | cons c rest ih =>
      obtain ⟨p, run, idle, called⟩ := ih
      by_cases again : .called c ∈ p.notes
      · exact ⟨p, run, idle, List.forall_mem_cons.mpr ⟨again, called⟩⟩
      · obtain ⟨p', run', idle', called'⟩ := Reaches.finish answered (X.program c)
          (p := p.note (.called c)) idle (run.call (once again))
        refine ⟨p', run', idle', List.forall_mem_cons.mpr ⟨?_, fun c' hc' => ?_⟩⟩
        · exact (called' c).mpr (List.mem_append_right _ (List.mem_singleton_self _))
        · exact (called' c').mpr (List.mem_append_left _ (called c' hc'))
  obtain ⟨p, run, idle, called⟩ := some' all
  exact ⟨p, run, idle, fun c => called c (every c)⟩

end System

end SessionHub

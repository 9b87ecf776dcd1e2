import SessionHub.Program

/-!
# What programs owe each other

Programs that run side by side over one state can be told apart from outside by two things only:
the states that they put in place, and the questions that they ask. A **conduct** says of both which
are allowed. What is allowed may depend on where a program *stands*, a mark that is no part of the
state and that no program can see; with every state that it puts in place and every question that it
asks a program moves on to another stand. In return a program may count on something when it is
answered, however the state has changed meanwhile.

`Program.Heeds` says that a program keeps to a conduct, whatever it is answered. It is computed along
the program, and `heeds_bind` takes it apart where programs are put together, so that the conduct of
each function is proved once and cited by its callers.
-/

namespace SessionHub

/-- A conduct of programs over a state that ask questions. -/
structure Conduct (σ Q γ : Type) where
  /-- What a program that waits on a stand finds when it is answered. -/
  finds : γ → σ → Prop
  /-- What it may put in place of a state, and where it stands then. -/
  puts : γ → σ → σ → γ → Prop
  /-- What it may ask, and where it stands while it waits. -/
  asks : γ → σ → Q → γ → Prop

/-- The conduct of programs all whose changes are of one kind. They may ask anything. -/
def Conduct.within {σ Q : Type} (R : σ → σ → Prop) : Conduct σ Q Unit where
  finds _ _ := True
  puts _ s s' _ := R s s'
  asks _ _ _ _ := True

namespace Program

variable {σ Q γ : Type} {A : Q → Type} {α β : Type}

/-- **A program keeps to a conduct** from a stand and a state on, and comes to its end only as the
last condition allows. -/
def Heeds (C : Conduct σ Q γ) (ending : γ → σ → α → Prop) : Program σ Q A α → γ → σ → Prop
  | .done a, g, s => ending g s a
  | .look next, g, s => (next s).Heeds C ending g s
  | .put s' next, g, s => ∃ g', C.puts g s s' g' ∧ next.Heeds C ending g' s'
  | .call q resume, g, s =>
    ∃ g', C.asks g s q g' ∧ ∀ a s', C.finds g' s' → (resume a).Heeds C ending g' s'

variable {C : Conduct σ Q γ} {ending : γ → σ → α → Prop}

/-- Of two programs one after the other, the second starts from wherever the first may end. -/
theorem heeds_bind {ending : γ → σ → β → Prop} {f : α → Program σ Q A β} (p : Program σ Q A α)
    (g : γ) (s : σ) :
    (p >>= f).Heeds C ending g s ↔ p.Heeds C (fun g s a => (f a).Heeds C ending g s) g s := by
  induction p generalizing g s with
  | done a => exact Iff.rfl
  | look next ih => exact ih s g s
  | put s' next ih =>
    exact exists_congr fun g' => and_congr_right fun _ => ih g' s'
  | call q resume ih =>
    exact exists_congr fun g' => and_congr_right fun _ =>
      forall_congr' fun a => forall_congr' fun s' => imp_congr_right fun _ => ih a g' s'

/-- What a program may end with can be weakened. -/
theorem Heeds.mono {ending' : γ → σ → α → Prop} {p : Program σ Q A α} {g : γ} {s : σ}
    (h : p.Heeds C ending g s) (weaker : ∀ g s a, ending g s a → ending' g s a) :
    p.Heeds C ending' g s := by
  induction p generalizing g s with
  | done a => exact weaker g s a h
  | look next ih => exact ih s h
  | put s' next ih =>
    obtain ⟨g', put, rest⟩ := h
    exact ⟨g', put, ih rest⟩
  | call q resume ih =>
    obtain ⟨g', ask, rest⟩ := h
    exact ⟨g', ask, fun a s' found => ih a (rest a s' found)⟩

/-- A program and what follows it, each by its own. -/
theorem Heeds.bind {mid : γ → σ → α → Prop} {ending : γ → σ → β → Prop}
    {p : Program σ Q A α} {f : α → Program σ Q A β} {g : γ} {s : σ} (h : p.Heeds C mid g s)
    (next : ∀ g s a, mid g s a → (f a).Heeds C ending g s) : (p >>= f).Heeds C ending g s :=
  (heeds_bind p g s).mpr (h.mono next)

/-- A program whose result nobody asks for. -/
theorem Heeds.discard {mid : γ → σ → α → Prop} {ending : γ → σ → Unit → Prop}
    {p : Program σ Q A α} {g : γ} {s : σ} (h : p.Heeds C mid g s)
    (next : ∀ g s a, mid g s a → ending g s ()) :
    (Functor.discard p : Program σ Q A Unit).Heeds C ending g s :=
  h.bind next

/-- A program whose result nobody asks for, and what follows it. -/
theorem Heeds.discard_bind {mid : γ → σ → α → Prop} {ending : γ → σ → β → Prop}
    {p : Program σ Q A α} {f : Unit → Program σ Q A β} {g : γ} {s : σ} (h : p.Heeds C mid g s)
    (next : ∀ g s a, mid g s a → (f ()).Heeds C ending g s) :
    ((Functor.discard p : Program σ Q A Unit) >>= f).Heeds C ending g s :=
  (heeds_bind _ g s).mpr (h.discard next)

@[simp] theorem heeds_pure (a : α) (g : γ) (s : σ) :
    (pure a : Program σ Q A α).Heeds C ending g s ↔ ending g s a := Iff.rfl

@[simp] theorem heeds_get_bind {ending : γ → σ → β → Prop} (f : σ → Program σ Q A β) (g : γ) (s : σ) :
    (Program.get >>= f).Heeds C ending g s ↔ (f s).Heeds C ending g s := Iff.rfl

@[simp] theorem heeds_view_bind {ending : γ → σ → β → Prop} (view : σ → α) (f : α → Program σ Q A β)
    (g : γ) (s : σ) :
    (Program.view view >>= f).Heeds C ending g s ↔ (f (view s)).Heeds C ending g s := Iff.rfl

@[simp] theorem heeds_modify (change : σ → σ) (ending : γ → σ → Unit → Prop) (g : γ) (s : σ) :
    (Program.modify change : Program σ Q A Unit).Heeds C ending g s ↔
      ∃ g', C.puts g s (change s) g' ∧ ending g' (change s) () := Iff.rfl

@[simp] theorem heeds_modify_bind {ending : γ → σ → β → Prop} (change : σ → σ)
    (f : Unit → Program σ Q A β) (g : γ) (s : σ) :
    (Program.modify change >>= f).Heeds C ending g s ↔
      ∃ g', C.puts g s (change s) g' ∧ (f ()).Heeds C ending g' (change s) := Iff.rfl

@[simp] theorem heeds_update_bind {ending : γ → σ → β → Prop} (change : σ → α × σ)
    (f : α → Program σ Q A β) (g : γ) (s : σ) :
    (Program.update change >>= f).Heeds C ending g s ↔
      ∃ g', C.puts g s (change s).2 g' ∧ (f (change s).1).Heeds C ending g' (change s).2 := Iff.rfl

/-! ## What may be asked -/

/-- Whether a program may come to ask a question: for some answers, and for some states that it finds
when it is answered. -/
def MayAsk (finds : σ → Prop) (asked : Q) : Program σ Q A α → σ → Prop
  | .done _, _ => False
  | .look next, s => (next s).MayAsk finds asked s
  | .put s' next, _ => next.MayAsk finds asked s'
  | .call q resume, _ => q = asked ∨ ∃ a s', finds s' ∧ (resume a).MayAsk finds asked s'

/-- **What may be asked is allowed by the conduct.** -/
theorem Heeds.of_mayAsk {p : Program σ Q A α} {finds : σ → Prop} {asked : Q} {g : γ} {s : σ}
    (h : p.Heeds C ending g s) (found : ∀ g s, finds s → C.finds g s) (may : p.MayAsk finds asked s) :
    ∃ g s g', C.asks g s asked g' := by
  induction p generalizing g s with
  | done a => exact may.elim
  | look next ih => exact ih s h may
  | put s' next ih =>
    obtain ⟨g', _, rest⟩ := h
    exact ih rest may
  | call q resume ih =>
    obtain ⟨g', ask, rest⟩ := h
    rcases may with rfl | ⟨a, s', here, later⟩
    · exact ⟨g, s, g', ask⟩
    · exact ih a (rest a s' (found g' s' here)) later

/-! ## Changes of one kind -/

/-- **Every change that a program makes is of one kind**, if it starts from this state. -/
def ChangesBy (R : σ → σ → Prop) (p : Program σ Q A α) (s : σ) : Prop :=
  p.Heeds (Conduct.within R) (fun _ _ _ => True) () s

section ChangesBy

variable {R : σ → σ → Prop}

theorem ChangesBy.bind {p : Program σ Q A α} {f : α → Program σ Q A β} {s : σ}
    (h : p.ChangesBy R s) (next : ∀ a s, (f a).ChangesBy R s) : (p >>= f).ChangesBy R s :=
  Heeds.bind h fun _ s a _ => next a s

theorem ChangesBy.discard {p : Program σ Q A α} {s : σ} (h : p.ChangesBy R s) :
    (Functor.discard p : Program σ Q A Unit).ChangesBy R s :=
  Heeds.discard h fun _ _ _ _ => trivial

theorem ChangesBy.mono {R' : σ → σ → Prop} (weaker : ∀ s s', R s s' → R' s s')
    {p : Program σ Q A α} {s : σ} (h : p.ChangesBy R s) : p.ChangesBy R' s := by
  induction p generalizing s with
  | done a => exact trivial
  | look next ih => exact ih s h
  | put s' next ih =>
    obtain ⟨_, put, rest⟩ := h
    exact ⟨(), weaker _ _ put, ih rest⟩
  | call q resume ih =>
    obtain ⟨_, _, rest⟩ := h
    exact ⟨(), trivial, fun a s' _ => ih a (rest a s' trivial)⟩

@[simp] theorem changesBy_pure (a : α) (s : σ) : (pure a : Program σ Q A α).ChangesBy R s := trivial

@[simp] theorem changesBy_get_bind (f : σ → Program σ Q A β) (s : σ) :
    (Program.get >>= f).ChangesBy R s ↔ (f s).ChangesBy R s := Iff.rfl

@[simp] theorem changesBy_view_bind (view : σ → α) (f : α → Program σ Q A β) (s : σ) :
    (Program.view view >>= f).ChangesBy R s ↔ (f (view s)).ChangesBy R s := Iff.rfl

theorem changesBy_modify {change : σ → σ} {s : σ} (h : R s (change s)) :
    (Program.modify change : Program σ Q A Unit).ChangesBy R s := ⟨(), h, trivial⟩

theorem changesBy_modify_bind {change : σ → σ} {f : Unit → Program σ Q A β} {s : σ}
    (h : R s (change s)) (next : (f ()).ChangesBy R (change s)) :
    (Program.modify change >>= f).ChangesBy R s := ⟨(), h, next⟩

theorem changesBy_update_bind {change : σ → α × σ} {f : α → Program σ Q A β} {s : σ}
    (h : R s (change s).2) (next : (f (change s).1).ChangesBy R (change s).2) :
    (Program.update change >>= f).ChangesBy R s := ⟨(), h, next⟩

/-- What is asked for nothing but its answer. -/
theorem changesBy_call {q : Q} {resume : A q → Program σ Q A α} {s : σ}
    (next : ∀ a s', (resume a).ChangesBy R s') : (Program.call q resume).ChangesBy R s :=
  ⟨(), trivial, fun a s' _ => next a s'⟩

variable {R' : Type} {B : R' → Type}

/-- Where more may be asked, a program makes the same changes under a conduct that allows them, if
it allows what the program asks. What holds before it and is kept by its changes holds after it. -/
theorem ChangesBy.heeds_among {C : Conduct σ R' γ} {question : Q → R'}
    {back : (q : Q) → B (question q) → A q} {g : γ} {I : σ → Prop}
    (puts : ∀ s s', I s → R s s' → C.puts g s s' g ∧ I s')
    (asks : ∀ s q, I s → C.asks g s (question q) g) (finds : ∀ s, C.finds g s → I s)
    {p : Program σ Q A α} {s : σ} (h : p.ChangesBy R s) (before : I s) :
    (p.among question back).Heeds C (fun g' s' _ => g' = g ∧ I s') g s := by
  induction p generalizing s with
  | done a => exact ⟨rfl, before⟩
  | look next ih => exact ih s h before
  | put s' next ih =>
    obtain ⟨_, put, rest⟩ := h
    obtain ⟨allowed, after⟩ := puts _ _ before put
    exact ⟨g, allowed, ih rest after⟩
  | call q resume ih =>
    obtain ⟨_, _, rest⟩ := h
    exact ⟨g, asks s q before, fun b s' found => ih (back q b) (rest _ s' trivial) (finds s' found)⟩

/-- Where more may be asked, a program makes the same changes. -/
theorem ChangesBy.among {question : Q → R'} {back : (q : Q) → B (question q) → A q}
    {p : Program σ Q A α} {s : σ} (h : p.ChangesBy R s) : (p.among question back).ChangesBy R s :=
  (h.heeds_among (C := .within R) (I := fun _ => True) (g := ())
    (fun _ _ _ change => ⟨change, trivial⟩) (fun _ _ _ => trivial) (fun _ _ => trivial) trivial).mono
      fun _ _ _ _ => trivial

end ChangesBy

/-- One program after another, where more may be asked. -/
theorem among_bind {R : Type} {B : R → Type} {question : Q → R}
    {back : (q : Q) → B (question q) → A q} (p : Program σ Q A α) (f : α → Program σ Q A β) :
    (p >>= f).among question back
      = p.among question back >>= fun a => (f a).among question back := by
  induction p with
  | done a => rfl
  | look next ih => exact congrArg Program.look (funext ih)
  | put s' next ih => exact congrArg (Program.put s') ih
  | call q resume ih => exact congrArg (Program.call (question q)) (funext fun b => ih (back q b))

theorem bind_assoc {δ : Type} (p : Program σ Q A α) (f : α → Program σ Q A β)
    (f' : β → Program σ Q A δ) : (p.bind f).bind f' = p.bind fun a => (f a).bind f' := by
  induction p with
  | done a => rfl
  | look next ih => exact congrArg Program.look (funext ih)
  | put s' next ih => exact congrArg (Program.put s') ih
  | call q resume ih => exact congrArg (Program.call q) (funext ih)

theorem bind_done (p : Program σ Q A α) : p.bind .done = p := by
  induction p with
  | done a => rfl
  | look next ih => exact congrArg Program.look (funext ih)
  | put s' next ih => exact congrArg (Program.put s') ih
  | call q resume ih => exact congrArg (Program.call q) (funext ih)

/-- One program after another, over a larger state. -/
theorem embed_bind {τ R : Type} {B : R → Type} {part : τ → σ} {replace : σ → τ → τ}
    {answer : (q : Q) → Program τ R B (A q)} (p : Program σ Q A α) (f : α → Program σ Q A β) :
    (p >>= f).embed part replace answer
      = p.embed part replace answer >>= fun a => (f a).embed part replace answer := by
  induction p with
  | done a => rfl
  | look next ih => exact congrArg Program.look (funext fun t => ih (part t))
  | put s next ih => exact congrArg Program.look (funext fun t => congrArg (Program.put _) ih)
  | call q resume ih =>
    refine Eq.trans ?_ (bind_assoc (answer q) _ _).symm
    exact congrArg (answer q).bind (funext ih)

end Program

/-! ## A part of a larger state -/

/-- A conduct over one part of a larger state. -/
def Conduct.embed {σ τ Q γ : Type} (part : τ → σ) (replace : σ → τ → τ) (C : Conduct σ Q γ) :
    Conduct τ Q γ where
  finds g t := C.finds g (part t)
  puts g t t' g' := ∃ s, t' = replace s t ∧ C.puts g (part t) s g'
  asks g t q g' := C.asks g (part t) q g'

/-- A program keeps to its conduct where its state is a part of a larger one. -/
theorem Program.Heeds.embed {σ τ Q γ α : Type} {A : Q → Type} {C : Conduct σ Q γ} {part : τ → σ}
    {replace : σ → τ → τ} (replaced : ∀ s t, part (replace s t) = s) {ending : γ → σ → α → Prop}
    {p : Program σ Q A α} {g : γ} {t : τ} (h : p.Heeds C ending g (part t)) :
    (p.embed part replace Program.ask).Heeds (C.embed part replace)
      (fun g t a => ending g (part t) a) g t := by
  induction p generalizing g t with
  | done a => exact h
  | look next ih => exact ih (part t) h
  | put s next ih =>
    obtain ⟨g', put, rest⟩ := h
    rw [← replaced s t] at rest
    exact ⟨g', ⟨s, rfl, put⟩, ih rest⟩
  | call q resume ih =>
    obtain ⟨g', ask, rest⟩ := h
    exact ⟨g', ask, fun a t' found => ih a (rest a (part t') found)⟩

end SessionHub

import Mathlib.Data.List.Forall2
import Mathlib.Logic.Relation
import SessionHub.Proofs.Program.Conduct

/-!
# Programs side by side

A **pool** holds one state and the programs that are under way over it, each as a *strand* that waits
for the answer to a question. One strand at a time goes on, from its question to its next one; which
one, and with which answer, is left open. Between two stretches a new program may be called, a strand
may be dropped where it waits, and the state may take a turn of its own. So the runs of a pool are
all the interleavings of its programs.

Everything that can be observed of a run is kept as `Note`s, the earliest first: what was called,
what each stretch put in place, what was asked and answered, and what was returned.

A `System` says which programs there are and what surrounds them. A `Discipline` for a system is a
conduct that its programs heed and an invariant of its pools; `Discipline.sound` is the one
induction over runs from which the theorems about interleavings are drawn.
-/

namespace SessionHub

variable {σ Q α ι : Type} {A : Q → Type}

/-- A program that was called and waits for an answer. -/
structure Strand (σ Q : Type) (A : Q → Type) (α ι : Type) where
  call : ι
  question : Q
  resume : A question → Program σ Q A α

/-- What can be observed of a run. -/
inductive Note (σ Q α ι : Type) where
  | called (call : ι)
  /-- A state was put in place of another. -/
  | changed (before after : σ)
  | asked (call : ι) (question : Q)
  | answered (call : ι) (question : Q)
  /-- A strand was dropped while it waited for an answer. -/
  | dropped (call : ι) (question : Q)
  | returned (call : ι) (result : α)
  deriving DecidableEq

/-- A state, the strands over it, those that were dropped, and what was observed so far. -/
structure Pool (σ Q : Type) (A : Q → Type) (α ι : Type) where
  state : σ
  strands : List (Strand σ Q A α ι) := []
  gone : List (Strand σ Q A α ι) := []
  notes : List (Note σ Q α ι) := []

namespace Pool

/-- Notes an observation. -/
def note (n : Note σ Q α ι) (p : Pool σ Q A α ι) : Pool σ Q A α ι := { p with notes := p.notes ++ [n] }

/-- Puts a state in place. -/
def turn (s : σ) (p : Pool σ Q A α ι) : Pool σ Q A α ι :=
  { p with state := s, notes := p.notes ++ [.changed p.state s] }

/-- Lets a program go on up to its next question. -/
def go (c : ι) : Program σ Q A α → Pool σ Q A α ι → Pool σ Q A α ι
  | .done a, p => p.note (.returned c a)
  | .look next, p => go c (next p.state) p
  | .put s next, p => go c next (p.turn s)
  | .call q resume, p =>
    { p.note (.asked c q) with strands := p.strands ++ [{ call := c, question := q, resume }] }

end Pool

/-- Which programs there are, and what surrounds them. -/
structure System (σ Q : Type) (A : Q → Type) (α ι : Type) where
  /-- What runs when something is called. -/
  program : ι → Program σ Q A α
  /-- When something may be called: by the state, what was observed, and what is under way. -/
  admits : ι → σ → List (Note σ Q α ι) → List (ι × Q) → Prop
  /-- What a question may be answered with, and the state in which it is. -/
  serves : (q : Q) → σ → A q → σ → Prop
  /-- Whether the strands of a call may be dropped. -/
  mayDrop : ι → Prop
  /-- How the state may change by itself. -/
  turns : σ → σ → Prop

/-- What a strand is doing, as it is seen from outside. -/
def Strand.tag (f : Strand σ Q A α ι) : ι × Q := (f.call, f.question)

namespace System

/-- One step of a pool. -/
inductive Step (X : System σ Q A α ι) : Pool σ Q A α ι → Pool σ Q A α ι → Prop
  | call {p : Pool σ Q A α ι} {c : ι} (admitted : X.admits c p.state p.notes (p.strands.map Strand.tag)) :
    Step X p ((p.note (.called c)).go c (X.program c))
  | answer {p : Pool σ Q A α ι} {l₁ l₂ : List (Strand σ Q A α ι)} {f : Strand σ Q A α ι}
    {a : A f.question} {s : σ} (split : p.strands = l₁ ++ f :: l₂)
    (served : X.serves f.question p.state a s) :
    Step X p
      ((({ p with state := s, strands := l₁ ++ l₂ } : Pool σ Q A α ι).note
        (.answered f.call f.question)).go f.call (f.resume a))
  | drop {p : Pool σ Q A α ι} {l₁ l₂ : List (Strand σ Q A α ι)} {f : Strand σ Q A α ι}
    (split : p.strands = l₁ ++ f :: l₂) (droppable : X.mayDrop f.call) :
    Step X p
      (({ p with strands := l₁ ++ l₂, gone := p.gone ++ [f] } : Pool σ Q A α ι).note
        (.dropped f.call f.question))
  | turn {p : Pool σ Q A α ι} {s : σ} (turned : X.turns p.state s) : Step X p (p.turn s)

/-- The pools that runs from a state lead to. -/
inductive Reaches (X : System σ Q A α ι) (start : σ) : Pool σ Q A α ι → Prop
  | init : Reaches X start { state := start }
  | step {p p' : Pool σ Q A α ι} (before : Reaches X start p) (next : X.Step p p') :
    Reaches X start p'

end System

/-- Notes only grow while a program goes on. -/
theorem Pool.notes_go (c : ι) (prog : Program σ Q A α) (p : Pool σ Q A α ι) :
    p.notes <+: (p.go c prog).notes := by
  induction prog generalizing p with
  | done a => exact List.prefix_append ..
  | look next ih => exact ih p.state p
  | put s next ih =>
    refine .trans ?_ (ih (p.turn s))
    exact List.prefix_append ..
  | call q resume => exact List.prefix_append ..

/-- Notes only grow. -/
theorem System.Step.notes {X : System σ Q A α ι} {p p' : Pool σ Q A α ι} (next : X.Step p p') :
    p.notes <+: p'.notes := by
  cases next with
  | call _ | answer _ _ =>
    refine .trans ?_ (Pool.notes_go ..)
    exact List.prefix_append ..
  | drop _ _ => exact List.prefix_append ..
  | turn _ => exact List.prefix_append ..

theorem notes_later {X : System σ Q A α ι} {p p' : Pool σ Q A α ι}
    (later : Relation.ReflTransGen X.Step p p') : p.notes <+: p'.notes := by
  induction later with
  | refl => exact List.prefix_rfl
  | tail _ next ih => exact ih.trans next.notes

/-- Where less happens by itself, no more is reached. -/
theorem System.Reaches.of_turns {X : System σ Q A α ι} {turns : σ → σ → Prop}
    (fewer : ∀ s s', turns s s' → X.turns s s') {start : σ} {p : Pool σ Q A α ι}
    (run : ({ X with turns } : System σ Q A α ι).Reaches start p) : X.Reaches start p := by
  induction run with
  | init => exact .init
  | step before next ih =>
    refine .step ih ?_
    cases next with
    | call admitted => exact .call admitted
    | answer split served => exact .answer split served
    | drop split droppable => exact .drop split droppable
    | turn turned => exact .turn (fewer _ _ turned)

/-- A state that a run has passed through: the present one, or one that was put in place. -/
def Pool.Passed (p : Pool σ Q A α ι) (s : σ) : Prop :=
  s = p.state ∨ ∃ before, .changed before s ∈ p.notes

/-! ## Runs told step by step -/

/-- Calls a program. -/
def Pool.call (X : System σ Q A α ι) (c : ι) (p : Pool σ Q A α ι) : Pool σ Q A α ι :=
  (p.note (.called c)).go c (X.program c)

/-- Nothing is called while a program goes on. -/
theorem Pool.called_mem_go {c c' : ι} (prog : Program σ Q A α) (p : Pool σ Q A α ι) :
    .called c' ∈ (p.go c prog).notes ↔ .called c' ∈ p.notes := by
  induction prog generalizing p with
  | done a => simp [Pool.go, Pool.note]
  | look next ih => exact ih p.state p
  | put s next ih => simp [Pool.go, ih, Pool.turn]
  | call q resume => simp [Pool.go, Pool.note]

theorem Pool.called_mem_call {X : System σ Q A α ι} {c c' : ι} {p : Pool σ Q A α ι} :
    .called c' ∈ (p.call X c).notes ↔ c' = c ∨ .called c' ∈ p.notes := by
  simp [Pool.call, called_mem_go, Pool.note, or_comm]

theorem Pool.notes_call (X : System σ Q A α ι) (c : ι) (p : Pool σ Q A α ι) :
    p.notes <+: (p.call X c).notes :=
  (List.prefix_append p.notes [.called c]).trans (notes_go c (X.program c) (p.note (.called c)))

/-- Answers the `k`-th strand, by what there is to reply to every question. -/
def Pool.answer (reply : (q : Q) → A q) (k : Nat) (p : Pool σ Q A α ι) : Pool σ Q A α ι :=
  match p.strands[k]? with
  | none => p
  | some f =>
    (({ p with strands := p.strands.take k ++ p.strands.drop (k + 1) } : Pool σ Q A α ι).note
      (.answered f.call f.question)).go f.call (f.resume (reply f.question))

/-- Answers the `k`-th strand by a server that keeps its things in the state. -/
def Pool.answerBy (serve : (q : Q) → σ → A q × σ) (k : Nat) (p : Pool σ Q A α ι) :
    Pool σ Q A α ι :=
  match p.strands[k]? with
  | none => p
  | some f =>
    (({ p with
        state := (serve f.question p.state).2
        strands := p.strands.take k ++ p.strands.drop (k + 1) } : Pool σ Q A α ι).note
      (.answered f.call f.question)).go f.call (f.resume (serve f.question p.state).1)

/-- Answers some strands, one after another. -/
def Pool.answersBy (serve : (q : Q) → σ → A q × σ) (ks : List Nat) (p : Pool σ Q A α ι) :
    Pool σ Q A α ι :=
  ks.foldl (fun p k => p.answerBy serve k) p

theorem Pool.notes_answersBy (serve : (q : Q) → σ → A q × σ) (ks : List Nat) (p : Pool σ Q A α ι) :
    p.notes <+: (p.answersBy serve ks).notes := by
  induction ks generalizing p with
  | nil => exact List.prefix_rfl
  | cons k ks ih =>
    refine .trans ?_ (ih (p.answerBy serve k))
    unfold answerBy
    split
    · exact List.prefix_rfl
    · refine .trans ?_ (notes_go ..)
      exact List.prefix_append ..

namespace System.Reaches

variable {X : System σ Q A α ι} {start : σ} {p : Pool σ Q A α ι}

theorem call (run : X.Reaches start p) {c : ι}
    (admitted : X.admits c p.state p.notes (p.strands.map Strand.tag)) :
    X.Reaches start (p.call X c) :=
  .step run (.call admitted)

theorem turn (run : X.Reaches start p) {s : σ} (turned : X.turns p.state s) :
    X.Reaches start (p.turn s) :=
  .step run (.turn turned)

theorem answerAt (run : X.Reaches start p) {reply : (q : Q) → A q} {k : Nat}
    (served : ∀ f ∈ p.strands[k]?, X.serves f.question p.state (reply f.question) p.state) :
    X.Reaches start (p.answer reply k) := by
  unfold Pool.answer
  split
  · exact run
  · rename_i f found
    obtain ⟨small, rfl⟩ := List.getElem?_eq_some_iff.mp found
    refine .step run (.answer (s := p.state) ?_ (served _ found))
    rw [List.getElem_cons_drop, List.take_append_drop]

theorem answer (run : X.Reaches start p) {reply : (q : Q) → A q}
    (served : ∀ q, X.serves q p.state (reply q) p.state) (k : Nat) :
    X.Reaches start (p.answer reply k) :=
  run.answerAt fun f _ => served f.question

theorem answerByAt (run : X.Reaches start p) {serve : (q : Q) → σ → A q × σ} {k : Nat}
    (served : ∀ f ∈ p.strands[k]?,
      X.serves f.question p.state (serve f.question p.state).1 (serve f.question p.state).2) :
    X.Reaches start (p.answerBy serve k) := by
  unfold Pool.answerBy
  split
  · exact run
  · rename_i f found
    obtain ⟨small, rfl⟩ := List.getElem?_eq_some_iff.mp found
    refine .step run (.answer ?_ (served _ found))
    rw [List.getElem_cons_drop, List.take_append_drop]

theorem answerBy (run : X.Reaches start p) {serve : (q : Q) → σ → A q × σ}
    (served : ∀ q s, X.serves q s (serve q s).1 (serve q s).2) (k : Nat) :
    X.Reaches start (p.answerBy serve k) :=
  run.answerByAt fun f _ => served f.question p.state

theorem answersBy (run : X.Reaches start p) {serve : (q : Q) → σ → A q × σ}
    (served : ∀ q s, X.serves q s (serve q s).1 (serve q s).2) (ks : List Nat) :
    X.Reaches start (p.answersBy serve ks) := by
  induction ks generalizing p with
  | nil => exact run
  | cons k ks ih => exact ih (run.answerBy served k)

end System.Reaches

/-! ## Programs that come to an end -/

/-- A program that is answered whatever it asks can go on to its end, whatever else is under way. -/
theorem System.exists_returned {X : System σ Q A α ι} (answered : ∀ q s, ∃ a s', X.serves q s a s')
    {c : ι} (prog : Program σ Q A α) (p : Pool σ Q A α ι) :
    ∃ p' a, Relation.ReflTransGen X.Step (p.go c prog) p' ∧ .returned c a ∈ p'.notes := by
  induction prog generalizing p with
  | done a => exact ⟨_, a, .refl, List.mem_append_right _ (List.mem_singleton_self _)⟩
  | look next ih => exact ih p.state p
  | put s next ih => exact ih (p.turn s)
  | call q resume ih =>
    obtain ⟨a, s, served⟩ := answered q p.state
    let f : Strand σ Q A α ι := { call := c, question := q, resume }
    let asked : Pool σ Q A α ι := p.note (.asked c q)
    obtain ⟨p', result, later, returned⟩ := ih a
      (({ asked with state := s, strands := p.strands ++ [] } : Pool σ Q A α ι).note (.answered c q))
    exact ⟨p', result, .head (.answer (f := f) rfl served) later, returned⟩

/-- A strand that is answered whatever it asks can come to its end. -/
theorem System.exists_ended {X : System σ Q A α ι} (answered : ∀ q s, ∃ a s', X.serves q s a s')
    {p : Pool σ Q A α ι} {f : Strand σ Q A α ι} (waits : f ∈ p.strands) :
    ∃ p' a, Relation.ReflTransGen X.Step p p' ∧ .returned f.call a ∈ p'.notes := by
  obtain ⟨l₁, l₂, split⟩ := List.append_of_mem waits
  obtain ⟨a, s, served⟩ := answered f.question p.state
  obtain ⟨p', result, later, returned⟩ := exists_returned answered (f.resume a)
    (({ p with state := s, strands := l₁ ++ l₂ } : Pool σ Q A α ι).note (.answered f.call f.question))
  exact ⟨p', result, .head (.answer split served) later, returned⟩

/-! ## Disciplines -/

/-- A strand as it is seen from outside, and where it stands. -/
structure Stance (Q ι γ : Type) where
  call : ι
  question : Q
  standing : γ

/-- What a stance shows of its strand. -/
def Stance.tag {γ : Type} (w : Stance Q ι γ) : ι × Q := (w.call, w.question)

/-- **A discipline**: a conduct that every program of a system heeds, and what it keeps true of the
state, the notes, the program that runs just now, the strands that wait and those that were dropped. -/
structure Discipline (X : System σ Q A α ι) (γ : Type) extends Conduct σ Q γ where
  /-- Where a program stands that is called. -/
  start : ι → γ
  /-- With what it may end. -/
  ending : ι → γ → σ → α → Prop
  /-- The invariant. -/
  holds : σ → List (Note σ Q α ι) → Option (ι × γ) → List (Stance Q ι γ) → List (Stance Q ι γ) → Prop
  heeds {c s h W D} : holds s h none W D → X.admits c s h (W.map Stance.tag) →
    (X.program c).Heeds toConduct (ending c) (start c) s
  called {c s h W D} : holds s h none W D → X.admits c s h (W.map Stance.tag) →
    holds s (h ++ [.called c]) (some (c, start c)) W D
  answered {s h l₁ w l₂ D a s'} : holds s h none (l₁ ++ w :: l₂) D → X.serves w.question s a s' →
    finds w.standing s' ∧
      holds s' (h ++ [.answered w.call w.question]) (some (w.call, w.standing)) (l₁ ++ l₂) D
  put {s h c g W D s' g'} : holds s h (some (c, g)) W D → puts g s s' g' →
    holds s' (h ++ [.changed s s']) (some (c, g')) W D
  asked {s h c g W D q g'} : holds s h (some (c, g)) W D → asks g s q g' →
    holds s (h ++ [.asked c q]) none (W ++ [⟨c, q, g'⟩]) D
  returned {s h c g W D a} : holds s h (some (c, g)) W D → ending c g s a →
    holds s (h ++ [.returned c a]) none W D
  dropped {s h l₁ w l₂ D} : holds s h none (l₁ ++ w :: l₂) D → X.mayDrop w.call →
    holds s (h ++ [.dropped w.call w.question]) none (l₁ ++ l₂) (D ++ [w])
  turned {s h W D s'} : holds s h none W D → X.turns s s' → holds s' (h ++ [.changed s s']) none W D

namespace Discipline

variable {X : System σ Q A α ι} {γ : Type} (D : Discipline X γ)

/-- A strand keeps to the discipline from where it stands. -/
def Keeps (f : Strand σ Q A α ι) (w : Stance Q ι γ) : Prop :=
  w.tag = f.tag ∧ ∀ a s, D.finds w.standing s →
    (f.resume a).Heeds D.toConduct (D.ending f.call) w.standing s

/-- The invariant of a pool in which no program runs just now. -/
def Holds (p : Pool σ Q A α ι) : Prop :=
  ∃ W G, List.Forall₂ D.Keeps p.strands W ∧ p.gone.map Strand.tag = G.map Stance.tag ∧
    D.holds p.state p.notes none W G

/-- A program that heeds the conduct goes on to its next question under the invariant. -/
theorem holds_go {c : ι} (prog : Program σ Q A α) {g : γ} {p : Pool σ Q A α ι}
    {W G : List (Stance Q ι γ)} (waiting : List.Forall₂ D.Keeps p.strands W)
    (tags : p.gone.map Strand.tag = G.map Stance.tag)
    (inv : D.holds p.state p.notes (some (c, g)) W G)
    (heeds : prog.Heeds D.toConduct (D.ending c) g p.state) : D.Holds (p.go c prog) := by
  induction prog generalizing g p with
  | done a => exact ⟨W, G, waiting, tags, D.returned inv heeds⟩
  | look next ih => exact ih p.state waiting tags inv heeds
  | put s' next ih =>
    obtain ⟨g', put, rest⟩ := heeds
    exact ih (p := p.turn s') waiting tags (D.put inv put) rest
  | call q resume ih =>
    obtain ⟨g', ask, rest⟩ := heeds
    let w : Stance Q ι γ := { call := c, question := q, standing := g' }
    exact ⟨W ++ [w], G, List.rel_append waiting (.cons ⟨rfl, rest⟩ .nil), tags,
      D.asked inv ask⟩

/-- What stands in the place of one element among those of a list. -/
private theorem forall₂_split {β₁ β₂ : Type} {R : β₁ → β₂ → Prop} {x : β₁} {l₂ : List β₁} :
    ∀ {l₁ : List β₁} {m : List β₂}, List.Forall₂ R (l₁ ++ x :: l₂) m →
      ∃ m₁ y m₂, m = m₁ ++ y :: m₂ ∧ List.Forall₂ R l₁ m₁ ∧ R x y ∧ List.Forall₂ R l₂ m₂
  | [], _, h => by
    obtain ⟨y, m₂, hxy, h₂, rfl⟩ := List.forall₂_cons_left_iff.mp h
    exact ⟨[], y, m₂, rfl, .nil, hxy, h₂⟩
  | _ :: _, _, h => by
    obtain ⟨z, m', hz, tail, rfl⟩ := List.forall₂_cons_left_iff.mp h
    obtain ⟨m₁, y, m₂, rfl, h₁, hxy, h₂⟩ := forall₂_split tail
    exact ⟨z :: m₁, y, m₂, rfl, .cons hz h₁, hxy, h₂⟩

/-- Strands show what their stances show. -/
theorem tags_eq {strands : List (Strand σ Q A α ι)} {W : List (Stance Q ι γ)}
    (waiting : List.Forall₂ D.Keeps strands W) : strands.map Strand.tag = W.map Stance.tag := by
  induction waiting with
  | nil => rfl
  | cons keeps _ ih => simp only [List.map_cons, ih, keeps.1]

/-- One step keeps the invariant. -/
theorem holds_step {p p' : Pool σ Q A α ι} (h : D.Holds p) (next : X.Step p p') : D.Holds p' := by
  obtain ⟨W, G, waiting, tags, inv⟩ := h
  cases next with
  | call admitted =>
    rw [D.tags_eq waiting] at admitted
    exact D.holds_go _ (p := p.note (.called _)) waiting tags (D.called inv admitted)
      (D.heeds inv admitted)
  | @answer l₁ l₂ f a s split served =>
    rw [split] at waiting
    obtain ⟨W₁, ⟨call, question, standing⟩, W₂, rfl, h₁, ⟨htag, rest⟩, h₂⟩ := forall₂_split waiting
    obtain ⟨rfl, rfl⟩ := Prod.mk.inj htag
    obtain ⟨found, inv'⟩ := D.answered inv served
    exact D.holds_go _ (List.rel_append h₁ h₂) tags inv' (rest a s found)
  | @drop l₁ l₂ f split droppable =>
    rw [split] at waiting
    obtain ⟨W₁, ⟨call, question, standing⟩, W₂, rfl, h₁, ⟨htag, rest⟩, h₂⟩ := forall₂_split waiting
    obtain ⟨rfl, rfl⟩ := Prod.mk.inj htag
    let w : Stance Q ι γ := { call := f.call, question := f.question, standing }
    refine ⟨W₁ ++ W₂, G ++ [w], List.rel_append h₁ h₂, ?_, D.dropped inv droppable⟩
    simp only [Pool.note, List.map_append, tags]
    rfl
  | turn turned => exact ⟨W, G, waiting, tags, D.turned inv turned⟩

/-- **A discipline is kept by every run**: what holds of the first state holds of every pool that
the system reaches. -/
theorem sound {start : σ} (first : D.holds start [] none [] []) {p : Pool σ Q A α ι}
    (run : X.Reaches start p) : D.Holds p := by
  induction run with
  | init => exact ⟨[], [], .nil, rfl, first⟩
  | step _ next ih => exact D.holds_step ih next

/-- What holds now holds ever after. -/
theorem holds_later {p p' : Pool σ Q A α ι} (h : D.Holds p) (later : Relation.ReflTransGen X.Step p p') :
    D.Holds p' := by
  induction later with
  | refl => exact h
  | tail _ next ih => exact D.holds_step ih next

/-- With one more state that was put in place. -/
private theorem recalled_snoc {P : σ → Prop} {h : List (Note σ Q α ι)} {s s' : σ}
    (recalled : ∀ before after, .changed before after ∈ h → P after) (here : P s') :
    ∀ before after, .changed before after ∈ h ++ [.changed s s'] → P after := by
  intro before after noted
  rcases List.mem_append.mp noted with noted | last
  · exact recalled before after noted
  · obtain ⟨_, rfl⟩ := Note.changed.inj (List.mem_singleton.mp last)
    exact here

/-- What the invariant says of every state is also true of all that were put in place. -/
def recalling {P : σ → Prop} (known : ∀ {s h cur W G}, D.holds s h cur W G → P s) :
    Discipline X γ where
  toConduct := D.toConduct
  start := D.start
  ending := D.ending
  holds s h cur W G := D.holds s h cur W G ∧ ∀ before after, .changed before after ∈ h → P after
  heeds holds admits := D.heeds holds.1 admits
  called holds admits := ⟨D.called holds.1 admits, by simpa using holds.2⟩
  answered holds served := by
    obtain ⟨found, inv⟩ := D.answered holds.1 served
    exact ⟨found, inv, by simpa using holds.2⟩
  put holds put := ⟨D.put holds.1 put, recalled_snoc holds.2 (known (D.put holds.1 put))⟩
  asked holds ask := ⟨D.asked holds.1 ask, by simpa using holds.2⟩
  returned holds ending := ⟨D.returned holds.1 ending, by simpa using holds.2⟩
  dropped holds may := ⟨D.dropped holds.1 may, by simpa using holds.2⟩
  turned holds turned :=
    ⟨D.turned holds.1 turned, recalled_snoc holds.2 (known (D.turned holds.1 turned))⟩

/-- **What a discipline says of every state holds of all that a run passes through**, those that
programs put in place between two questions among them. -/
theorem passed {P : σ → Prop} (known : ∀ {s h cur W G}, D.holds s h cur W G → P s) {start : σ}
    (first : D.holds start [] none [] []) {p : Pool σ Q A α ι} (run : X.Reaches start p) {s : σ}
    (passed : p.Passed s) : P s := by
  have nothing : ∀ before after, (.changed before after : Note σ Q α ι) ∈ [] → P after :=
    fun _ _ noted => absurd noted List.not_mem_nil
  obtain ⟨W, G, _, _, inv, recalled⟩ := (D.recalling known).sound ⟨first, nothing⟩ run
  rcases passed with rfl | ⟨before, noted⟩
  · exact known inv
  · exact recalled before s noted

/-- **The discipline of changes of one kind**: if changes of that kind come together to one, then one
of them leads from the first state to any other. -/
def within {R : σ → σ → Prop} (trans : ∀ {s s' s''}, R s s' → R s' s'' → R s s'')
    (programs : ∀ c s, (X.program c).ChangesBy R s)
    (serves : ∀ {q s a s'}, X.serves q s a s' → R s s') (turns : ∀ {s s'}, X.turns s s' → R s s')
    (base : σ) : Discipline X Unit where
  toConduct := .within R
  start _ := ()
  ending _ _ _ _ := True
  holds s _ _ _ _ := R base s
  heeds _ _ := programs ..
  called since _ := since
  answered since served := ⟨trivial, trans since (serves served)⟩
  put since put := trans since put
  asked since _ := since
  returned since _ := since
  dropped since _ := since
  turned since turned := trans since (turns turned)

end Discipline

/-! ## Counting stands -/

/-- How many programs stand in some way: the one that runs just now, those that wait, and those that
were dropped where they waited. -/
def tally {γ : Type} (P : γ → Bool) (cur : Option (ι × γ)) (W G : List (Stance Q ι γ)) : Nat :=
  cur.toList.countP (fun x => P x.2) + (W.countP (fun w => P w.standing) +
    G.countP (fun w => P w.standing))

section tally

variable {γ : Type} {P : γ → Bool} {c : ι} {g g' : γ} {q : Q} {w : Stance Q ι γ}
  {W G l₁ l₂ : List (Stance Q ι γ)}

theorem tally_called : tally P (some (c, g)) W G = tally P none W G + if P g then 1 else 0 := by
  simp only [tally, Option.toList_some, Option.toList_none, List.countP_cons, List.countP_nil]
  omega

theorem tally_answered :
    tally P (some (w.call, w.standing)) (l₁ ++ l₂) G = tally P none (l₁ ++ w :: l₂) G := by
  simp only [tally, Option.toList_some, Option.toList_none, List.countP_cons, List.countP_nil,
    List.countP_append]
  omega

theorem tally_asked : tally P none (W ++ [⟨c, q, g'⟩]) G = tally P (some (c, g')) W G := by
  simp only [tally, Option.toList_some, Option.toList_none, List.countP_cons, List.countP_nil,
    List.countP_append]
  omega

theorem tally_dropped : tally P none (l₁ ++ l₂) (G ++ [w]) = tally P none (l₁ ++ w :: l₂) G := by
  simp only [tally, List.countP_cons, List.countP_nil, List.countP_append]
  omega

/-- Who stands in a narrower way stands in a wider one. -/
theorem tally_mono {P' : γ → Bool} (wider : ∀ g, P g = true → P' g = true) {cur : Option (ι × γ)} :
    tally P cur W G ≤ tally P' cur W G :=
  Nat.add_le_add (List.countP_mono_left fun _ _ => wider _)
    (Nat.add_le_add (List.countP_mono_left fun _ _ => wider _)
      (List.countP_mono_left fun _ _ => wider _))

theorem tally_pos {cur : Option (ι × γ)} (hw : w ∈ W ++ G) (stands : P w.standing = true) :
    0 < tally P cur W G := by
  have counted : 0 < (W ++ G).countP fun w => P w.standing :=
    List.countP_pos_iff.mpr ⟨w, hw, stands⟩
  rw [List.countP_append] at counted
  unfold tally
  omega

/-- Of programs that all wait or were dropped, one that counts is among them. -/
theorem exists_of_tally_pos (some' : 0 < tally P (none : Option (ι × γ)) W G) :
    ∃ w ∈ W ++ G, P w.standing = true := by
  refine List.countP_pos_iff.mp ?_
  rw [List.countP_append]
  unfold tally at some'
  simpa using some'

end tally

end SessionHub
